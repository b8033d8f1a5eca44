import GrantSurvey.ClassFile.Read
import GrantSurvey.Proofs.LookupAgreement
import GrantSurvey.Proofs.MeasuredReading

/-!
# The strict and the skimming reading agree

On a class file whose declared lengths are true, whose pool is filled as its count says with texts
in plain UTF-8, and whose methods have names and at most one body, the two readings give the same
class, or both give none.
-/

namespace GrantSurvey.ClassFile

open Outcome Reader
open Strict (Attribute CodeBody MethodInfo Layout Agrees MethodAgrees)

/-! ## Methods -/

/-- Skimming the attributes of a method is skimming the bodies among them. -/
theorem mapM_skim (pool : ConstantPool) (name descriptor : String) (kept : List Attribute) :
    (do return (← kept.mapM (·.skim pool name descriptor)).filterMap id) =
      (kept.filterMap Attribute.body?).mapM (·.skim pool name descriptor) := by
  induction kept with
  | nil => rfl
  | cons first others ih =>
      rw [List.mapM_cons, List.filterMap_cons, Attribute.skim]
      -- Failures come in the same order on both sides, so each outcome of the parts is one case.
      generalize others.mapM (·.skim pool name descriptor) = following at ih ⊢
      cases first.body? with
      | none =>
          rw [← ih]
          cases following <;> rfl
      | some body =>
          simp only [List.mapM_cons]
          rw [← ih]
          cases body.skim pool name descriptor <;> cases following <;> rfl

/-- The written method, as skimming gives it, from what is kept of it. -/
theorem Strict.MethodAgrees.skim_eq {pool : ConstantPool} {text : MemberText} {info : MethodInfo}
    (agrees : MethodAgrees pool text info) :
    text.skim pool = (do
      let name ← inPlace .methodName (ConstantPool.Skim.utf8 pool info.name)
      let descriptor ← inPlace .methodDescriptor (ConstantPool.Skim.utf8 pool info.descriptor)
      let bodies ← (info.attributes.filterMap Attribute.body?).mapM
        (·.skim pool name descriptor)
      return bodies.getLast?.map fun (instructions, lines) =>
        { name, descriptor, instructions, lines }) := by
  rw [MemberText.skim, agrees.name, agrees.descriptor]
  congr 1
  funext name
  congr 1
  funext descriptor
  rw [mapM_congr_forall₂ (agrees.attributes.imp fun _ _ same => same.body name descriptor),
    ← mapM_skim]
  cases info.attributes.mapM (·.skim pool name descriptor) <;> rfl

/-- A method with a name, a descriptor and at most one body. -/
structure Regular (pool : ConstantPool) (info : MethodInfo) : Prop where
  name : ∃ text, pool.entry? info.name = some (.utf8 text)
  descriptor : ∃ text, pool.entry? info.descriptor = some (.utf8 text)
  oneBody : (info.attributes.filterMap Attribute.body?).length ≤ 1

theorem skim_single (pool : ConstantPool) (name descriptor : String) (body : CodeBody) :
    (do
      let bodies ← [body].mapM (CodeBody.skim pool name descriptor)
      return bodies.getLast?.map fun (instructions, lines) =>
        { name, descriptor, instructions, lines : Method }) = (do
      let instructions ← inPlace (.codeOf name descriptor)
        (Bytecode.decode pool.skimSymbols body.handlers body.code)
      return some { name, descriptor, instructions, lines := sortLines body.lines }) := by
  rw [List.mapM_cons, List.mapM_nil, CodeBody.skim]
  cases Bytecode.decode pool.skimSymbols body.handlers body.code <;> rfl

theorem Strict.MethodAgrees.alike {pool : ConstantPool} {text : MemberText} {info : MethodInfo}
    (agrees : MethodAgrees pool text info) (regular : Regular pool info) :
    Alike (info.resolve pool) (text.skim pool) := by
  obtain ⟨name, named⟩ := regular.name
  obtain ⟨descriptor, described⟩ := regular.descriptor
  rw [MethodInfo.resolve, ← List.head?_filterMap, agrees.skim_eq]
  match bodies : info.attributes.filterMap Attribute.body?, regular.oneBody with
  | [], _ =>
      simp only [ConstantPool.Skim.utf8, named, described]
      exact Alike.refl _
  | [body], _ =>
      refine (alike_inPlace (pool.utf8_alike info.name) _ _).bind fun name _ => ?_
      refine (alike_inPlace (pool.utf8_alike info.descriptor) _ _).bind fun descriptor _ => ?_
      rw [skim_single]
      exact (alike_inPlace (pool.decode_alike body.handlers body.code) _ _).bind fun _ _ =>
        Alike.refl _

/-! ## Classes -/

theorem resolve_alike {layout : Layout} {text : ClassText} (this : text.this = layout.this)
    (agree : List.Forall₂ (MethodAgrees layout.pool) text.methods.1 layout.methods)
    (regular : ∀ info ∈ layout.methods, Regular layout.pool info) :
    Alike layout.resolve (text.skim layout.pool) := by
  have pairs := (List.forall₂_and_left _ _).mpr ⟨regular, agree.flip⟩
  have methods : Alike (layout.methods.mapM (·.resolve layout.pool))
      (text.methods.1.mapM (·.skim layout.pool)) :=
    Alike.mapM (pairs.imp fun _ _ pair => pair.2.alike pair.1)
  rw [Layout.resolve, ClassText.skim, this]
  refine (alike_inPlace (layout.pool.className_alike layout.this) _ _).bind fun name _ => ?_
  exact (inPlace_alike methods .methods).bind fun _ _ => Alike.refl _

/-- A class file in which the readings have nothing to differ about: its header is good, it is
accepted, also when lengths are measured, its pool is written as its count says, with texts in plain
UTF-8, and its methods are regular. -/
structure Conforming (data : List UInt8) (layout : Layout) : Prop where
  header : readAll header data = .ok ()
  accepted : readAll Strict.layout data = .ok layout
  measured : ∃ found, readAll (Strict.layoutBy Strict.measured) data = .ok found
  pool : ∃ (lead : List UInt8) (pool : PoolText) (tail : List UInt8),
    lead.length = 8 ∧ data = lead ++ (pool.bytes ++ tail) ∧ pool.Standard
  regular : ∀ info ∈ layout.methods, Regular layout.pool info

theorem Conforming.skim_alike {data : List UInt8} {layout : Layout}
    (conforming : Conforming data layout) : Alike layout.resolve (Skim.read data) := by
  obtain ⟨found, measured⟩ := conforming.measured
  obtain ⟨lead, pool, tail, eight, written, standard⟩ := conforming.pool
  have accepted := (Strict.refines_layout.readAll measured).symm.trans conforming.accepted
  cases accepted
  obtain ⟨text, rfl, rfl, this, pools, agree⟩ :=
    Strict.exists_classText eight written measured
  rw [text.read_bytes, standard.entries_eq, ← pools]
  exact resolve_alike this agree conforming.regular

theorem Conforming.read_eq {data : List UInt8} {layout : Layout}
    (conforming : Conforming data layout) : read data = layout.resolve := by
  rw [read, conforming.header, ok_bind, conforming.accepted]

/-- A conforming class file is read strictly, and skimming it gives the same class, or none where
the strict reading gives none. -/
theorem readings_agree {data : List UInt8} {layout : Layout}
    (conforming : Conforming data layout) :
    read data = layout.resolve ∧
      ∀ found : ClassFile, layout.resolve = .ok found ↔ Skim.read data = .ok found :=
  ⟨conforming.read_eq, conforming.skim_alike⟩

/-- A class with a wide constant before others, a field with an attribute, a method whose lines are
out of order, a method without a body, and an attribute of its own. -/
theorem readings_agree_two_methods :
    let pool : PoolText :=
      ⟨[.utf8 [65] (by decide), .classRef 1, .utf8 [67, 111, 100, 101] (by decide),
        .utf8 [109] (by decide), .utf8 [40, 41, 86] (by decide), .long 0 7,
        .utf8 [76, 105, 110, 101, 78, 117, 109, 98, 101, 114, 84, 97, 98, 108, 101] (by decide),
        .utf8 [195, 169] (by decide), .utf8 [74] (by decide),
        .utf8 [67, 111, 110, 115, 116, 97, 110, 116, 86, 97, 108, 117, 101] (by decide),
        .utf8 [83, 111, 117, 114, 99, 101, 70, 105, 108, 101] (by decide),
        .methodRef 2 14, .nameAndType 4 5], by decide⟩
    let data : List UInt8 := [0xCA, 0xFE, 0xBA, 0xBE, 0, 0, 0, 52] ++ (pool.bytes ++ [
        0, 33, 0, 2, 0, 0, 0, 0, 0, 1, 0, 25, 0, 9, 0, 10, 0, 1, 0, 11, 0, 0, 0, 2, 0, 6, 0, 2,
        0, 9, 0, 4, 0, 5, 0, 1, 0, 3, 0, 0, 0, 35, 0, 2, 0, 0, 0, 0, 0, 7, 20, 0, 6, 184, 0,
        13, 177, 0, 0, 0, 1, 0, 8, 0, 0, 0, 10, 0, 2, 0, 3, 0, 5, 0, 0, 0, 4, 4, 1, 0, 4, 0, 5,
        0, 0, 0, 1, 0, 12, 0, 0, 0, 2, 0, 1])
    let body : CodeBody := ⟨[20, 0, 6, 184, 0, 13, 177], [], [⟨3, 5⟩, ⟨0, 4⟩]⟩
    let layout : Layout :=
      ⟨pool.entries ModifiedUtf8.classText, 2, [⟨4, 5, [.code body]⟩, ⟨4, 5, []⟩]⟩
    Conforming data layout ∧
      ∃ found, layout.resolve = .ok found ∧ Skim.read data = .ok found := by
  intro pool data body layout
  have checked : readAll header data = .ok () ∧ readAll Strict.layout data = .ok layout ∧
      readAll (Strict.layoutBy Strict.measured) data = .ok layout ∧ pool.Standard ∧
      layout.pool.entry? 4 = some (.utf8 "m") ∧ layout.pool.entry? 5 = some (.utf8 "()V") ∧
      layout.resolve.isOk = true := by
    decide +kernel
  obtain ⟨headed, accepted, measured, standard, named, described, resolved⟩ := checked
  have regular : ∀ info ∈ layout.methods, Regular layout.pool info := by
    intro info member
    simp only [layout, List.mem_cons, List.not_mem_nil, or_false] at member
    rcases member with rfl | rfl
    · exact ⟨⟨"m", named⟩, ⟨"()V", described⟩, Nat.le_refl 1⟩
    · exact ⟨⟨"m", named⟩, ⟨"()V", described⟩, Nat.zero_le 1⟩
  have conforming : Conforming data layout :=
    ⟨headed, accepted, ⟨layout, measured⟩, ⟨_, pool, _, rfl, rfl, standard⟩, regular⟩
  obtain ⟨found, resolves⟩ := isOk_iff.mp resolved
  exact ⟨conforming, found, resolves, ((readings_agree conforming).2 found).mp resolves⟩

end GrantSurvey.ClassFile
