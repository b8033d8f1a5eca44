import GrantSurvey.Proofs.ClassDescription

/-!
# Attributes that make no difference

Of all attributes only code and line tables have a say in what a class file describes. Another
class file that differs in attributes of other names, and in constants at the end of its pool for
them to refer to, is read as the same class.
-/

namespace GrantSurvey.ClassFile

open Outcome Reader

/-- Two rows with the same attributes of a given name, as `Matched` tells. Of those with other names,
some are removed from the first row and others are inserted into the second. -/
inductive AttributesVary (pool : PoolText) (name : String)
    (Matched : AttributeText → AttributeText → Prop) :
    List AttributeText → List AttributeText → Prop where
  | nil : AttributesVary pool name Matched [] []
  | keep {first second : AttributeText} {firsts seconds : List AttributeText}
      (matched : Matched first second) (others : AttributesVary pool name Matched firsts seconds) :
      AttributesVary pool name Matched (first :: firsts) (second :: seconds)
  | remove {first : AttributeText} {firsts seconds : List AttributeText}
      (other : first.IsOther pool name)
      (others : AttributesVary pool name Matched firsts seconds) :
      AttributesVary pool name Matched (first :: firsts) seconds
  | insert {second : AttributeText} {firsts seconds : List AttributeText}
      (other : second.IsOther pool name)
      (others : AttributesVary pool name Matched firsts seconds) :
      AttributesVary pool name Matched firsts (second :: seconds)

/-- Two bodies that have the same code, handlers and line tables. -/
structure CodeText.Varies (pool : PoolText) (text other : CodeText) : Prop where
  code : other.code = text.code
  handlers : other.handlers = text.handlers
  attributes : AttributesVary pool "LineNumberTable" Eq text.attributes.1 other.attributes.1

structure AttributeText.CodeVaries (pool : PoolText) (text other : AttributeText) : Prop where
  named : pool.HoldsText text.name "Code"
  otherNamed : pool.HoldsText other.name "Code"
  bodies : ∃ body otherBody : CodeText, text.content = body.bytes ∧
    other.content = otherBody.bytes ∧ body.Varies pool otherBody

/-- Two methods that have the same name and descriptor, and code that varies. -/
structure MemberText.Varies (pool : PoolText) (text other : MemberText) : Prop where
  name : other.name = text.name
  descriptor : other.descriptor = text.descriptor
  attributes : AttributesVary pool "Code" (AttributeText.CodeVaries pool) text.attributes.1
    other.attributes.1

/-- Two class files of the same name with methods that vary one by one. The second pool may have
constants in addition. Fields, and what follows the methods, need have nothing in common. -/
structure ClassText.Varies (text other : ClassText) : Prop where
  pool : ∃ more, other.pool.constants = text.pool.constants ++ more
  this : other.this = text.this
  methods : List.Forall₂ (MemberText.Varies other.pool) text.methods.1 other.methods.1

/-! ## Rows of attributes -/

/-- What is gathered from the attributes of a row does not vary, if nothing comes of those with
other names. -/
theorem AttributesVary.gathered {β γ : Type} {pool : PoolText} {name : String}
    {Matched : AttributeText → AttributeText → Prop} {firsts seconds : List AttributeText}
    (varies : AttributesVary pool name Matched firsts seconds)
    {f g : AttributeText → Except Fault β} (parts : β → List γ) {nothing : β}
    (empty : parts nothing = [])
    (kept : ∀ first second, Matched first second → CoveredBy (f first) (g second))
    (removed : ∀ text result, text.IsOther pool name → f text = .ok result → result = nothing)
    (inserted : ∀ text, text.IsOther pool name → g text = .ok nothing)
    {results : List β} (succeeds : firsts.mapM f = .ok results) :
    ∃ others, seconds.mapM g = .ok others ∧ others.flatMap parts = results.flatMap parts := by
  induction varies generalizing results with
  | nil =>
      cases succeeds
      exact ⟨[], rfl, rfl⟩
  | keep matched _ ih =>
      obtain ⟨result, following, found, rest, rfl⟩ := mapM_cons_eq_ok_iff.mp succeeds
      obtain ⟨others, mapped, gathered⟩ := ih rest
      refine ⟨result :: others, ?_, ?_⟩
      · exact mapM_cons_eq_ok_iff.mpr ⟨_, _, kept _ _ matched _ found, mapped, rfl⟩
      · rw [List.flatMap_cons, List.flatMap_cons, gathered]
  | remove other _ ih =>
      obtain ⟨result, following, found, rest, rfl⟩ := mapM_cons_eq_ok_iff.mp succeeds
      obtain ⟨others, mapped, gathered⟩ := ih rest
      refine ⟨others, mapped, ?_⟩
      rw [List.flatMap_cons, removed _ _ other found, empty, List.nil_append, gathered]
  | insert other _ ih =>
      obtain ⟨others, mapped, gathered⟩ := ih succeeds
      refine ⟨nothing :: others, ?_, ?_⟩
      · exact mapM_cons_eq_ok_iff.mpr ⟨_, _, inserted _ other, mapped, rfl⟩
      · rw [List.flatMap_cons, empty, List.nil_append, gathered]

/-! ## Skimming -/

section

variable {pool : ConstantPool} {larger : PoolText}
  (extended : pool.ExtendedBy (larger.entries Utf8.textLossy))

include extended

/-- In the smaller pool, too, an attribute has the other name that it has in the larger one. -/
theorem AttributeText.IsOther.ne {text : AttributeText} {name called : String}
    (unlike : text.IsOther larger name)
    (found : ConstantPool.Skim.utf8 pool text.name = .ok called) : called ≠ name := by
  obtain ⟨other, named, different⟩ := unlike
  have still := extended.utf8 text.name called found
  rw [named.utf8_eq] at still
  cases still
  exact different

theorem AttributeText.lines_coveredBy (text : AttributeText) :
    CoveredBy (text.lines pool) (text.lines (larger.entries Utf8.textLossy)) :=
  (extended.utf8 text.name).bind fun _ _ => CoveredBy.refl _

theorem AttributeText.IsOther.eq_nil_of_lines {text : AttributeText} {result : List LineNumber}
    (unlike : text.IsOther larger "LineNumberTable") (found : text.lines pool = .ok result) :
    result = [] := by
  obtain ⟨called, named, _⟩ := bind_eq_ok_iff.mp found
  rw [AttributeText.lines_eq_nil named (unlike.ne extended named)] at found
  cases found
  rfl

theorem CodeText.Varies.coveredBy {text other : CodeText} (varies : text.Varies larger other) :
    CoveredBy (text.skim pool) (other.skim (larger.entries Utf8.textLossy)) := by
  intro result succeeds
  obtain ⟨tables, read, succeeds⟩ := bind_eq_ok_iff.mp succeeds
  obtain ⟨instructions, decoded, same⟩ := bind_eq_ok_iff.mp succeeds
  cases same
  have kept (first second : AttributeText) (same : first = second) :
      CoveredBy (first.lines pool) (second.lines (larger.entries Utf8.textLossy)) :=
    same ▸ first.lines_coveredBy extended
  obtain ⟨others, mapped, gathered⟩ := varies.attributes.gathered id rfl kept
    (fun _ _ unlike found => unlike.eq_nil_of_lines extended found)
    (fun _ unlike => unlike.lines_eq) read
  rw [List.flatMap_id, List.flatMap_id] at gathered
  rw [CodeText.skim, mapped, ok_bind, varies.handlers, varies.code,
    extended.decode _ _ _ decoded, ok_bind, gathered, pure_eq_ok]

theorem AttributeText.CodeVaries.coveredBy {text other : AttributeText}
    (varies : text.CodeVaries larger other) (name descriptor : String) :
    CoveredBy (text.body pool name descriptor)
      (other.body (larger.entries Utf8.textLossy) name descriptor) := by
  obtain ⟨body, otherBody, content, otherContent, bodies⟩ := varies.bodies
  intro result succeeds
  obtain ⟨called, named, _⟩ := bind_eq_ok_iff.mp succeeds
  -- The smaller pool has a name for the attribute, and it is the one that the larger pool has.
  have still := extended.utf8 text.name called named
  rw [varies.named.utf8_eq] at still
  cases still
  rw [AttributeText.body_eq_skim named content] at succeeds
  rw [AttributeText.body_eq_skim varies.otherNamed.utf8_eq otherContent]
  have skims := coveredBy_inPlace (bodies.coveredBy extended) (.codeOf name descriptor)
    (.codeOf name descriptor)
  exact CoveredBy.map skims some result succeeds

theorem AttributeText.IsOther.eq_none_of_body {text : AttributeText} {name descriptor : String}
    {result : Option (List Instruction × List LineNumber)}
    (unlike : text.IsOther larger "Code") (found : text.body pool name descriptor = .ok result) :
    result = none := by
  obtain ⟨called, named, _⟩ := bind_eq_ok_iff.mp found
  rw [AttributeText.body_eq_none named (unlike.ne extended named)] at found
  cases found
  rfl

theorem MemberText.Varies.coveredBy {text other : MemberText} (varies : text.Varies larger other) :
    CoveredBy (text.skim pool) (other.skim (larger.entries Utf8.textLossy)) := by
  rw [MemberText.skim, MemberText.skim, varies.name, varies.descriptor]
  refine (coveredBy_inPlace (extended.utf8 text.name) _ _).bind fun name _ => ?_
  refine (coveredBy_inPlace (extended.utf8 text.descriptor) _ _).bind fun descriptor _ => ?_
  intro result succeeds
  obtain ⟨bodies, read, same⟩ := bind_eq_ok_iff.mp succeeds
  cases same
  obtain ⟨others, mapped, gathered⟩ := varies.attributes.gathered Option.toList rfl
    (fun _ _ codes => codes.coveredBy extended name descriptor)
    (fun _ _ unlike found => unlike.eq_none_of_body extended found)
    (fun _ unlike => unlike.body_eq name descriptor) read
  have same : others.filterMap id = bodies.filterMap id := by
    rw [List.filterMap_eq_flatMap_toList, List.filterMap_eq_flatMap_toList]
    exact gathered
  rw [mapped, ok_bind, same, pure_eq_ok]

end

/-- A class file whose attributes vary is skimmed to the same class. -/
theorem ClassText.Varies.skim_coveredBy {text other : ClassText} (varies : text.Varies other) :
    CoveredBy (text.skim (text.pool.entries Utf8.textLossy))
      (other.skim (other.pool.entries Utf8.textLossy)) := by
  obtain ⟨more, longer⟩ := varies.pool
  have extended := PoolText.extendedBy_of_append longer Utf8.textLossy
  rw [ClassText.skim, ClassText.skim, varies.this]
  refine (coveredBy_inPlace (extended.className text.this) _ _).bind fun name _ => ?_
  have methods := CoveredBy.mapM (varies.methods.imp fun _ _ varies => varies.coveredBy extended)
  exact methods.bind fun _ _ => CoveredBy.refl _

/-- A class file is read as the class that it describes. It goes on being read as that class when
attributes other than code and line tables are inserted or removed. -/
theorem ClassText.read_described {text : ClassText} {classFile : ClassFile}
    (describes : text.Describes classFile) :
    Skim.read text.bytes = .ok classFile ∧
      ∀ other : ClassText, text.Varies other → Skim.read other.bytes = .ok classFile := by
  constructor
  · rw [text.read_bytes, describes.skim_eq]
  · intro other varies
    rw [other.read_bytes]
    exact varies.skim_coveredBy classFile describes.skim_eq

/-- A class with a wide constant before others and two line tables out of order. Its method and its
body each have an attribute that nobody knows; once these are gone, and the body and a second method
have others, of a name that is new in the pool, the class is the same. -/
theorem ClassText.read_described_wide_constant :
    let constants : List Constant :=
      [.utf8 (Utf8.bytes "A") (by decide), .classRef 1, .long 0 7,
        .utf8 (Utf8.bytes "Code") (by decide), .utf8 (Utf8.bytes "m") (by decide),
        .utf8 (Utf8.bytes "()V") (by decide), .utf8 (Utf8.bytes "LineNumberTable") (by decide),
        .utf8 (Utf8.bytes "Old") (by decide), .methodRef 2 11, .nameAndType 6 7]
    let pool : PoolText := ⟨constants, by decide⟩
    let more : List Constant := [.utf8 (Utf8.bytes "New") (by decide)]
    let larger : PoolText := ⟨constants ++ more, by decide⟩
    let old : AttributeText := ⟨9, [1, 2, 3], by decide⟩
    let new : AttributeText := ⟨12, [], by decide⟩
    let table (start line : UInt16) : AttributeText :=
      ⟨8, Rows.bytes LineText.bytes ⟨[⟨start, line⟩], Nat.le_of_ble_eq_true rfl⟩,
        Nat.le_of_ble_eq_true rfl⟩
    let body (attributes : Rows AttributeText) : CodeText :=
      ⟨2, 0, [20, 0, 3, 184, 0, 10, 177], by decide, ⟨[], by decide⟩, attributes⟩
    let before := body ⟨[table 3 5, old, table 0 4], by decide⟩
    let after := body ⟨[new, table 3 5, table 0 4, new], by decide⟩
    let file (pool : PoolText) (first second : Rows AttributeText) : ClassText :=
      ⟨[0xCA, 0xFE, 0xBA, 0xBE, 0, 0, 0, 52], by decide, pool, 33, 2, 0, ⟨[], by decide⟩,
        ⟨[], by decide⟩, ⟨[⟨9, 6, 7, first⟩, ⟨1025, 6, 7, second⟩],
          Nat.le_of_ble_eq_true rfl⟩, []⟩
    let text := file pool ⟨[old, ⟨5, before.bytes, by decide⟩], by decide⟩ ⟨[], by decide⟩
    let other := file larger ⟨[⟨5, after.bytes, by decide⟩], by decide⟩ ⟨[new], by decide⟩
    let classFile : ClassFile := ⟨"A", [⟨"m", "()V", [⟨0, .constant (.long 7), false⟩,
      ⟨3, .invoke .static ⟨"A", "m", "()V"⟩, false⟩, ⟨6, .other 177, false⟩],
      [⟨0, 4⟩, ⟨3, 5⟩]⟩]⟩
    text.Describes classFile ∧ text.Varies other ∧
      Skim.read text.bytes = .ok classFile ∧ Skim.read other.bytes = .ok classFile := by
  intro constants pool more larger old new table body before after file text other classFile
  have checked : pool.Standard ∧
      Bytecode.decode (pool.entries Utf8.textLossy).skimSymbols [] [20, 0, 3, 184, 0, 10, 177] =
        .ok [⟨0, .constant (.long 7), false⟩, ⟨3, .invoke .static ⟨"A", "m", "()V"⟩, false⟩,
          ⟨6, .other 177, false⟩] := by
    decide +kernel
  obtain ⟨standard, decoded⟩ := checked
  have ordered : StablyOrdered (fun first second => decide (first ≤ second)) LineNumber.start
      [⟨3, 5⟩, ⟨0, 4⟩] [⟨0, 4⟩, ⟨3, 5⟩] := by
    refine ⟨List.Perm.swap _ _ _, by decide, fun key => ?_⟩
    by_cases zero : key = 0
    · subst zero
      rfl
    · simp [List.filter_cons, Ne.symm zero]
  have unlike (name : String) (differs : "Old" ≠ name) : old.IsOther pool name :=
    ⟨"Old", ⟨_, rfl⟩, differs⟩
  have described : before.Describes pool _ _ :=
    ⟨⟨_, standard.backs_skimSymbols, decoded⟩, _,
      .cons (.table _ ⟨_, rfl⟩ rfl) (.cons (.other (unlike _ (by decide)))
        (.cons (.table _ ⟨_, rfl⟩ rfl) .nil)), ordered⟩
  have describes : text.Describes classFile := by
    refine ⟨⟨1, rfl, _, rfl⟩, [some _, none], .cons ?_ (.cons ?_ .nil), rfl⟩
    · exact @MemberText.Describes.mk pool _ "m" "()V" _ (some (_, _)) ⟨_, rfl⟩ ⟨_, rfl⟩
        (.cons (.other (unlike _ (by decide))) (.cons (.code ⟨_, rfl⟩ rfl described) .nil)) rfl
    · exact @MemberText.Describes.mk pool _ "m" "()V" _ none ⟨_, rfl⟩ ⟨_, rfl⟩ .nil rfl
  have gone (name : String) (differs : "Old" ≠ name) : old.IsOther larger name :=
    ⟨"Old", ⟨_, rfl⟩, differs⟩
  have added (name : String) (differs : "New" ≠ name) : new.IsOther larger name :=
    ⟨"New", ⟨_, rfl⟩, differs⟩
  have bodies : before.Varies larger after :=
    ⟨rfl, rfl, .insert (added _ (by decide)) (.keep rfl (.remove (gone _ (by decide))
      (.keep rfl (.insert (added _ (by decide)) .nil))))⟩
  have varies : text.Varies other := by
    refine ⟨⟨more, rfl⟩, rfl, .cons ⟨rfl, rfl, ?_⟩ (.cons ⟨rfl, rfl, ?_⟩ .nil)⟩
    · exact .remove (gone _ (by decide))
        (.keep ⟨⟨_, rfl⟩, ⟨_, rfl⟩, before, after, rfl, rfl, bodies⟩ .nil)
    · exact .insert (added _ (by decide)) .nil
  have read := ClassText.read_described describes
  exact ⟨describes, varies, read.1, read.2 other varies⟩

end GrantSurvey.ClassFile
