import GrantSurvey.Proofs.ClassDescription
import GrantSurvey.Proofs.MoreHandlers

/-!
# Truncated and extended class files

The skimming reader moves along a class file by taking bytes, and how many it takes next depends on
those that it has taken before and on nothing else. So a reading is a script of takes. What follows
the last byte that was taken makes no difference to it, and where some of the bytes are missing it
ends for want of them. No take leads beyond the end of the bytes.
-/

namespace GrantSurvey.ClassFile

open Reader

variable {α β : Type}

inductive Fault.WantsBytes : Fault → Prop where
  | here (position : Nat) : WantsBytes (.outOfBounds position)
  | inside (place : Place) {cause : Fault} (inner : WantsBytes cause) :
      WantsBytes (.within place cause)

theorem Fault.WantsBytes.foldr {cause : Fault} (wants : cause.WantsBytes) (places : List Place) :
    (places.foldr Fault.within cause).WantsBytes := by
  induction places with
  | nil => exact wants
  | cons place places ih => exact .inside place ih

/-! ## Cursors within some bytes -/

/-- A cursor stands in some bytes, not beyond their end, and what follows it are the bytes from
there on. -/
structure Cursor.Within (data : List UInt8) (cursor : Cursor) : Prop where
  bounded : cursor.position ≤ data.length
  rest : cursor.rest = data.drop cursor.position

theorem Cursor.within_start (data : List UInt8) : Within data (start data) :=
  ⟨Nat.zero_le _, rfl⟩

theorem Cursor.Within.take {data bytes : List UInt8} {count : Nat} {cursor after : Cursor}
    (within : Within data cursor) (read : Reader.take count cursor = .ok bytes after) :
    Within data after := by
  simp only [Reader.take] at read
  split at read
  · rename_i counted
    cases read
    have short : count ≤ cursor.rest.length := by
      rw [← counted]
      exact List.length_take_le' count cursor.rest
    rw [within.rest, List.length_drop] at short
    have bounded := within.bounded
    refine ⟨?_, ?_⟩
    · simp only
      omega
    · rw [within.rest, List.drop_drop]
  · cases read

/-- A take that fails leaves the cursor where it was. -/
theorem Reader.eq_of_take_error {count : Nat} {cursor after : Cursor} {cause : Fault}
    (failed : Reader.take count cursor = .error cause after) : after = cursor := by
  simp only [Reader.take] at failed
  split at failed
  · cases failed
  · cases failed
    rfl

theorem Reader.take_of_short {bytes : List UInt8} {count : Nat} (short : bytes.length < count)
    (position : Nat) :
    Reader.take count ⟨position, bytes⟩ = .error (.outOfBounds position) ⟨position, bytes⟩ := by
  have fewer : (bytes.take count).length ≠ count := by
    rw [List.length_take]
    omega
  simp only [Reader.take, if_neg fewer]

/-! ## Scripts of takes -/

/-- A reading as a tree: what it ends with, or how many bytes it takes next, in which places, and
how it goes on with them. -/
inductive Script (α : Type) where
  | done (value : α)
  | fail (cause : Fault)
  | take (count : Nat) (places : List Place) (next : List UInt8 → Script α)

namespace Script

def run : Script α → Reader α
  | done value => pure value
  | fail cause => throw cause
  | take count places next => fun cursor =>
      match Reader.take count cursor with
      | .ok bytes after => (next bytes).run after
      | .error cause after => .error (places.foldr Fault.within cause) after

/-- The cursors that a run comes by, from the first to the last. -/
def visited : Script α → Cursor → List Cursor
  | done _, cursor => [cursor]
  | fail _, cursor => [cursor]
  | take count _ next, cursor =>
      match Reader.take count cursor with
      | .ok bytes after => cursor :: (next bytes).visited after
      | .error _ after => [cursor, after]

def bind : Script α → (α → Script β) → Script β
  | done value, next => next value
  | fail cause, _ => fail cause
  | take count places more, next => take count places fun bytes => (more bytes).bind next

def inPlace (place : Place) : Script α → Script α
  | done value => done value
  | fail cause => fail (.within place cause)
  | take count places next => take count (place :: places) fun bytes => (next bytes).inPlace place

theorem run_bind (script : Script α) (next : α → Script β) :
    (script.bind next).run = script.run >>= fun value => (next value).run := by
  induction script with
  | done value => rfl
  | fail cause => rfl
  | take count places more ih =>
      funext cursor
      simp only [Script.bind, run, ih, Bind.bind, EStateM.bind]
      cases Reader.take count cursor <;> rfl

theorem run_inPlace (place : Place) (script : Script α) :
    (script.inPlace place).run = Reader.inPlace place script.run := by
  induction script with
  | done value => rfl
  | fail cause => rfl
  | take count places next ih =>
      funext cursor
      simp only [Script.inPlace, run, ih, Reader.inPlace]
      cases Reader.take count cursor <;> rfl

/-- A run comes by cursors within the bytes only. -/
theorem within_of_mem_visited (script : Script α) {data : List UInt8} {cursor passed : Cursor}
    (within : cursor.Within data) (member : passed ∈ script.visited cursor) :
    passed.Within data := by
  induction script generalizing cursor with
  | done value => rwa [List.mem_singleton.mp member]
  | fail cause => rwa [List.mem_singleton.mp member]
  | take count places next ih =>
      simp only [visited] at member
      split at member
      · rename_i bytes after taken
        rcases List.mem_cons.mp member with rfl | later
        · exact within
        · exact ih bytes (within.take taken) later
      · rename_i cause after failed
        rw [Reader.eq_of_take_error failed] at member
        simp only [List.mem_cons, List.not_mem_nil, or_false, or_self] at member
        rwa [member]

/-- The cursor at which a run ends is one that it comes by. -/
theorem mem_visited_of_run (script : Script α) {cursor after : Cursor}
    (ends : (∃ value, script.run cursor = .ok value after) ∨
      ∃ cause, script.run cursor = .error cause after) : after ∈ script.visited cursor := by
  induction script generalizing cursor with
  | done value =>
      rcases ends with ⟨_, same⟩ | ⟨_, same⟩
      · cases same
        exact List.mem_singleton_self _
      · cases same
  | fail cause =>
      rcases ends with ⟨_, same⟩ | ⟨_, same⟩
      · cases same
      · cases same
        exact List.mem_singleton_self _
  | take count places next ih =>
      simp only [run] at ends
      simp only [visited]
      split at ends
      · rename_i bytes middle _
        exact List.mem_cons_of_mem _ (ih bytes ends)
      · rcases ends with ⟨_, same⟩ | ⟨_, same⟩
        · cases same
        · cases same
          exact List.mem_cons_of_mem _ (List.mem_singleton_self _)

end Script

/-! ## Readings that are decided by the bytes that they use -/

/-- The reader takes the bytes `used` to yield a value. With these before it, it needs no others and
looks at no others; with fewer of them it fails for want of bytes. -/
structure Reader.Uses (reader : Reader α) (used : List UInt8) (value : α) : Prop where
  yields : Yields reader used (.ok value)
  wants : ∀ length < used.length, ∀ position, ∃ cause left,
    reader ⟨position, used.take length⟩ = .error cause left ∧ cause.WantsBytes

/-- A successful run of a script uses the bytes that it has passed. -/
theorem Script.exists_uses (script : Script α) {cursor after : Cursor} {value : α}
    (read : script.run cursor = .ok value after) :
    ∃ used, cursor.rest = used ++ after.rest ∧ script.run.Uses used value := by
  induction script generalizing cursor with
  | done result =>
      obtain ⟨rfl, rfl⟩ := pure_eq_ok_iff.mp read
      exact ⟨[], rfl, Yields.pure result, fun length short => absurd short (Nat.not_lt_zero _)⟩
  | fail cause => cases read
  | take count places next ih =>
      simp only [Script.run] at read
      split at read
      · rename_i front middle taken
        obtain ⟨counted, split⟩ := rest_of_take taken
        obtain ⟨more, followed, uses⟩ := ih front read
        refine ⟨front ++ more, ?_, ?_, ?_⟩
        · rw [split, followed, List.append_assoc]
        · intro position rest
          simp only [Script.run, List.append_assoc,
            yields_take counted position (more ++ rest)]
          rw [uses.yields (position + front.length) rest, List.length_append, Nat.add_assoc]
        · intro length short position
          by_cases enough : front.length ≤ length
          · -- The first take still succeeds, and a later one does not.
            rw [List.length_append] at short
            obtain ⟨cause, left, failed, wants⟩ :=
              uses.wants (length - front.length) (by omega) (position + front.length)
            refine ⟨cause, left, ?_, wants⟩
            rw [List.take_append, List.take_of_length_le enough]
            simp only [Script.run, yields_take counted position]
            exact failed
          · have few : ((front ++ more).take length).length < count := by
              rw [List.length_take]
              omega
            refine ⟨_, ⟨position, (front ++ more).take length⟩, ?_,
              (Fault.WantsBytes.here position).foldr places⟩
            simp only [Script.run, take_of_short few position]
      · cases read

/-! ## Readers that follow a script -/

namespace Reader

def Scripted (reader : Reader α) : Prop :=
  ∃ script : Script α, script.run = reader

theorem Scripted.exists_uses {reader : Reader α} (scripted : Scripted reader)
    {cursor after : Cursor} {value : α} (read : reader cursor = .ok value after) :
    ∃ used, cursor.rest = used ++ after.rest ∧ reader.Uses used value := by
  obtain ⟨script, rfl⟩ := scripted
  exact script.exists_uses read

/-- Whatever bytes a reader is run over, it follows a script that comes by no cursor beyond their
end, and neither success nor failure leaves the cursor beyond it. -/
structure StaysWithin (reader : Reader α) : Prop where
  passing : ∃ script : Script α, script.run = reader ∧
    ∀ data, ∀ cursor ∈ script.visited (Cursor.start data), cursor.Within data
  success : ∀ data value after, reader (Cursor.start data) = .ok value after → after.Within data
  failure : ∀ data cause after, reader (Cursor.start data) = .error cause after → after.Within data

theorem Scripted.staysWithin {reader : Reader α} (scripted : Scripted reader) :
    StaysWithin reader := by
  obtain ⟨script, rfl⟩ := scripted
  have within (data : List UInt8) : ∀ cursor ∈ script.visited (Cursor.start data),
      cursor.Within data := fun cursor => script.within_of_mem_visited (Cursor.within_start data)
  refine ⟨⟨script, rfl, within⟩, ?_, ?_⟩
  · exact fun data value after ends =>
      within data after (script.mem_visited_of_run (.inl ⟨value, ends⟩))
  · exact fun data cause after ends =>
      within data after (script.mem_visited_of_run (.inr ⟨cause, ends⟩))

theorem scripted_pure (value : α) : Scripted (pure value) :=
  ⟨.done value, rfl⟩

theorem scripted_throw (cause : Fault) : Scripted (throw cause : Reader α) :=
  ⟨.fail cause, rfl⟩

theorem scripted_lift (result : Except Fault α) : Scripted (lift result) := by
  cases result with
  | ok value => exact scripted_pure value
  | error cause => exact scripted_throw cause

theorem scripted_take (count : Nat) : Scripted (take count) := by
  refine ⟨.take count [] .done, ?_⟩
  funext cursor
  simp only [Script.run]
  cases take count cursor <;> rfl

theorem Scripted.bind {reader : Reader α} {next : α → Reader β} (first : Scripted reader)
    (second : ∀ value, Scripted (next value)) : Scripted (reader >>= next) := by
  obtain ⟨script, rfl⟩ := first
  choose scripts same using second
  refine ⟨script.bind scripts, ?_⟩
  rw [Script.run_bind]
  simp only [same]

theorem Scripted.map {reader : Reader α} (scripted : Scripted reader) (f : α → β) :
    Scripted (f <$> reader) := by
  have same : f <$> reader = reader >>= fun value => pure (f value) := by
    funext cursor
    simp only [Functor.map, EStateM.map, Bind.bind, EStateM.bind]
    cases reader cursor <;> rfl
  rw [same]
  exact scripted.bind fun value => scripted_pure (f value)

theorem Scripted.inPlace {reader : Reader α} (scripted : Scripted reader) (place : Place) :
    Scripted (inPlace place reader) := by
  obtain ⟨script, rfl⟩ := scripted
  exact ⟨script.inPlace place, script.run_inPlace place⟩

theorem scripted_ite {condition : Prop} [Decidable condition] {first second : Reader α}
    (holds : Scripted first) (fails : Scripted second) :
    Scripted (if condition then first else second) := by
  split
  · exact holds
  · exact fails

theorem scripted_skip (count : Nat) : Scripted (skip count) :=
  (scripted_take count).bind fun _ => scripted_pure ()

/-- Numbers are read by taking their bytes. -/
theorem u1_eq : u1 = (fun bytes => bytes.getD 0 0) <$> take 1 := by
  funext cursor
  obtain ⟨position, rest⟩ := cursor
  cases rest <;> rfl

theorem u2_eq :
    u2 = (fun bytes => BigEndian.u2 (bytes.getD 0 0) (bytes.getD 1 0)) <$> take 2 := by
  funext cursor
  obtain ⟨position, rest⟩ := cursor
  rcases rest with _ | ⟨a, _ | ⟨b, rest⟩⟩ <;> rfl

theorem u4_eq :
    u4 = (fun bytes => BigEndian.u4 (bytes.getD 0 0) (bytes.getD 1 0) (bytes.getD 2 0)
      (bytes.getD 3 0)) <$> take 4 := by
  funext cursor
  obtain ⟨position, rest⟩ := cursor
  rcases rest with _ | ⟨a, _ | ⟨b, _ | ⟨c, _ | ⟨d, rest⟩⟩⟩⟩ <;> rfl

theorem scripted_u1 : Scripted u1 := by
  rw [u1_eq]
  exact (scripted_take 1).map _

theorem scripted_u2 : Scripted u2 := by
  rw [u2_eq]
  exact (scripted_take 2).map _

theorem scripted_u4 : Scripted u4 := by
  rw [u4_eq]
  exact (scripted_take 4).map _

theorem scripted_u8 : Scripted u8 :=
  scripted_u4.bind fun _ => scripted_u4.bind fun _ => scripted_pure _

theorem Scripted.repeated {reader : Reader α} (each : Scripted reader) (count : Nat) :
    Scripted (repeated reader count) := by
  induction count with
  | zero => exact scripted_pure []
  | succ count ih => exact each.bind fun _ => ih.bind fun _ => scripted_pure _

theorem Scripted.counted {reader : Reader α} (each : Scripted reader) :
    Scripted (counted reader) :=
  scripted_u2.bind fun count => each.repeated count.toNat

theorem scripted_lineNumber : Scripted lineNumber :=
  scripted_u2.bind fun _ => scripted_u2.bind fun _ => scripted_pure _

theorem scripted_handler : Scripted handler :=
  (scripted_skip 4).bind fun _ => scripted_u2.bind fun _ =>
    (scripted_skip 2).bind fun _ => scripted_pure _

end Reader

/-! ## The skimming reader -/

theorem PoolReader.scripted_constant (text : List UInt8 → String) : Scripted (constant text) := by
  have pair {make : UInt16 → UInt16 → Entry} :
      Scripted (do let first ← u2; let second ← u2; return make first second) :=
    scripted_u2.bind fun _ => scripted_u2.bind fun _ => scripted_pure _
  refine scripted_u1.bind fun tag => ?_
  refine scripted_ite (scripted_u2.bind fun length => (scripted_take _).bind fun _ =>
    scripted_pure _) ?_
  refine scripted_ite (scripted_u4.bind fun _ => scripted_pure _) ?_
  refine scripted_ite (scripted_u8.bind fun _ => scripted_pure _) ?_
  refine scripted_ite (scripted_u8.bind fun _ => scripted_pure _) ?_
  refine scripted_ite (scripted_u2.bind fun _ => scripted_pure _) ?_
  refine scripted_ite (scripted_u2.bind fun _ => scripted_pure _) ?_
  refine scripted_ite pair (scripted_ite pair ?_)
  split
  · exact (scripted_skip _).bind fun _ => scripted_pure _
  · exact scripted_throw _

theorem PoolReader.scripted_constants (text : List UInt8 → String) (room : Nat) :
    Scripted (constants text room) := by
  induction room using constants.induct with
  | case1 => exact scripted_pure []
  | case2 => exact (scripted_constant text).bind fun entry => scripted_pure _
  | case3 room wide narrow =>
      refine (scripted_constant text).bind fun entry => scripted_ite ?_ ?_
      · exact wide.bind fun _ => scripted_pure _
      · exact narrow.bind fun _ => scripted_pure _

namespace Skim

theorem scripted_attributeInfo : Scripted attributeInfo :=
  scripted_u2.bind fun _ => scripted_u4.bind fun _ => (scripted_take _).bind fun _ =>
    scripted_pure _

theorem scripted_pool : Scripted pool :=
  scripted_u2.bind fun _ => (PoolReader.scripted_constants _ _).bind fun _ => scripted_pure _

theorem scripted_bodyLines (pool : ConstantPool) : Scripted (bodyLines pool) :=
  scripted_attributeInfo.bind fun _ => (scripted_lift _).bind fun _ =>
    scripted_ite (scripted_lift _) (scripted_pure [])

theorem scripted_body (pool : ConstantPool) : Scripted (body pool) :=
  (scripted_skip 2).bind fun _ => (scripted_skip 2).bind fun _ => scripted_u4.bind fun _ =>
    (scripted_take _).bind fun _ => scripted_handler.counted.bind fun _ =>
      (scripted_bodyLines pool).counted.bind fun _ => (scripted_lift _).bind fun _ =>
        scripted_pure _

theorem scripted_methodBody (pool : ConstantPool) (name descriptor : String) :
    Scripted (methodBody pool name descriptor) :=
  scripted_attributeInfo.bind fun _ => (scripted_lift _).bind fun _ =>
    scripted_ite ((scripted_lift _).map some) (scripted_pure none)

theorem scripted_method (pool : ConstantPool) : Scripted (method pool) :=
  (scripted_skip 2).bind fun _ => scripted_u2.bind fun _ => (scripted_lift _).bind fun name =>
    scripted_u2.bind fun _ => (scripted_lift _).bind fun descriptor =>
      (scripted_methodBody pool name descriptor).counted.bind fun _ => scripted_pure _

theorem scripted_field : Scripted field :=
  (scripted_skip 6).bind fun _ =>
    (scripted_attributeInfo.counted.inPlace .fieldAttributes).bind fun _ => scripted_pure ()

theorem scripted_classFile : Scripted classFile :=
  (scripted_skip 8).bind fun _ => (scripted_pool.inPlace .constantPool).bind fun pool =>
    (scripted_skip 2).bind fun _ => scripted_u2.bind fun _ => (scripted_lift _).bind fun _ =>
      (scripted_skip 2).bind fun _ => scripted_u2.bind fun _ => (scripted_skip _).bind fun _ =>
        scripted_field.counted.bind fun _ => (scripted_method pool).counted.bind fun _ =>
          scripted_pure _

/-- A class that skimming reads is decided by its bytes up to some size, at which the cursor stands
after the last method. Fewer of these bytes are refused for want of the others, and whatever follows
them, the class is the same. On any bytes at all, the readers of a class, of a body and of a line
table move by takes, of which a failing one leaves the cursor unchanged. They come by no cursor that
stands beyond the end, and they end at none, whether they succeed or fail. -/
theorem read_truncated_or_extended :
    (∀ data classFile, read data = .ok classFile →
      ∃ size ≤ data.length,
        Skim.classFile (Cursor.start data) = .ok classFile ⟨size, data.drop size⟩ ∧
        (∀ short, short <+: data → short.length < size →
          ∃ cause, read short = .error cause ∧ cause.WantsBytes) ∧
        ∀ other, data.take size <+: other → read other = .ok classFile) ∧
    Skim.classFile.StaysWithin ∧ (∀ pool, (body pool).StaysWithin) ∧
    (counted lineNumber).StaysWithin ∧
    ∀ count cursor cause after, take count cursor = .error cause after → after = cursor := by
  refine ⟨?_, scripted_classFile.staysWithin, fun pool => (scripted_body pool).staysWithin,
    scripted_lineNumber.counted.staysWithin, fun _ _ _ _ => eq_of_take_error⟩
  intro data classFile succeeds
  obtain ⟨after, succeeds⟩ := readAll_eq_ok_iff.mp succeeds
  obtain ⟨used, split, uses⟩ := scripted_classFile.exists_uses succeeds
  have split : data = used ++ after.rest := split
  refine ⟨used.length, ?_, ?_, ?_, ?_⟩
  · rw [split, List.length_append]
    exact Nat.le_add_right _ _
  · have dropped : data.drop used.length = after.rest := by rw [split, List.drop_left]
    have yields := uses.yields 0 after.rest
    rwa [← split, Nat.zero_add, ← dropped] at yields
  · intro short start fewer
    rw [List.prefix_iff_eq_take.mp start, split,
      List.take_append_of_le_length (Nat.le_of_lt fewer)]
    obtain ⟨cause, left, failed, wants⟩ := uses.wants short.length fewer 0
    refine ⟨cause, ?_, wants⟩
    simp only [read, readAll, Cursor.start, failed]
  · intro other start
    rw [split, List.take_left] at start
    obtain ⟨rest, rfl⟩ := start
    exact uses.yields.readAll_eq rest

/-- A class with a field and a method, whose body has a line table, followed by a byte that nobody
reads: without the last byte of the method nothing is read, and with other bytes after it the class
is the same. -/
theorem read_truncated_or_extended_at_method :
    let pool : PoolText := ⟨[.utf8 (Utf8.bytes "A") (by decide), .classRef 1,
      .utf8 (Utf8.bytes "m") (by decide), .utf8 (Utf8.bytes "()V") (by decide),
      .utf8 (Utf8.bytes "Code") (by decide), .utf8 (Utf8.bytes "LineNumberTable") (by decide)],
      by decide⟩
    let rows : Rows LineText := ⟨[⟨0, 7⟩], by decide⟩
    let lines : AttributeText := ⟨6, rows.bytes LineText.bytes, by decide⟩
    let code : CodeText := ⟨0, 1, [177], by decide, ⟨[], by decide⟩, ⟨[lines], by decide⟩⟩
    let text : ClassText := ⟨[0xCA, 0xFE, 0xBA, 0xBE, 0, 0, 0, 52], by decide, pool, 33, 2, 0,
      ⟨[], by decide⟩, ⟨[⟨2, 3, 4, ⟨[], by decide⟩⟩], by decide⟩,
      ⟨[⟨9, 3, 4, ⟨[⟨5, code.bytes, by decide⟩], by decide⟩⟩], by decide⟩, [0]⟩
    let classFile : ClassFile := ⟨"A", [⟨"m", "()V", [⟨0, .other 177, false⟩], [⟨0, 7⟩]⟩]⟩
    read text.bytes = .ok classFile ∧
    ∃ size ≤ text.bytes.length,
      (∃ cause, read (text.bytes.take (size - 1)) = .error cause ∧ cause.WantsBytes) ∧
      read (text.bytes.take size ++ [1, 2, 3]) = .ok classFile := by
  intro pool rows lines code text classFile
  -- The code makes no use of the pool, so no symbol is needed to decode it.
  let symbols : Symbols :=
    ⟨fun index => .error (.missingConstant index), fun index => .error (.missingConstant index)⟩
  have backs : pool.Backs symbols := by
    constructor
    · intro index symbol found
      cases found
    · intro index value found
      cases found
  have stops : Bytecode.steps symbols 1 [] = .ok [] := by rw [Bytecode.steps]
  have decoded : Bytecode.decode symbols [] [177] = .ok [⟨0, .other 177, false⟩] :=
    Bytecode.decode_eq_ok_iff_mark.mpr
      ⟨_, Bytecode.steps_cons rfl (by decide) rfl rfl stops, rfl⟩
  have table : pool.HoldsText 6 "LineNumberTable" := ⟨_, rfl⟩
  have body : code.Describes pool [⟨0, .other 177, false⟩] [⟨0, 7⟩] :=
    ⟨⟨symbols, backs, decoded⟩, [[⟨0, 7⟩]], .cons (.table rows table rfl) .nil,
      .refl _, List.pairwise_singleton _ _, fun _ => rfl⟩
  have describes : text.Describes classFile := by
    refine ⟨⟨1, rfl, _, rfl⟩, [some _], .cons ?_ .nil, rfl⟩
    exact @MemberText.Describes.mk pool _ "m" "()V" _ (some (_, _)) ⟨_, rfl⟩ ⟨_, rfl⟩
      (.cons (.code ⟨_, rfl⟩ rfl body) .nil) rfl
  have succeeds : read text.bytes = .ok classFile := by
    rw [text.read_bytes, describes.skim_eq]
  obtain ⟨size, within, -, truncated, extended⟩ :=
    read_truncated_or_extended.1 text.bytes classFile succeeds
  have positive : 0 < size := by
    by_contra zero
    rw [Nat.eq_zero_of_not_pos zero, List.take_zero] at extended
    cases extended [] (List.prefix_refl _)
  refine ⟨succeeds, size, within, ?_, extended _ (List.prefix_append _ _)⟩
  refine truncated _ (List.take_prefix _ _) ?_
  rw [List.length_take]
  omega

end Skim

end GrantSurvey.ClassFile
