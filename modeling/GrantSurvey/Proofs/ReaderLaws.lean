import GrantSurvey.Proofs.BigEndian
import GrantSurvey.Proofs.Outcome

/-!
# Laws of readers

Two views of a reader against a way of writing. In the one, a reader is given written bytes with
anything after them: it reads just these and yields what was written. In the other, a reader has
succeeded somewhere, and the bytes that it has read are the writing of something.
-/

namespace GrantSurvey.ClassFile.Reader

open BigEndian Outcome

variable {α β γ : Type}

/-- A list short enough to be written behind its two-byte count. -/
abbrev Rows (α : Type) := { rows : List α // rows.length < 65536 }

def Rows.bytes (write : α → List UInt8) (rows : Rows α) : List UInt8 :=
  bytes2 (UInt16.ofNat rows.1.length) ++ rows.1.flatMap write

theorem Rows.toNat_count (rows : Rows α) :
    (UInt16.ofNat rows.1.length).toNat = rows.1.length := by
  rw [UInt16.toNat_ofNat', Nat.mod_eq_of_lt rows.2]

/-! ## Reading what is written -/

/-- On `bytes`, whatever follows them, the reader ends with `result`. If it succeeds, it has read
`bytes` and nothing else. -/
def Yields (reader : Reader α) (bytes : List UInt8) : Except Fault α → Prop
  | .ok value => ∀ position rest,
      reader ⟨position, bytes ++ rest⟩ = .ok value ⟨position + bytes.length, rest⟩
  | .error cause => ∀ position rest, ∃ after,
      reader ⟨position, bytes ++ rest⟩ = .error cause after

theorem Yields.pure (value : α) : Yields (pure value) [] (.ok value) :=
  fun _ _ => rfl

theorem Yields.lift (result : Except Fault α) : Yields (lift result) [] result := by
  cases result with
  | ok value => exact fun _ _ => rfl
  | error cause => exact fun position rest => ⟨⟨position, rest⟩, rfl⟩

/-- After a reader that succeeds, the next one decides. -/
theorem Yields.andThen {reader : Reader α} {next : α → Reader β} {bytes more : List UInt8}
    {value : α} {result : Except Fault β} (first : Yields reader bytes (.ok value))
    (second : Yields (next value) more result) :
    Yields (reader >>= next) (bytes ++ more) result := by
  cases result with
  | ok final =>
      intro position rest
      simp only [bind, EStateM.bind, List.append_assoc, first position (more ++ rest)]
      rw [second (position + bytes.length) rest, List.length_append, Nat.add_assoc]
  | error cause =>
      intro position rest
      simp only [bind, EStateM.bind, List.append_assoc, first position (more ++ rest)]
      exact second (position + bytes.length) rest

/-- A reader is followed by one that may depend on what it yields. -/
theorem Yields.bind {reader : Reader α} {next : α → Reader β} {bytes more : List UInt8}
    {result : Except Fault α} {final : α → Except Fault β} (first : Yields reader bytes result)
    (second : ∀ value, result = .ok value → Yields (next value) more (final value)) :
    Yields (reader >>= next) (bytes ++ more) (result >>= final) := by
  cases result with
  | ok value => exact first.andThen (second value rfl)
  | error cause =>
      intro position rest
      obtain ⟨after, failed⟩ := first position (more ++ rest)
      exact ⟨after, by simp only [Bind.bind, EStateM.bind, List.append_assoc, failed]⟩

/-- A value that needs no bytes is followed by a reader that may depend on it. -/
theorem Yields.liftThen {result : Except Fault α} {next : α → Reader β} {bytes : List UInt8}
    {final : α → Except Fault β}
    (second : ∀ value, result = .ok value → Yields (next value) bytes (final value)) :
    Yields (Reader.lift result >>= next) bytes (result >>= final) :=
  (Yields.lift result).bind second

/-- A reader that may fail, and whose value is only changed afterwards. -/
theorem Yields.thenReturn {reader : Reader α} {bytes : List UInt8} {result : Except Fault α}
    {f : α → β} (read : Yields reader bytes result) :
    Yields (reader >>= fun value => Pure.pure (f value)) bytes
      (result >>= fun value => Pure.pure (f value)) := by
  rw [← List.append_nil bytes]
  exact read.bind fun value _ => Yields.pure (f value)

/-- A reader whose value is only changed afterwards. -/
theorem Yields.andReturn {reader : Reader α} {bytes : List UInt8} {value : α} {f : α → β}
    (read : Yields reader bytes (.ok value)) :
    Yields (reader >>= fun value => Pure.pure (f value)) bytes (.ok (f value)) := by
  rw [← List.append_nil bytes]
  exact read.andThen (Yields.pure (f value))

theorem Yields.map {reader : Reader α} {bytes : List UInt8} {result : Except Fault α}
    (read : Yields reader bytes result) (f : α → β) :
    Yields (f <$> reader) bytes (f <$> result) := by
  cases result with
  | ok value =>
      intro position rest
      simp only [Functor.map, EStateM.map, read position rest]
  | error cause =>
      intro position rest
      obtain ⟨after, failed⟩ := read position rest
      exact ⟨after, by simp only [Functor.map, EStateM.map, failed]⟩

theorem Yields.inPlace {reader : Reader α} {bytes : List UInt8} {result : Except Fault α}
    (read : Yields reader bytes result) (place : Place) :
    Yields (inPlace place reader) bytes (ClassFile.inPlace place result) := by
  cases result with
  | ok value =>
      intro position rest
      simp only [Reader.inPlace, read position rest]
  | error cause =>
      intro position rest
      obtain ⟨after, failed⟩ := read position rest
      exact ⟨after, by simp only [Reader.inPlace, failed]⟩

/-- A whole reading, which may leave bytes over. -/
theorem Yields.readAll_eq {reader : Reader α} {bytes : List UInt8} {result : Except Fault α}
    (read : Yields reader bytes result) (rest : List UInt8) :
    readAll reader (bytes ++ rest) = result := by
  cases result with
  | ok value => simp only [readAll, Cursor.start, read 0 rest]
  | error cause =>
      obtain ⟨after, failed⟩ := read 0 rest
      simp only [readAll, Cursor.start, failed]

theorem Yields.readAll_bytes {reader : Reader α} {bytes : List UInt8} {result : Except Fault α}
    (read : Yields reader bytes result) : readAll reader bytes = result := by
  have whole := read.readAll_eq []
  rwa [List.append_nil] at whole

theorem yields_u1 (value : UInt8) : Yields u1 [value] (.ok value) :=
  fun _ _ => rfl

theorem yields_u2 (value : UInt16) : Yields u2 (bytes2 value) (.ok value) := by
  intro position rest
  obtain ⟨a, b, written, same⟩ := exists_bytes2 value
  rw [written, ← same]
  rfl

theorem yields_u4 (value : UInt32) : Yields u4 (bytes4 value) (.ok value) := by
  intro position rest
  obtain ⟨a, b, c, d, written, same⟩ := exists_bytes4 value
  rw [written, ← same]
  rfl

theorem yields_take {bytes : List UInt8} {count : Nat} (counted : bytes.length = count) :
    Yields (take count) bytes (.ok bytes) := by
  intro position rest
  simp [take, ← counted]

theorem yields_skip {bytes : List UInt8} {count : Nat} (counted : bytes.length = count) :
    Yields (skip count) bytes (.ok ()) := by
  exact (yields_take counted).andReturn

/-- Values in a row are read one after the other, up to the first that fails. -/
theorem Yields.repeated {reader : Reader β} {write : α → List UInt8}
    {meaning : α → Except Fault β} (rows : List α)
    (each : ∀ row ∈ rows, Yields reader (write row) (meaning row)) :
    Yields (repeated reader rows.length) (rows.flatMap write) (rows.mapM meaning) := by
  induction rows with
  | nil => exact Yields.pure []
  | cons row rows ih =>
      rw [List.mapM_cons, List.flatMap_cons]
      refine (each row List.mem_cons_self).bind fun first _ => ?_
      have others := ih fun other member => each other (List.mem_cons_of_mem row member)
      rw [← List.append_nil (rows.flatMap write)]
      exact others.bind fun rest _ => Yields.pure (first :: rest)

theorem Yields.counted {reader : Reader β} {write : α → List UInt8}
    {meaning : α → Except Fault β} (rows : Rows α)
    (each : ∀ row ∈ rows.1, Yields reader (write row) (meaning row)) :
    Yields (counted reader) (rows.bytes write) (rows.1.mapM meaning) := by
  refine (yields_u2 _).andThen ?_
  rw [rows.toNat_count]
  exact Yields.repeated rows.1 each

/-! ## Writing down what was read -/

/-- Wherever the reader succeeds, the bytes that it has read are the writing of something that
means its value. -/
def Parses (reader : Reader β) (write : α → List UInt8) (Means : α → β → Prop) : Prop :=
  ∀ cursor value after, reader cursor = .ok value after →
    ∃ text, Means text value ∧ cursor.rest = write text ++ after.rest

theorem bind_eq_ok_iff {reader : Reader α} {next : α → Reader β} {cursor after : Cursor}
    {value : β} :
    (reader >>= next) cursor = .ok value after ↔
      ∃ first between, reader cursor = .ok first between ∧
        next first between = .ok value after := by
  simp only [bind, EStateM.bind]
  cases reader cursor with
  | ok first between => simp
  | error cause between => simp

theorem map_eq_ok_iff {reader : Reader α} {f : α → β} {cursor after : Cursor} {value : β} :
    (f <$> reader) cursor = .ok value after ↔
      ∃ first, reader cursor = .ok first after ∧ f first = value := by
  simp only [Functor.map, EStateM.map]
  cases reader cursor with
  | ok first between =>
      simp only [EStateM.Result.ok.injEq]
      constructor
      · rintro ⟨same, rfl⟩
        exact ⟨first, ⟨rfl, rfl⟩, same⟩
      · rintro ⟨_, ⟨rfl, rfl⟩, same⟩
        exact ⟨same, rfl⟩
  | error cause between => simp

theorem pure_eq_ok_iff {value result : α} {cursor after : Cursor} :
    (pure value : Reader α) cursor = .ok result after ↔ value = result ∧ cursor = after := by
  simp only [pure, EStateM.pure, EStateM.Result.ok.injEq]

theorem rest_of_u2 {cursor after : Cursor} {value : UInt16} (read : u2 cursor = .ok value after) :
    cursor.rest = bytes2 value ++ after.rest := by
  unfold u2 at read
  split at read
  · rename_i a b rest written
    cases read
    rw [written, bytes2_u2]
    rfl
  · cases read

theorem rest_of_u4 {cursor after : Cursor} {value : UInt32} (read : u4 cursor = .ok value after) :
    cursor.rest = bytes4 value ++ after.rest := by
  unfold u4 at read
  split at read
  · rename_i a b c d rest written
    cases read
    rw [written, bytes4_u4]
    rfl
  · cases read

theorem rest_of_take {count : Nat} {cursor after : Cursor} {bytes : List UInt8}
    (read : take count cursor = .ok bytes after) :
    bytes.length = count ∧ cursor.rest = bytes ++ after.rest := by
  simp only [take] at read
  split at read
  · rename_i counted
    cases read
    exact ⟨counted, (List.take_append_drop count cursor.rest).symm⟩
  · cases read

theorem rest_of_skip {count : Nat} {cursor after : Cursor} {passed : Unit}
    (read : skip count cursor = .ok passed after) :
    ∃ bytes : List UInt8, bytes.length = count ∧ cursor.rest = bytes ++ after.rest := by
  obtain ⟨bytes, between, taken, ended⟩ := bind_eq_ok_iff.mp read
  obtain ⟨-, rfl⟩ := pure_eq_ok_iff.mp ended
  exact ⟨bytes, rest_of_take taken⟩

theorem Parses.repeated {reader : Reader β} {write : α → List UInt8} {Means : α → β → Prop}
    (each : Parses reader write Means) (count : Nat) :
    Parses (repeated reader count) (List.flatMap write) fun texts values =>
      texts.length = count ∧ List.Forall₂ Means texts values := by
  induction count with
  | zero =>
      intro cursor values after read
      obtain ⟨rfl, rfl⟩ := pure_eq_ok_iff.mp read
      exact ⟨[], ⟨rfl, .nil⟩, rfl⟩
  | succ count ih =>
      intro cursor values after read
      obtain ⟨value, between, first, others⟩ := bind_eq_ok_iff.mp read
      obtain ⟨values, last, rest, ended⟩ := bind_eq_ok_iff.mp others
      obtain ⟨rfl, rfl⟩ := pure_eq_ok_iff.mp ended
      obtain ⟨text, means, written⟩ := each cursor value between first
      obtain ⟨texts, ⟨counted, mean⟩, followed⟩ := ih between values last rest
      refine ⟨text :: texts, ⟨?_, .cons means mean⟩, ?_⟩
      · rw [List.length_cons, counted]
      · rw [written, followed, List.flatMap_cons, List.append_assoc]

theorem Parses.counted {reader : Reader β} {write : α → List UInt8} {Means : α → β → Prop}
    (each : Parses reader write Means) :
    Parses (counted reader) (Rows.bytes write) fun rows values =>
      List.Forall₂ Means rows.1 values := by
  intro cursor values after read
  obtain ⟨count, between, first, others⟩ := bind_eq_ok_iff.mp read
  have written := rest_of_u2 first
  obtain ⟨texts, ⟨counted, mean⟩, followed⟩ := each.repeated _ between values after others
  have short : texts.length < 65536 := by
    rw [counted]
    exact UInt16.toNat_lt _
  refine ⟨⟨texts, short⟩, mean, ?_⟩
  simp only [written, followed, Rows.bytes, counted, UInt16.ofNat_toNat, List.append_assoc]

theorem readAll_eq_ok_iff {reader : Reader α} {data : List UInt8} {value : α} :
    readAll reader data = .ok value ↔ ∃ after, reader (Cursor.start data) = .ok value after := by
  unfold Reader.readAll
  cases reader (Cursor.start data) with
  | ok found after => simp
  | error cause after => simp

/-- What is read where something is written is what was written. -/
theorem Yields.eq_of_ok {reader : Reader α} {bytes rest : List UInt8} {value found : α}
    {cursor after : Cursor} (yields : Yields reader bytes (.ok value))
    (written : cursor.rest = bytes ++ rest) (read : reader cursor = .ok found after) :
    found = value ∧ after.rest = rest := by
  have here := yields cursor.position rest
  rw [← written, read] at here
  cases here
  exact ⟨rfl, rfl⟩

/-! ## Readers that accept more -/

/-- Wherever the first reader succeeds, the second one does, with the same value. -/
def Refines (reader other : Reader α) : Prop :=
  ∀ cursor value after, reader cursor = .ok value after → other cursor = .ok value after

theorem Refines.refl (reader : Reader α) : Refines reader reader :=
  fun _ _ _ read => read

theorem Refines.bind {reader other : Reader α} {next following : α → Reader β}
    (first : Refines reader other) (second : ∀ value, Refines (next value) (following value)) :
    Refines (reader >>= next) (other >>= following) := by
  intro cursor value after read
  obtain ⟨middle, between, start, final⟩ := bind_eq_ok_iff.mp read
  exact bind_eq_ok_iff.mpr ⟨middle, between, first _ _ _ start, second middle _ _ _ final⟩

theorem Refines.repeated {reader other : Reader α} (each : Refines reader other) (count : Nat) :
    Refines (repeated reader count) (repeated other count) := by
  induction count with
  | zero => exact Refines.refl _
  | succ count ih => exact each.bind fun _ => ih.bind fun _ => Refines.refl _

theorem Refines.counted {reader other : Reader α} (each : Refines reader other) :
    Refines (counted reader) (counted other) :=
  (Refines.refl u2).bind fun count => each.repeated count.toNat

theorem Refines.readAll {reader other : Reader α} (refines : Refines reader other)
    {data : List UInt8} {value : α} (read : readAll reader data = .ok value) :
    Reader.readAll other data = .ok value := by
  obtain ⟨after, read⟩ := readAll_eq_ok_iff.mp read
  exact readAll_eq_ok_iff.mpr ⟨after, refines _ _ _ read⟩

end GrantSurvey.ClassFile.Reader
