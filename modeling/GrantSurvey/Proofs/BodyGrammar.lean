import GrantSurvey.Proofs.BodyDecoding

/-!
# The grammar of bodies

The decoder accepts exactly the bodies that the format allows. The grammar leaves no choice: bytes
can be split into complete forms in one way only.
-/

namespace GrantSurvey.ClassFile.Bytecode

open Outcome

/-! ## Splitting is unique -/

/-- A list written with an equal number of bytes for each element can be read back. -/
theorem flatMap_injective {α : Type} {write : α → List UInt8} {size : Nat}
    (sized : ∀ value, (write value).length = size + 1)
    (injective : ∀ {first second}, write first = write second → first = second)
    {firsts seconds : List α} (same : firsts.flatMap write = seconds.flatMap write) :
    firsts = seconds := by
  induction firsts generalizing seconds with
  | nil =>
      cases seconds with
      | nil => rfl
      | cons second seconds =>
          have lengths := congrArg List.length same
          simp only [List.flatMap_nil, List.length_nil, List.flatMap_cons, List.length_append,
            sized] at lengths
          omega
  | cons first firsts ih =>
      cases seconds with
      | nil =>
          have lengths := congrArg List.length same
          simp only [List.flatMap_nil, List.length_nil, List.flatMap_cons, List.length_append,
            sized] at lengths
          omega
      | cons second seconds =>
          simp only [List.flatMap_cons] at same
          obtain ⟨heads, tails⟩ := List.append_inj same ((sized first).trans (sized second).symm)
          rw [injective heads, ih tails]

theorem wordBytes_injective {first second : Int32}
    (same : Form.wordBytes first = Form.wordBytes second) : first = second := by
  have words := congrArg UInt32.toInt32 (BigEndian.bytes4_injective same)
  simpa only [Int32.toInt32_toUInt32] using words

theorem wordBytes_append_inj {first second : Int32} {rest other : List UInt8}
    (same : Form.wordBytes first ++ rest = Form.wordBytes second ++ other) :
    first = second ∧ rest = other := by
  obtain ⟨words, rests⟩ := List.append_inj same rfl
  exact ⟨wordBytes_injective words, rests⟩

theorem pairBytes_injective {first second : Int32 × Int32}
    (same : Form.pairBytes first = Form.pairBytes second) : first = second := by
  obtain ⟨values, rests⟩ := wordBytes_append_inj same
  exact Prod.ext values (wordBytes_injective rests)

/-- Two paddings at the same offset are equally long. -/
theorem padding_append_inj {offset : Nat} {front front' rest rest' : List UInt8}
    (short : front.length < 4) (aligned : 4 ∣ offset + 1 + front.length)
    (short' : front'.length < 4) (aligned' : 4 ∣ offset + 1 + front'.length)
    (same : front ++ rest = front' ++ rest') : front = front' ∧ rest = rest' :=
  List.append_inj same ((padding_eq short aligned).symm.trans (padding_eq short' aligned'))

/-- Only a form of fixed length starts with an opcode that the chart gives a length. -/
theorem Form.Complete.eq_fixed {offset count : Nat} {form : Form} (complete : form.Complete offset)
    (charted : lengthChart[form.opcode.toNat]? = some (count + 1)) :
    form = .fixed form.opcode form.operands := by
  cases complete with
  | fixed => rfl
  | wideIncrement | wide | tableSwitch | lookupSwitch => cases charted

/-- A complete form is determined by its bytes. -/
theorem Form.Complete.eq_of_bytes {offset : Nat} {form other : Form}
    (complete : form.Complete offset) (otherComplete : other.Complete offset)
    (same : form.bytes = other.bytes) : form = other := by
  obtain ⟨opcodes, operands⟩ := List.cons.inj same
  have fixed {count : Nat} (charted : lengthChart[form.opcode.toNat]? = some (count + 1)) :
      form = other := by
    rw [complete.eq_fixed charted, otherComplete.eq_fixed (opcodes ▸ charted), opcodes, operands]
  cases complete with
  | fixed charted => exact fixed charted
  | wideIncrement | wide =>
      cases otherComplete with
      | fixed charted => exact fixed (by rw [opcodes]; exact charted)
      | wideIncrement | wide =>
          obtain ⟨opcodes, operands⟩ := List.cons.inj operands
          rw [opcodes, operands]
      | tableSwitch | lookupSwitch => simp [Form.opcode] at opcodes
  | tableSwitch short aligned =>
      cases otherComplete with
      | fixed charted => exact fixed (by rw [opcodes]; exact charted)
      | tableSwitch short' aligned' =>
          obtain ⟨fronts, rests⟩ := padding_append_inj short aligned short' aligned' operands
          obtain ⟨defaults, rests⟩ := wordBytes_append_inj rests
          obtain ⟨lows, rests⟩ := wordBytes_append_inj rests
          obtain ⟨highs, rests⟩ := wordBytes_append_inj rests
          rw [fronts, defaults, lows, highs,
            flatMap_injective length_wordBytes wordBytes_injective rests]
      | wideIncrement | wide | lookupSwitch => simp [Form.opcode] at opcodes
  | lookupSwitch short aligned =>
      cases otherComplete with
      | fixed charted => exact fixed (by rw [opcodes]; exact charted)
      | lookupSwitch short' aligned' =>
          obtain ⟨fronts, rests⟩ := padding_append_inj short aligned short' aligned' operands
          obtain ⟨defaults, rests⟩ := wordBytes_append_inj rests
          obtain ⟨counts, rests⟩ := wordBytes_append_inj rests
          rw [fronts, defaults, counts,
            flatMap_injective length_pairBytes pairBytes_injective rests]
      | wideIncrement | wide | tableSwitch => simp [Form.opcode] at opcodes

/-- Bytes start with at most one form that is complete. -/
theorem Form.Complete.bytes_append_inj {offset : Nat} {form other : Form}
    (complete : form.Complete offset) (otherComplete : other.Complete offset)
    {rest otherRest : List UInt8} (same : form.bytes ++ rest = other.bytes ++ otherRest) :
    form = other ∧ rest = otherRest := by
  obtain ⟨opcodes, operands⟩ := List.cons.inj same
  have sizes : form.size = other.size := by
    have measured := complete.length_eq rest
    rw [show form.opcode = other.opcode from opcodes,
      show form.operands ++ rest = other.operands ++ otherRest from operands,
      otherComplete.length_eq] at measured
    exact (Except.ok.inj measured).symm
  obtain ⟨fronts, rests⟩ := List.append_inj same sizes
  exact ⟨complete.eq_of_bytes otherComplete fronts, rests⟩

/-- The forms make up the code, each complete where it stands. -/
structure Splits (code : List UInt8) (forms : List Form) : Prop where
  whole : written forms = code
  complete : ∀ place ∈ placed 0 forms, place.2.Complete place.1

/-- Bytes can be split into complete forms in one way only. -/
theorem written_injective {offset : Nat} {forms others : List Form}
    (complete : ∀ place ∈ placed offset forms, place.2.Complete place.1)
    (otherComplete : ∀ place ∈ placed offset others, place.2.Complete place.1)
    (same : written forms = written others) : forms = others := by
  induction forms generalizing offset others with
  | nil =>
      cases others with
      | nil => rfl
      | cons other others => cases same
  | cons form forms ih =>
      cases others with
      | nil => cases same
      | cons other others =>
          have front : form.Complete offset := complete (offset, form) List.mem_cons_self
          have otherFront : other.Complete offset :=
            otherComplete (offset, other) List.mem_cons_self
          obtain ⟨rfl, rests⟩ := front.bytes_append_inj otherFront same
          have tails := ih (fun place member => complete place (List.mem_cons_of_mem _ member))
            (fun place member => otherComplete place (List.mem_cons_of_mem _ member)) rests
          rw [tails]

theorem Splits.unique {code : List UInt8} {forms others : List Form} (splits : Splits code forms)
    (otherSplits : Splits code others) : others = forms :=
  written_injective otherSplits.complete splits.complete
    (otherSplits.whole.trans splits.whole.symm)

/-! ## Places -/

theorem placed_ge {offset : Nat} {forms : List Form} {place : Nat × Form}
    (member : place ∈ placed offset forms) : offset ≤ place.1 := by
  induction forms generalizing offset with
  | nil => cases member
  | cons form forms ih =>
      rcases List.mem_cons.mp member with rfl | member
      · exact Nat.le_refl _
      · exact Nat.le_trans (Nat.le_add_right _ _) (ih member)

/-- Places come in strictly ascending order. -/
theorem placed_pairwise (offset : Nat) (forms : List Form) :
    (placed offset forms).Pairwise (fun first second => first.1 < second.1) := by
  induction forms generalizing offset with
  | nil => exact .nil
  | cons form forms ih =>
      refine .cons ?_ (ih _)
      intro place member
      have nonempty : 0 < form.size := Nat.zero_lt_succ _
      have after := placed_ge member
      dsimp only
      omega

theorem bytes_starts_drop {offset : Nat} {forms : List Form} {place : Nat × Form}
    (member : place ∈ placed offset forms) :
    place.2.bytes <+: (written forms).drop (place.1 - offset) := by
  induction forms generalizing offset with
  | nil => cases member
  | cons form forms ih =>
      rcases List.mem_cons.mp member with rfl | member
      · rw [Nat.sub_self, List.drop_zero]
        exact List.prefix_append _ _
      · have after := placed_ge member
        have split : place.1 - offset = form.bytes.length + (place.1 - (offset + form.size)) := by
          unfold Form.size at after ⊢
          omega
        rw [split, written, List.flatMap_cons, List.drop_length_add_append]
        exact ih member

/-- The bytes of the code from `place` on start with the form, complete there. -/
structure Form.StandsAt (form : Form) (code : List UInt8) (place : Nat) : Prop where
  complete : form.Complete place
  starts : form.bytes <+: code.drop place

/-- At each place stands one form only. -/
theorem Form.StandsAt.unique {form other : Form} {code : List UInt8} {place : Nat}
    (stands : form.StandsAt code place) (otherStands : other.StandsAt code place) :
    other = form := by
  obtain ⟨rest, whole⟩ := stands.starts
  obtain ⟨otherRest, otherWhole⟩ := otherStands.starts
  exact (otherStands.complete.bytes_append_inj stands.complete (otherWhole.trans whole.symm)).1

theorem Splits.standsAt {code : List UInt8} {forms : List Form} (splits : Splits code forms)
    {place : Nat × Form} (member : place ∈ placed 0 forms) : place.2.StandsAt code place.1 := by
  refine ⟨splits.complete place member, ?_⟩
  rw [← splits.whole]
  exact bytes_starts_drop member

/-- Every form stands within the code. -/
theorem Splits.place_lt {code : List UInt8} {forms : List Form} (splits : Splits code forms)
    {place : Nat × Form} (member : place ∈ placed 0 forms) : place.1 < code.length := by
  have inside := (splits.standsAt member).starts.length_le
  rw [List.length_drop, Form.bytes, List.length_cons] at inside
  omega

/-! ## Acceptance -/

/-- What the format demands of a form: it is complete at its place, its look-ups in the constant
pool are answered, and none of its jumps leads to before the start. -/
structure Form.Accepted (symbols : Symbols) (place : Nat) (form : Form) : Prop where
  complete : form.Complete place
  callee : ∀ index, form.calleeIndex? = some index → ∃ callee, symbols.method index = .ok callee
  literal : ∀ index, form.literalIndex? = some index → ∃ value, symbols.literal index = .ok value
  lands : ∀ distance ∈ form.distances, 0 ≤ (place : Int) + distance

theorem distance_lt {form : Form} {distance : Int} (held : distance ∈ form.distances) :
    distance < 2147483648 := by
  unfold Form.distances at held
  split at held
  · split at held
    · rw [List.mem_singleton.mp held]
      exact Int.lt_trans (Int16.toInt_lt _) (by decide)
    · cases held
  · split at held
    · rw [List.mem_singleton.mp held]
      exact Int32.toInt_lt _
    · cases held
  · cases held
  · cases held
  · rcases List.mem_cons.mp held with rfl | held
    · exact Int32.toInt_lt _
    · obtain ⟨value, _, rfl⟩ := List.mem_map.mp held
      exact Int32.toInt_lt _
  · rcases List.mem_cons.mp held with rfl | held
    · exact Int32.toInt_lt _
    · obtain ⟨pair, _, rfl⟩ := List.mem_map.mp held
      exact Int32.toInt_lt _

/-- A form that denotes an effect has found its callee. -/
theorem Form.Denotes.exists_callee {symbols : Symbols} {place : Nat} {form : Form} {result : Effect}
    (denotes : form.Denotes symbols result) (complete : form.Complete place) {index : UInt16}
    (calls : form.calleeIndex? = some index) : ∃ callee, symbols.method index = .ok callee := by
  have read := denotes.effect_eq complete []
  unfold Form.calleeIndex? at calls
  split at calls
  · split at calls
    · rename_i listed
      obtain ⟨⟨_, kind⟩, member, rfl⟩ := List.mem_map.mp listed
      rw [Form.opcode, Form.operands, effect_call symbols place member] at read
      simp only [List.cons_append, half, ok_bind, bind_eq_ok_iff, inPlace_eq_ok_iff] at read
      obtain ⟨callee, found, _⟩ := read
      cases calls
      exact ⟨callee, found⟩
    · cases calls
  · cases calls

theorem Form.literalIndex?_fixed {form : Form} {index : UInt16}
    (loads : form.literalIndex? = some index) :
    ∃ opcode operands, form = .fixed opcode operands ∧
      (opcode = 0x14 → ∃ a b, operands = [a, b] ∧ BigEndian.u2 a b = index) := by
  unfold Form.literalIndex? at loads
  split at loads
  · split at loads
    · rename_i ldc
      exact ⟨_, _, rfl, fun long => absurd (ldc.symm.trans long) (by decide)⟩
    · cases loads
  · split at loads
    · cases loads
      exact ⟨_, _, rfl, fun _ => ⟨_, _, rfl, rfl⟩⟩
    · cases loads
  · cases loads

/-- A form that denotes an effect has found its literal, if it loads one. -/
theorem Form.Denotes.exists_literal {symbols : Symbols} {place : Nat} {form : Form}
    {result : Effect} (denotes : form.Denotes symbols result) (complete : form.Complete place)
    {index : UInt16} (loads : form.literalIndex? = some index) :
    ∃ value, symbols.literal index = .ok value := by
  have read := denotes.effect_eq complete []
  obtain ⟨opcode, operands, rfl, twoBytes⟩ := Form.literalIndex?_fixed loads
  by_cases long : opcode = 0x14
  · obtain ⟨a, b, rfl, rfl⟩ := twoBytes long
    subst long
    rw [Form.opcode, Form.operands, List.cons_append, List.cons_append, effect_long] at read
    obtain ⟨value, found, _⟩ := bind_eq_ok_iff.mp read
    exact ⟨value, found⟩
  · rw [Form.opcode, Form.operands, effect_narrow symbols place long loads] at read
    obtain ⟨value, found, _⟩ := bind_eq_ok_iff.mp read
    exact ⟨value, found⟩

/-- A form whose look-ups are answered denotes an effect. -/
theorem Form.Accepted.exists_denotes {symbols : Symbols} {place : Nat} {form : Form}
    (accepted : form.Accepted symbols place) : ∃ result, form.Denotes symbols result := by
  obtain ⟨complete, callee, literal, _⟩ := accepted
  cases complete with
  | fixed charted =>
      cases kind_of_chart charted with
      | call calls =>
          obtain ⟨symbol, found⟩ := callee _ (if_pos (List.mem_map_of_mem calls))
          exact ⟨_, .call calls found⟩
      | narrow narrow loads =>
          obtain ⟨value, found⟩ := literal _ loads
          exact ⟨_, denotes_loadNarrow narrow loads found⟩
      | long =>
          obtain ⟨value, found⟩ := literal _ rfl
          exact ⟨_, denotes_loadWide found⟩
      | small listed => exact ⟨_, .small listed⟩
      | signedByte => exact ⟨_, .signedByte⟩
      | signedHalf => exact ⟨_, .signedHalf⟩
      | push listed => exact ⟨_, .push listed⟩
      | other unlisted => exact ⟨_, .other unlisted⟩
  | wideIncrement => exact ⟨_, .wideOther (by decide)⟩
  | @wide opcode operands other count =>
      by_cases loads : opcode ∈ [0x15, 0x16, 0x17, 0x18, 0x19]
      · exact ⟨_, .widePush loads⟩
      · exact ⟨_, .wideOther loads⟩
  | tableSwitch => exact ⟨_, .tableSwitch⟩
  | lookupSwitch => exact ⟨_, .lookupSwitch⟩

/-- In the first half of the offsets, what the format demands is all that reading needs. -/
theorem Form.exists_readAs_iff {symbols : Symbols} {place : Nat} {form : Form}
    (near : place < 2147483648) :
    (∃ step, form.ReadAs symbols place step) ↔ form.Accepted symbols place := by
  constructor
  · rintro ⟨step, readAs⟩
    exact ⟨readAs.complete, fun _ => readAs.denotes.exists_callee readAs.complete,
      fun _ => readAs.denotes.exists_literal readAs.complete,
      fun distance held => (readAs.lands distance held).1⟩
  · intro accepted
    obtain ⟨effect, denotes⟩ := accepted.exists_denotes
    refine ⟨⟨place, effect, form.targets place⟩, accepted.complete, denotes, ?_, rfl, rfl⟩
    intro distance held
    have bound := distance_lt held
    have limit : offsetLimit = 4294967296 := rfl
    exact ⟨accepted.lands distance held, by omega⟩

/-! ## Whole bodies -/

theorem exists_readsAs {symbols : Symbols} {offset : Nat} {forms : List Form}
    (readable : ∀ place ∈ placed offset forms, ∃ step, place.2.ReadAs symbols place.1 step) :
    ∃ result, ReadsAs symbols offset forms result := by
  induction forms generalizing offset with
  | nil => exact ⟨[], .nil⟩
  | cons form forms ih =>
      obtain ⟨step, readAs⟩ := readable (offset, form) List.mem_cons_self
      obtain ⟨following, readsAs⟩ :=
        ih (fun place member => readable place (List.mem_cons_of_mem _ member))
      exact ⟨step :: following, .cons readAs readsAs⟩

theorem ReadsAs.splits {symbols : Symbols} {forms : List Form} {result : List Step}
    (readsAs : ReadsAs symbols 0 forms result) : Splits (written forms) forms := by
  refine ⟨rfl, ?_⟩
  intro place member
  obtain ⟨step, _, readAs⟩ := readsAs.exists_readAs member
  exact readAs.complete

/-- A body is decoded by reading its forms and marking where control may arrive. -/
theorem decode_eq_ok_iff {symbols : Symbols} {handlers : List Nat} {code : List UInt8}
    {instructions : List Instruction} :
    decode symbols handlers code = .ok instructions ↔
      ∃ forms result, written forms = code ∧ ReadsAs symbols 0 forms result ∧
        mark handlers result = instructions := by
  simp only [decode, bind_eq_ok_iff, steps_eq_ok_iff, pure_eq_ok, Except.ok.injEq]
  constructor
  · rintro ⟨result, ⟨forms, whole, readsAs⟩, marked⟩
    exact ⟨forms, result, whole, readsAs, marked⟩
  · rintro ⟨forms, result, whole, readsAs, marked⟩
    exact ⟨result, ⟨forms, whole, readsAs⟩, marked⟩

theorem Form.Denotes.unique {symbols : Symbols} {place : Nat} {form : Form}
    {first second : Effect} (complete : form.Complete place)
    (denotes : form.Denotes symbols first) (otherDenotes : form.Denotes symbols second) :
    second = first := by
  have read := otherDenotes.effect_eq complete []
  rw [denotes.effect_eq complete []] at read
  exact (Except.ok.inj read).symm

/-- The instructions stand for the forms of a body one by one: each has the offset of its form and
the one effect that the form denotes. -/
def Follows (symbols : Symbols) (forms : List Form) (instructions : List Instruction) : Prop :=
  List.Forall₂ (fun place instruction =>
    instruction.offset = place.1 ∧ place.2.Denotes symbols instruction.effect ∧
      ∀ other, place.2.Denotes symbols other → other = instruction.effect)
    (placed 0 forms) instructions

theorem ReadsAs.follows_mark {symbols : Symbols} {forms : List Form} {result : List Step}
    (readsAs : ReadsAs symbols 0 forms result) (handlers : List Nat) :
    Follows symbols forms (mark handlers result) := by
  unfold Follows mark
  dsimp only
  rw [List.forall₂_map_right_iff]
  refine List.Forall₂.imp ?_ readsAs
  intro place step readAs
  exact ⟨readAs.offset_eq, readAs.denotes, fun _ => readAs.denotes.unique readAs.complete⟩

theorem Follows.offsets_eq {symbols : Symbols} {forms : List Form}
    {instructions : List Instruction} (follows : Follows symbols forms instructions) :
    instructions.map (·.offset) = (placed 0 forms).map Prod.fst := by
  rw [← List.forall₂_eq_eq_eq, List.forall₂_map_left_iff, List.forall₂_map_right_iff]
  exact List.Forall₂.flip (follows.imp fun _ _ stands => stands.1)

/-- Offsets start at zero and ascend. -/
theorem Follows.offsets_ascend {symbols : Symbols} {forms : List Form}
    {instructions : List Instruction} (follows : Follows symbols forms instructions) :
    (∀ first ∈ (instructions.map (·.offset)).head?, first = 0) ∧
      (instructions.map (·.offset)).Pairwise (· < ·) := by
  rw [follows.offsets_eq]
  constructor
  · cases forms with
    | nil => simp [placed]
    | cons form forms => simp [placed]
  · exact List.Pairwise.map _ (fun _ _ before => before) (placed_pairwise 0 forms)

/-- The decoder accepts exactly what the format allows. A body is decoded if and only if it is
split into complete forms whose look-ups are answered and whose jumps do not lead to before the
start. There is then no other way to split it, and the instructions follow the forms: one for each,
at its place, with the effect that it denotes. -/
theorem decode_follows_grammar (symbols : Symbols) (handlers : List Nat) (code : List UInt8)
    (short : code.length < 2147483648) :
    ((∃ instructions, decode symbols handlers code = .ok instructions) ↔
      ∃ forms, Splits code forms ∧
        ∀ place ∈ placed 0 forms, place.2.Accepted symbols place.1) ∧
    ∀ instructions, decode symbols handlers code = .ok instructions →
      ∃ forms, Splits code forms ∧ (∀ others, Splits code others → others = forms) ∧
        Follows symbols forms instructions ∧
        (∀ first ∈ (instructions.map (·.offset)).head?, first = 0) ∧
        (instructions.map (·.offset)).Pairwise (· < ·) := by
  constructor
  · constructor
    · rintro ⟨instructions, decoded⟩
      obtain ⟨forms, result, rfl, readsAs, _⟩ := decode_eq_ok_iff.mp decoded
      refine ⟨forms, readsAs.splits, ?_⟩
      intro place member
      have near := Nat.lt_trans (readsAs.splits.place_lt member) short
      obtain ⟨step, _, readAs⟩ := readsAs.exists_readAs member
      exact (Form.exists_readAs_iff near).mp ⟨step, readAs⟩
    · rintro ⟨forms, splits, accepted⟩
      have readable (place : Nat × Form) (member : place ∈ placed 0 forms) :
          ∃ step, place.2.ReadAs symbols place.1 step := by
        have near := Nat.lt_trans (splits.place_lt member) short
        exact (Form.exists_readAs_iff near).mpr (accepted place member)
      obtain ⟨result, readsAs⟩ := exists_readsAs readable
      exact ⟨_, decode_eq_ok_iff.mpr ⟨forms, result, splits.whole, readsAs, rfl⟩⟩
  · intro instructions decoded
    obtain ⟨forms, result, rfl, readsAs, rfl⟩ := decode_eq_ok_iff.mp decoded
    have follows := readsAs.follows_mark handlers
    exact ⟨forms, readsAs.splits, fun others => readsAs.splits.unique, follows,
      follows.offsets_ascend⟩

/-- A literal, a call, a switch with two bytes of padding whose jumps lead backwards, and a
subroutine call. -/
theorem decode_follows_grammar_sample :
    let symbols : Symbols :=
      { method := fun _ => .ok ⟨"java/lang/System", "exit", "(I)V"⟩
        literal := fun _ => .ok (some (.int 1)) }
    let code : List UInt8 :=
      [0x12, 1, 0xb8, 0, 2, 0xaa, 0, 0, 255, 255, 255, 251, 0, 0, 0, 0, 0, 0, 0, 0,
        255, 255, 255, 253, 0xa8, 255, 232, 0xb1]
    code.length < 2147483648 ∧ ∃ instructions, decode symbols [5] code = .ok instructions := by
  intro symbols code
  have short : code.length < 2147483648 := by decide
  let forms : List Form :=
    [.fixed 0x12 [1], .fixed 0xb8 [0, 2], .tableSwitch [0, 0] (-5) 0 0 [-3],
      .fixed 0xa8 [255, 232], .fixed 0xb1 []]
  have accepted : ∀ place ∈ placed 0 forms, place.2.Accepted symbols place.1 := by
    simp only [forms, placed, List.forall_mem_cons]
    refine ⟨⟨.fixed rfl, ?_, ?_, by decide⟩, ⟨.fixed rfl, ?_, ?_, by decide⟩,
      ⟨.tableSwitch (by decide) (by decide) (by decide), ?_, ?_, by decide⟩,
      ⟨.fixed rfl, ?_, ?_, by decide⟩, ⟨.fixed rfl, ?_, ?_, by decide⟩, nofun⟩
    all_goals exact fun _ _ => ⟨_, rfl⟩
  have splits : Splits code forms :=
    ⟨by decide, fun place member => (accepted place member).complete⟩
  exact ⟨short, (decode_follows_grammar symbols [5] code short).1.mpr ⟨forms, splits, accepted⟩⟩

end GrantSurvey.ClassFile.Bytecode
