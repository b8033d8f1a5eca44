import GrantSurvey.Proofs.ClassDescription
import GrantSurvey.Proofs.MeasuredReading
import GrantSurvey.Proofs.MoreHandlers

/-!
# Lines of offsets

Which source line an offset in a method body stems from: that of the entry with the greatest start
at or before the offset, and of several such entries that of the last one in the file. The entries
may be spread over several tables and stand in any order. Both readings sort them stably and then
search by halves, which finds that line.
-/

namespace GrantSurvey.ClassFile

open Outcome Reader

/-- The line that an offset stems from, by entries in the order of the file. -/
inductive LineOf (entries : List LineNumber) (offset : Nat) : Option Nat → Prop where
  | unknown (late : ∀ entry ∈ entries, offset < entry.start) : LineOf entries offset none
  | known {before after : List LineNumber} {entry : LineNumber}
      (here : entries = before ++ entry :: after) (started : entry.start ≤ offset)
      (nearest : ∀ other ∈ entries, other.start ≤ offset → other.start ≤ entry.start)
      (last : ∀ other ∈ after, other.start ≠ entry.start) :
      LineOf entries offset (some entry.line)

/-! ## Searching by halves -/

section

variable {α : Type} {passes : α → Bool} {list : List α} {count : Nat}
  (split : ∀ index, passesAt passes list index = true ↔ index < count)

include split

/-- The stretch goes on reaching up to the first element that fails, and goes on starting at one
that passes, or at the first one. -/
theorem narrow_spec {base size : Nat} (some : 0 < size) (starts : base < count ∨ base = 0)
    (reaches : count ≤ base + size) :
    (narrow passes list base size < count ∨ narrow passes list base size = 0) ∧
      count ≤ narrow passes list base size + 1 := by
  induction base, size using narrow.induct passes list with
  | case1 base size large middle ih =>
      rw [narrow, if_pos large]
      apply ih
      · omega
      · split
        · rename_i passed
          exact .inl ((split middle).mp passed)
        · exact starts
      · split
        · omega
        · rename_i failed
          have beyond := mt (split middle).mpr failed
          omega
  | case2 base size small =>
      rw [narrow, if_neg small]
      exact ⟨starts, by omega⟩

theorem partitionPoint_eq (short : count ≤ list.length) : partitionPoint passes list = count := by
  cases list with
  | nil => exact (Nat.le_zero.mp short).symm
  | cons first others =>
      have some : 0 < others.length + 1 := Nat.succ_pos _
      obtain ⟨passed, reaches⟩ := narrow_spec split some (.inr rfl) (by simpa using short)
      simp only [partitionPoint, List.length_cons]
      split
      · rename_i last
        have below := (split _).mp last
        omega
      · rename_i last
        have beyond := mt (split _).mpr last
        omega

end

/-- Where all entries up to a point have started and none after it has, the last one that has
started is found. -/
theorem lineAt_append {front back : List LineNumber} {offset : Nat}
    (started : ∀ entry ∈ front, entry.start ≤ offset)
    (late : ∀ entry ∈ back, offset < entry.start) :
    lineAt (front ++ back) offset = front.getLast?.map (·.line) := by
  have split (index : Nat) :
      passesAt (fun entry => decide (entry.start ≤ offset)) (front ++ back) index = true ↔
        index < front.length := by
    rw [passesAt, List.getElem?_append]
    split
    · rename_i inside
      rw [List.getElem?_eq_getElem inside]
      simpa [inside] using started _ (List.getElem_mem inside)
    · rename_i outside
      cases found : back[index - front.length]? with
      | none => simpa using outside
      | some entry =>
          have beyond := late entry (List.mem_of_getElem? found)
          simpa [Nat.not_le.mpr beyond] using outside
  have found := partitionPoint_eq split (by simp)
  rw [lineAt, found]
  rcases List.eq_nil_or_concat' front with rfl | ⟨others, last, rfl⟩
  · rfl
  · simp

/-- An ascending table has a point up to which its entries have started. -/
theorem exists_started {lines : List LineNumber}
    (ascending : lines.Pairwise fun first second => decide (first.start ≤ second.start) = true)
    (offset : Nat) :
    ∃ front back, lines = front ++ back ∧ (∀ entry ∈ front, entry.start ≤ offset) ∧
      ∀ entry ∈ back, offset < entry.start := by
  induction lines with
  | nil => exact ⟨[], [], rfl, List.forall_mem_nil _, List.forall_mem_nil _⟩
  | cons first others ih =>
      obtain ⟨below, ascending⟩ := List.pairwise_cons.mp ascending
      by_cases started : first.start ≤ offset
      · obtain ⟨front, back, rfl, early, late⟩ := ih ascending
        exact ⟨first :: front, back, rfl, List.forall_mem_cons.mpr ⟨started, early⟩, late⟩
      · refine ⟨[], first :: others, rfl, List.forall_mem_nil _,
          List.forall_mem_cons.mpr ⟨Nat.not_le.mp started, ?_⟩⟩
        intro entry member
        have above := of_decide_eq_true (below entry member)
        omega

/-! ## From sorted entries back to the file -/

/-- The last element that passes a test is the one after which none passes. -/
theorem getLast?_filter_eq_some_iff {α : Type} {passes : α → Bool} {list : List α} {element : α} :
    (list.filter passes).getLast? = some element ↔ passes element = true ∧
      ∃ before after, list = before ++ element :: after ∧
        ∀ other ∈ after, passes other = false := by
  rw [List.getLast?_eq_head?_reverse, ← List.filter_reverse, List.head?_filter,
    List.find?_eq_some_iff_append, and_congr_right_iff]
  intro _
  constructor
  · rintro ⟨after, before, reversed, none⟩
    refine ⟨before.reverse, after.reverse, ?_, fun other member => ?_⟩
    · simpa using congrArg List.reverse reversed
    · simpa using none other (List.mem_reverse.mp member)
  · rintro ⟨before, after, rfl, none⟩
    refine ⟨after.reverse, before.reverse, by simp, fun other member => ?_⟩
    simpa using none other (List.mem_reverse.mp member)

/-- The last entry that has started, in a stable order, is the one to which the offset belongs. -/
theorem lineOf_getLast? {entries front back : List LineNumber} {offset : Nat}
    (ordered : StablyOrdered (fun first second => decide (first ≤ second)) LineNumber.start entries
      (front ++ back))
    (started : ∀ entry ∈ front, entry.start ≤ offset)
    (late : ∀ entry ∈ back, offset < entry.start) :
    LineOf entries offset (front.getLast?.map (·.line)) := by
  have inside (entry : LineNumber) (member : entry ∈ entries) : entry ∈ front ∨ entry ∈ back :=
    List.mem_append.mp (ordered.perm.mem_iff.mpr member)
  rcases List.eq_nil_or_concat' front with rfl | ⟨others, entry, rfl⟩
  · exact .unknown fun entry member =>
      late entry ((inside entry member).resolve_left List.not_mem_nil)
  have here : entry.start ≤ offset := started entry (by simp)
  -- Entries of one start keep their order, so the last of them is the last in the file.
  have last : (entries.filter (LineNumber.start · = entry.start)).getLast? = some entry := by
    have none : back.filter (LineNumber.start · = entry.start) = [] := by
      rw [List.filter_eq_nil_iff]
      intro other member
      have beyond := late other member
      simp only [decide_eq_true_eq]
      omega
    rw [← ordered.keeps, List.filter_append, List.filter_append, none]
    simp
  obtain ⟨-, before, after, split, different⟩ := getLast?_filter_eq_some_iff.mp last
  have nearest (other : LineNumber) (member : other ∈ entries) (early : other.start ≤ offset) :
      other.start ≤ entry.start := by
    have among : other ∈ others ++ [entry] :=
      (inside other member).resolve_right fun beyond => by
        have := late other beyond
        omega
    have ascending := (List.pairwise_append.mp (List.pairwise_append.mp ordered.ascending).1).2.2
    rcases List.mem_append.mp among with earlier | same
    · exact of_decide_eq_true (ascending other earlier entry List.mem_cons_self)
    · exact Nat.le_of_eq (congrArg LineNumber.start (List.mem_singleton.mp same))
  rw [List.getLast?_concat]
  exact .known split here nearest fun other member => of_decide_eq_false (different other member)

/-- An offset stems from one line at most. -/
theorem LineOf.unique {entries : List LineNumber} {offset : Nat} {line other : Option Nat}
    (first : LineOf entries offset line) (second : LineOf entries offset other) : line = other := by
  have last {before after : List LineNumber} {entry : LineNumber}
      (here : entries = before ++ entry :: after)
      (last : ∀ other ∈ after, other.start ≠ entry.start) :
      (entries.filter (LineNumber.start · = entry.start)).getLast? = some entry :=
    getLast?_filter_eq_some_iff.mpr ⟨decide_eq_true rfl, before, after, here,
      fun other member => decide_eq_false (last other member)⟩
  cases first with
  | unknown late =>
      cases second with
      | unknown => rfl
      | @known _ _ entry here started =>
          exact absurd started (Nat.not_le.mpr (late entry (by simp [here])))
  | @known _ _ entry here started nearest alone =>
      cases second with
      | unknown late => exact absurd started (Nat.not_le.mpr (late entry (by simp [here])))
      | @known _ _ other there otherStarted otherNearest otherAlone =>
          have starts : entry.start = other.start :=
            Nat.le_antisymm (otherNearest entry (by simp [here]) started)
              (nearest other (by simp [there]) otherStarted)
          have same := last there otherAlone
          rw [← starts, last here alone] at same
          rw [Option.some.inj same]

/-- Searching the sorted entries finds the line that an offset stems from. -/
theorem lineAt_sortLines_iff (entries : List LineNumber) (offset : Nat) (line : Option Nat) :
    lineAt (sortLines entries) offset = line ↔ LineOf entries offset line := by
  have ordered := stablyOrdered_sortLines entries
  obtain ⟨front, back, split, started, late⟩ := exists_started ordered.ascending offset
  rw [split] at ordered ⊢
  rw [lineAt_append started late]
  have found := lineOf_getLast? ordered started late
  exact ⟨fun same => same ▸ found, fun lineOf => found.unique lineOf⟩

/-! ## The tables of the readers -/

/-- The strict reading knows the attribute, and reads just the bytes that are written for it. -/
def AttributeText.Accepted (pool : ConstantPool) (depth : Nat) (text : AttributeText) : Prop :=
  ∃ kept, Yields (Strict.attributeInfo pool depth) text.bytes (.ok kept)

theorem PoolText.HoldsText.entry?_strict {pool : PoolText} {index : UInt16} {text : String}
    (holds : pool.HoldsText index text) :
    ConstantPool.entry? (pool.entries ModifiedUtf8.classText) index = some (.utf8 text) := by
  obtain ⟨short, here⟩ := holds
  rw [here.entry?_eq, Constant.entry, ModifiedUtf8.classText_bytes]

theorem AttributeText.accepted_of_content {pool : ConstantPool} {text : AttributeText}
    {name : String} {depth : Nat} {kept : Strict.Attribute}
    (known : pool.entry? text.name = some (.utf8 name))
    (read : Yields (Strict.content (Strict.attributeInfo pool depth) name text.content.length)
      text.content (.ok kept)) :
    text.Accepted pool (depth + 1) := by
  refine ⟨kept, (yields_u2 text.name).andThen ((yields_u4 _).andThen ?_)⟩
  rw [UInt32.toNat_ofNat', Nat.mod_eq_of_lt text.short]
  simp only [known]
  exact read

/-- A line table is accepted, whatever its entries. -/
theorem AttributeText.accepted_table {pool : PoolText} {text : AttributeText} {rows : Rows LineText}
    (named : pool.HoldsText text.name "LineNumberTable")
    (content : text.content = rows.bytes LineText.bytes) (depth : Nat) :
    text.Accepted (pool.entries ModifiedUtf8.classText) (depth + 1) := by
  have table := Yields.counted rows fun row _ => row.yields
  rw [mapM_ok, ← content] at table
  exact accepted_of_content named.entry?_strict (table.map Strict.Attribute.lineNumbers)

/-- A written attribute of a known name is read as its content. -/
theorem content_of_named {pool : ConstantPool} {content : String → Nat → Reader Strict.Attribute}
    {text : AttributeText} {name : String} {kept : Strict.Attribute}
    (known : pool.entry? text.name = some (.utf8 name))
    (read : Yields (Strict.named pool content) text.bytes (.ok kept)) :
    ∃ start after, start.rest = text.content ∧
      content name text.content.length start = .ok kept after := by
  have whole := read 0 []
  simp only [Strict.named, Reader.bind_eq_ok_iff] at whole
  obtain ⟨index, between, first, length, start, second, inside⟩ := whole
  obtain ⟨rfl, next⟩ := (yields_u2 text.name).eq_of_ok (by rw [AttributeText.bytes,
    List.append_nil]) first
  obtain ⟨rfl, last⟩ := (yields_u4 _).eq_of_ok next second
  simp only [known, UInt32.toNat_ofNat', Nat.mod_eq_of_lt text.short] at inside
  exact ⟨start, _, last, inside⟩

/-- Reading an attribute strictly keeps the line entries that it contributes. -/
theorem AttributeText.DescribesLines.lineEntries_eq {pool : PoolText} {text : AttributeText}
    {entries : List LineNumber} {depth : Nat} {kept : Strict.Attribute}
    (describes : text.DescribesLines pool entries)
    (read : Yields (Strict.attributeInfo (pool.entries ModifiedUtf8.classText) depth) text.bytes
      (.ok kept)) :
    kept.lineEntries = entries := by
  cases depth with
  | zero => cases read 0 []
  | succ depth =>
      cases describes with
      | table rows named content =>
          obtain ⟨start, after, written, inside⟩ := content_of_named named.entry?_strict read
          obtain ⟨numbers, counted, rfl⟩ := map_eq_ok_iff.mp inside
          have rowsYield := Yields.counted rows fun row _ => row.yields
          rw [mapM_ok] at rowsYield
          rw [content, ← List.append_nil (rows.bytes _)] at written
          exact (rowsYield.eq_of_ok written counted).1
      | other other =>
          obtain ⟨name, named, different⟩ := other
          obtain ⟨start, after, written, inside⟩ := content_of_named named.entry?_strict read
          by_cases code : name = "Code"
          · subst code
            obtain ⟨body, -, rfl⟩ := map_eq_ok_iff.mp inside
            rfl
          · rw [Strict.content_plain code different inside]
            rfl

/-- Reading the attributes of a body strictly keeps the entries of its line tables. -/
theorem exists_kept {pool : PoolText} {attributes : List AttributeText}
    {tables : List (List LineNumber)} {depth : Nat}
    (listed : List.Forall₂ (AttributeText.DescribesLines pool) attributes tables)
    (accepted : ∀ text ∈ attributes, text.Accepted (pool.entries ModifiedUtf8.classText) depth) :
    ∃ kept : List Strict.Attribute,
      attributes.mapM (fun text => readAll
        (Strict.attributeInfo (pool.entries ModifiedUtf8.classText) depth) text.bytes) = .ok kept ∧
      kept.flatMap (·.lineEntries) = tables.flatten := by
  induction listed with
  | nil => exact ⟨[], rfl, rfl⟩
  | cons describes _ ih =>
      obtain ⟨⟨first, read⟩, rest⟩ := List.forall_mem_cons.mp accepted
      obtain ⟨others, reads, entries⟩ := ih rest
      refine ⟨first :: others,
        mapM_cons_eq_ok_iff.mpr ⟨first, others, read.readAll_bytes, reads, rfl⟩, ?_⟩
      rw [List.flatMap_cons, describes.lineEntries_eq read, entries, List.flatten_cons]

/-- Reading a body strictly keeps the entries of its line tables in the order of the file. -/
theorem CodeText.yields_strict {pool : PoolText} {text : CodeText}
    {tables : List (List LineNumber)} {depth : Nat}
    (listed : List.Forall₂ (AttributeText.DescribesLines pool) text.attributes.1 tables)
    (accepted : ∀ row ∈ text.attributes.1,
      row.Accepted (pool.entries ModifiedUtf8.classText) depth) :
    Yields (Strict.codeBody (Strict.attributeInfo (pool.entries ModifiedUtf8.classText) depth))
      text.bytes (.ok ⟨text.code, text.handlers.1.map (·.entry.toNat), tables.flatten⟩) := by
  have code : text.code.length = (UInt32.ofNat text.code.length).toNat := by
    rw [UInt32.toNat_ofNat', Nat.mod_eq_of_lt text.short]
  have handlers := Yields.counted text.handlers fun row _ => row.yields
  rw [mapM_ok] at handlers
  obtain ⟨kept, reads, entries⟩ := exists_kept listed accepted
  have each (row : AttributeText) (member : row ∈ text.attributes.1) :
      Yields (Strict.attributeInfo (pool.entries ModifiedUtf8.classText) depth) row.bytes
        (readAll (Strict.attributeInfo (pool.entries ModifiedUtf8.classText) depth) row.bytes) := by
    obtain ⟨first, read⟩ := accepted row member
    rw [read.readAll_bytes]
    exact read
  have attributes := Yields.counted text.attributes each
  rw [reads] at attributes
  rw [CodeText.bytes, ← List.append_assoc, ← entries]
  exact (yields_skip (BigEndian.length_pair text.stack text.locals)).andThen
    ((yields_u4 _).andThen ((yields_take code).andThen (handlers.andThen attributes.andReturn)))

theorem lines_of_resolve {pool : ConstantPool} {info : Strict.MethodInfo} {body : Strict.CodeBody}
    {method : Method} (holds : info.attributes.findSome? Strict.Attribute.body? = some body)
    (resolves : info.resolve pool = .ok (some method)) : method.lines = sortLines body.lines := by
  simp only [Strict.MethodInfo.resolve, holds, Outcome.bind_eq_ok_iff] at resolves
  obtain ⟨name, -, descriptor, -, instructions, -, same⟩ := resolves
  cases same
  rfl

/-- The entries of all line tables of a body, in the order of the file, become one table in both
readings, and searching it by halves finds for each offset the line that it stems from. -/
theorem lines_attributed {pool : PoolText} {text : CodeText} {tables : List (List LineNumber)}
    (listed : List.Forall₂ (AttributeText.DescribesLines pool) text.attributes.1 tables) :
    ∃ lines : List LineNumber,
      (∀ offset line, lineAt lines offset = line ↔ LineOf tables.flatten offset line) ∧
      (∀ result, readAll (Skim.body (pool.entries Utf8.textLossy)) text.bytes = .ok result ↔
        ∃ instructions, Bytecode.decode (pool.entries Utf8.textLossy).skimSymbols
          (text.handlers.1.map (·.entry.toNat)) text.code = .ok instructions ∧
          result = (instructions, lines)) ∧
      ∀ depth, (∀ row ∈ text.attributes.1, row.IsOther pool "LineNumberTable" →
          row.Accepted (pool.entries ModifiedUtf8.classText) (depth + 1)) →
        ∃ body, readAll (Strict.codeBody
            (Strict.attributeInfo (pool.entries ModifiedUtf8.classText) (depth + 1))) text.bytes =
            .ok body ∧
          ∀ (info : Strict.MethodInfo) (method : Method),
            info.attributes.findSome? Strict.Attribute.body? = some body →
            info.resolve (pool.entries ModifiedUtf8.classText) = .ok (some method) →
              method.lines = lines := by
  refine ⟨sortLines tables.flatten, lineAt_sortLines_iff tables.flatten, fun result => ?_,
    fun depth others => ?_⟩
  · have contributed : text.attributes.1.mapM (·.lines (pool.entries Utf8.textLossy)) =
        .ok tables :=
      mapM_ok_of_forall₂ (listed.imp fun _ _ contributes => contributes.lines_eq)
    rw [text.readAll_bytes, CodeText.skim, contributed, ok_bind, Outcome.bind_eq_ok_iff]
    simp only [pure_eq_ok, Except.ok.injEq, eq_comm]
  · have accepted (row : AttributeText) (member : row ∈ text.attributes.1) :
        row.Accepted (pool.entries ModifiedUtf8.classText) (depth + 1) := by
      obtain ⟨entries, -, describes⟩ := exists_of_forall₂ listed member
      cases describes with
      | table rows named content => exact AttributeText.accepted_table named content depth
      | other other => exact others row member other
    exact ⟨_, (CodeText.yields_strict listed accepted).readAll_bytes,
      fun info method => lines_of_resolve⟩

/-- Two tables that are out of order and have one start twice, with another attribute between
them. -/
theorem lines_attributed_two_tables :
    let pool : PoolText :=
      ⟨[.utf8 (Utf8.bytes "LineNumberTable") (by decide),
        .utf8 (Utf8.bytes "Deprecated") (by decide)], by decide⟩
    let strict := pool.entries ModifiedUtf8.classText
    let first : Rows LineText := ⟨[⟨3, 5⟩, ⟨1, 4⟩], by decide⟩
    let second : Rows LineText := ⟨[⟨3, 6⟩], by decide⟩
    let text : CodeText := ⟨1, 0, [0, 0, 0, 177], by decide, ⟨[], by decide⟩,
      ⟨[⟨1, first.bytes LineText.bytes, by decide⟩, ⟨2, [], by decide⟩,
        ⟨1, second.bytes LineText.bytes, by decide⟩], by decide⟩⟩
    let instructions : List Instruction :=
      [⟨0, .other 0, false⟩, ⟨1, .other 0, false⟩, ⟨2, .other 0, false⟩, ⟨3, .other 177, false⟩]
    ∃ lines : List LineNumber,
      lineAt lines 0 = none ∧ lineAt lines 2 = some 4 ∧ lineAt lines 3 = some 6 ∧
      readAll (Skim.body (pool.entries Utf8.textLossy)) text.bytes = .ok (instructions, lines) ∧
      ∃ body, readAll (Strict.codeBody (Strict.attributeInfo strict 1)) text.bytes = .ok body ∧
        ∀ (info : Strict.MethodInfo) (method : Method),
          info.attributes.findSome? Strict.Attribute.body? = some body →
          info.resolve strict = .ok (some method) → method.lines = lines := by
  intro pool strict first second text instructions
  have decoded (symbols : Symbols) :
      Bytecode.decode symbols [] [0, 0, 0, 177] = .ok instructions := by
    have stops : Bytecode.steps symbols 4 [] = .ok [] := by rw [Bytecode.steps]
    exact Bytecode.decode_eq_ok_iff_mark.mpr ⟨_, Bytecode.steps_cons rfl (by decide) rfl rfl
      (Bytecode.steps_cons rfl (by decide) rfl rfl (Bytecode.steps_cons rfl (by decide) rfl rfl
        (Bytecode.steps_cons rfl (by decide) rfl rfl stops))), rfl⟩
  have table : pool.HoldsText 1 "LineNumberTable" := ⟨_, rfl⟩
  have mark : pool.HoldsText 2 "Deprecated" := ⟨_, rfl⟩
  have listed : List.Forall₂ (AttributeText.DescribesLines pool) text.attributes.1
      [[⟨3, 5⟩, ⟨1, 4⟩], [], [⟨3, 6⟩]] :=
    .cons (.table first table rfl) (.cons (.other ⟨_, mark, by decide⟩)
      (.cons (.table second table rfl) .nil))
  obtain ⟨lines, found, skimmed, strictly⟩ := lines_attributed listed
  refine ⟨lines, (found 0 none).mpr ?_, (found 2 (some 4)).mpr ?_, (found 3 (some 6)).mpr ?_,
    (skimmed _).mpr ⟨instructions, decoded _, rfl⟩, strictly 0 fun row member _ => ?_⟩
  · exact .unknown (by decide)
  · exact @LineOf.known _ _ [⟨3, 5⟩] [⟨3, 6⟩] ⟨1, 4⟩ rfl (by decide) (by decide) (by decide)
  · exact @LineOf.known _ _ [⟨3, 5⟩, ⟨1, 4⟩] [] ⟨3, 6⟩ rfl (by decide) (by decide) (by decide)
  · simp only [text, List.mem_cons, List.not_mem_nil, or_false] at member
    rcases member with rfl | rfl | rfl
    · exact AttributeText.accepted_table table rfl 0
    · exact AttributeText.accepted_of_content mark.entry?_strict (Yields.pure ()).andReturn
    · exact AttributeText.accepted_table table rfl 0

end GrantSurvey.ClassFile
