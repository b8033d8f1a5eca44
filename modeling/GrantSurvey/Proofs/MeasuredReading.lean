import GrantSurvey.Proofs.ClassWriting

/-!
# Class files with true lengths

The strict reading does not rely on the declared lengths of attributes, while skimming steps over
attributes by nothing else. Here the strict reading also measures: it insists, at every depth, that
the content of an attribute takes up just the declared number of bytes. What it accepts then is the
writing of a class, of which it keeps what skimming makes of that writing.
-/

namespace GrantSurvey.ClassFile.Strict

open BigEndian Reader

def exactly {α : Type} (length : Nat) (reader : Reader α) : Reader α := fun cursor =>
  match reader cursor with
  | .ok value after =>
      if length ≤ cursor.rest.length ∧ after.rest = cursor.rest.drop length then .ok value after
      else .error (.outOfBounds after.position) after
  | .error cause after => .error cause after

/-- An attribute whose declared length is true, and those of the attributes nested in it. -/
def measured (pool : ConstantPool) : Nat → Reader Attribute
  | 0 => throw .nestedTooDeep
  | depth + 1 => named pool fun name length =>
      exactly length (content (measured pool depth) name length)

theorem exactly_eq_ok_iff {α : Type} {length : Nat} {reader : Reader α} {cursor after : Cursor}
    {value : α} :
    exactly length reader cursor = .ok value after ↔
      reader cursor = .ok value after ∧ length ≤ cursor.rest.length ∧
        after.rest = cursor.rest.drop length := by
  unfold exactly
  cases reader cursor with
  | ok found between =>
      simp only
      split
      · rename_i fits
        simp only [EStateM.Result.ok.injEq, iff_self_and]
        rintro ⟨rfl, rfl⟩
        exact fits
      · rename_i misfit
        constructor
        · nofun
        · rintro ⟨same, fits⟩
          cases same
          exact absurd fits misfit
  | error cause between => simp

/-! ## Measuring only refuses more -/

theorem refines_exactly {α : Type} (length : Nat) (reader : Reader α) :
    Refines (exactly length reader) reader :=
  fun _ _ _ read => (exactly_eq_ok_iff.mp read).1

/-- Only code and records hold attributes. -/
theorem content_eq {name : String} (notCode : name ≠ "Code") (notRecord : name ≠ "Record")
    (nested other : Reader Attribute) (length : Nat) :
    content nested name length = content other name length := by
  unfold content
  split
  · exact absurd rfl notCode
  all_goals first | rfl | exact absurd rfl notRecord

theorem refines_codeBody {nested other : Reader Attribute} (inner : Refines nested other) :
    Refines (codeBody nested) (codeBody other) :=
  (Refines.refl _).bind fun _ => (Refines.refl _).bind fun _ => (Refines.refl _).bind fun _ =>
    (Refines.refl _).bind fun _ => inner.counted.bind fun _ => Refines.refl _

theorem refines_content {nested other : Reader Attribute} (inner : Refines nested other)
    (name : String) (length : Nat) :
    Refines (content nested name length) (content other name length) := by
  by_cases code : name = "Code"
  · subst code
    intro cursor kept after read
    obtain ⟨body, read, kept⟩ := map_eq_ok_iff.mp read
    exact map_eq_ok_iff.mpr ⟨body, refines_codeBody inner _ _ _ read, kept⟩
  by_cases record : name = "Record"
  · subst record
    have component : Refines (do skip 4; passed (counted nested))
        (do skip 4; passed (counted other)) :=
      (Refines.refl _).bind fun _ => inner.counted.bind fun _ => Refines.refl _
    exact component.counted.bind fun _ => Refines.refl _
  · rw [content_eq code record nested other length]
    exact Refines.refl _

theorem refines_named {pool : ConstantPool} {content other : String → Nat → Reader Attribute}
    (inner : ∀ name length, Refines (content name length) (other name length)) :
    Refines (named pool content) (named pool other) := by
  refine (Refines.refl _).bind fun index => (Refines.refl _).bind fun length => ?_
  split
  · exact inner _ _
  · exact Refines.refl _

theorem refines_measured (pool : ConstantPool) (depth : Nat) :
    Refines (measured pool depth) (attributeInfo pool depth) := by
  induction depth with
  | zero => exact Refines.refl _
  | succ depth ih =>
      refine refines_named fun name length cursor kept after read => ?_
      exact refines_content ih name length _ _ _ (refines_exactly length _ _ _ _ read)

theorem refines_attributes {each other : Nat → Reader Attribute}
    (inner : ∀ depth, Refines (each depth) (other depth)) :
    Refines (attributes each) (attributes other) :=
  (Refines.refl _).bind fun depth => (inner (depth + 1)).counted

/-- A measured class file is accepted without measuring, too. -/
theorem refines_layout : Refines (layoutBy measured) layout := by
  refine (Refines.refl _).bind fun _ => (Refines.refl _).bind fun pool => ?_
  have inner := refines_attributes (refines_measured pool)
  refine (Refines.refl _).bind fun _ => (Refines.refl _).bind fun this => ?_
  refine (Refines.refl _).bind fun _ => (Refines.refl _).bind fun _ => ?_
  have field : Refines (field (measured pool)) (field (attributeInfo pool)) :=
    (Refines.refl _).bind fun _ => inner.bind fun _ => Refines.refl _
  refine (field.counted.bind fun _ => Refines.refl _).bind fun _ => ?_
  have method : Refines (methodInfo (measured pool)) (methodInfo (attributeInfo pool)) :=
    (Refines.refl _).bind fun _ => (Refines.refl _).bind fun _ => (Refines.refl _).bind fun _ =>
      inner.bind fun _ => Refines.refl _
  exact method.counted.bind fun _ => (inner.bind fun _ => Refines.refl _).bind fun _ =>
    Refines.refl _

/-! ## The rows of a body -/

theorem parses_short : Parses (skip 2) bytes2 fun _ _ => True := by
  intro cursor value after read
  obtain ⟨bytes, two, written⟩ := rest_of_skip read
  obtain ⟨number, rfl⟩ := exists_of_length_two two
  exact ⟨number, trivial, written⟩

theorem parses_handler : Parses handler HandlerText.bytes fun row entry =>
    row.entry.toNat = entry := by
  intro cursor entry after read
  simp only [handler, bind_eq_ok_iff, pure_eq_ok_iff] at read
  obtain ⟨_, _, range, number, _, found, _, _, passed, rfl, rfl⟩ := read
  obtain ⟨bytes, four, ranged⟩ := rest_of_skip range
  obtain ⟨start, stop, rfl⟩ := exists_of_length_four four
  obtain ⟨caught, -, closed⟩ := parses_short _ _ _ passed
  refine ⟨⟨start, stop, number, caught⟩, rfl, ?_⟩
  rw [ranged, rest_of_u2 found, closed, HandlerText.bytes]
  simp only [List.append_assoc]

theorem parses_lineNumber : Parses lineNumber LineText.bytes fun row number =>
    row.number = number := by
  intro cursor number after read
  simp only [lineNumber, bind_eq_ok_iff, pure_eq_ok_iff] at read
  obtain ⟨start, _, first, line, _, second, rfl, rfl⟩ := read
  refine ⟨⟨start, line⟩, rfl, ?_⟩
  rw [rest_of_u2 first, rest_of_u2 second, LineText.bytes, List.append_assoc]

/-- The content of a code attribute, given what its own attributes mean. -/
theorem parses_codeBody {nested : Reader Attribute} {Means : AttributeText → Attribute → Prop}
    (inner : Parses nested AttributeText.bytes Means) :
    Parses (codeBody nested) CodeText.bytes fun text body =>
      body.code = text.code ∧ body.handlers = text.handlers.1.map (·.entry.toNat) ∧
        ∃ kept, List.Forall₂ Means text.attributes.1 kept ∧
          body.lines = kept.flatMap (·.lineEntries) := by
  intro cursor body after read
  simp only [codeBody, bind_eq_ok_iff, pure_eq_ok_iff] at read
  obtain ⟨_, _, limits, length, _, measured, code, _, taken, handlers, _, caught, kept, _, nests,
    rfl, rfl⟩ := read
  obtain ⟨bytes, four, limited⟩ := rest_of_skip limits
  obtain ⟨stack, locals, rfl⟩ := exists_of_length_four four
  obtain ⟨counted, coded⟩ := rest_of_take taken
  obtain ⟨rows, entries, handled⟩ := parses_handler.counted _ _ _ caught
  obtain ⟨texts, means, nested⟩ := inner.counted _ _ _ nests
  rw [← List.forall₂_map_left_iff, List.forall₂_eq_eq_eq] at entries
  have short : code.length < 4294967296 := by
    rw [counted]
    exact length.toNat_lt
  refine ⟨⟨stack, locals, code, short, rows, texts⟩, ⟨rfl, entries.symm, kept, means, rfl⟩, ?_⟩
  rw [limited, rest_of_u4 measured, coded, handled, nested]
  simp only [CodeText.bytes, counted, UInt32.ofNat_toNat, List.append_assoc]

/-! ## Attributes -/

def CodeBody.skim (pool : ConstantPool) (name descriptor : String) (body : CodeBody) :
    Except Fault (List Instruction × List LineNumber) :=
  ClassFile.inPlace (.codeOf name descriptor) (do
    let instructions ← Bytecode.decode pool.skimSymbols body.handlers body.code
    return (instructions, sortLines body.lines))

def Attribute.skim (pool : ConstantPool) (name descriptor : String) (kept : Attribute) :
    Except Fault (Option (List Instruction × List LineNumber)) :=
  match kept.body? with
  | none => .ok none
  | some body => some <$> body.skim pool name descriptor

/-- Skimming makes of the written attribute what it would make of what is kept. -/
structure Agrees (pool : ConstantPool) (text : AttributeText) (kept : Attribute) : Prop where
  lines : text.lines pool = .ok kept.lineEntries
  body : ∀ name descriptor, text.body pool name descriptor = kept.skim pool name descriptor

section

variable {pool : ConstantPool} {text : AttributeText} {name : String}
  (known : pool.entry? text.name = some (.utf8 name))

include known

theorem lines_eq : text.lines pool =
    if name == "LineNumberTable" then readAll (counted lineNumber) text.content else .ok [] := by
  simp only [AttributeText.lines, ConstantPool.Skim.utf8, known, Outcome.ok_bind]
  rfl

theorem body_eq (method descriptor : String) : text.body pool method descriptor =
    if name == "Code" then
      some <$> ClassFile.inPlace (.codeOf method descriptor)
        (readAll (Skim.body pool) text.content)
    else .ok none := by
  simp only [AttributeText.body, ConstantPool.Skim.utf8, known, Outcome.ok_bind]
  rfl

end

theorem agrees_code {pool : ConstantPool} {text : AttributeText} {code : CodeText}
    {body : CodeBody} {kept : List Attribute}
    (known : pool.entry? text.name = some (.utf8 "Code")) (written : text.content = code.bytes)
    (sameCode : body.code = code.code)
    (sameHandlers : body.handlers = code.handlers.1.map (·.entry.toNat))
    (agree : List.Forall₂ (Agrees pool) code.attributes.1 kept)
    (sameLines : body.lines = kept.flatMap (·.lineEntries)) : Agrees pool text (.code body) := by
  have tables : code.attributes.1.mapM (·.lines pool) = .ok (kept.map (·.lineEntries)) :=
    Outcome.mapM_of_forall₂ (agree.imp fun _ _ agrees => agrees.lines)
  have whole := (code.yields pool).readAll_eq []
  rw [List.append_nil] at whole
  refine ⟨lines_eq known, fun method descriptor => ?_⟩
  rw [body_eq known, written, whole, CodeText.skim, tables, ← sameCode, ← sameHandlers]
  simp only [Outcome.ok_bind, ← List.flatMap_def, ← sameLines]
  rfl

theorem agrees_lineNumbers {pool : ConstantPool} {text : AttributeText} {rows : Rows LineText}
    (known : pool.entry? text.name = some (.utf8 "LineNumberTable"))
    (written : text.content = rows.bytes LineText.bytes) :
    Agrees pool text (.lineNumbers (rows.1.map LineText.number)) := by
  have table := (Yields.counted rows fun row _ => row.yields).readAll_eq []
  rw [List.append_nil, Outcome.mapM_ok] at table
  refine ⟨?_, fun _ _ => body_eq known _ _⟩
  rw [lines_eq known, written]
  exact table

theorem agrees_plain {pool : ConstantPool} {text : AttributeText} {name : String}
    (known : pool.entry? text.name = some (.utf8 name)) (notCode : name ≠ "Code")
    (notLines : name ≠ "LineNumberTable") : Agrees pool text .plain := by
  refine ⟨?_, fun _ _ => ?_⟩
  · rw [lines_eq known, if_neg (by simpa using notLines)]
    rfl
  · rw [body_eq known, if_neg (by simpa using notCode)]
    rfl

theorem plain_eq {α : Type} {reader : Reader α} {cursor after : Cursor} {kept : Attribute}
    (read : plain reader cursor = .ok kept after) : kept = .plain := by
  obtain ⟨value, between, -, ended⟩ := bind_eq_ok_iff.mp read
  exact (pure_eq_ok_iff.mp ended).1.symm

/-- Of an attribute that is neither code nor a line table nothing is kept. -/
theorem content_plain {nested : Reader Attribute} {name : String} {length : Nat}
    {cursor after : Cursor} {kept : Attribute} (notCode : name ≠ "Code")
    (notLines : name ≠ "LineNumberTable")
    (read : content nested name length cursor = .ok kept after) : kept = .plain := by
  unfold content at read
  split at read
  · exact absurd rfl notCode
  · exact absurd rfl notLines
  -- Any other known name is passed over, and an unknown one is refused.
  all_goals first | exact plain_eq read | cases read

/-- A content that takes up the whole attribute agrees with what is kept of it. -/
theorem agrees_content {pool : ConstantPool} {nested : Reader Attribute}
    (inner : Parses nested AttributeText.bytes (Agrees pool)) {text : AttributeText}
    {name : String} (known : pool.entry? text.name = some (.utf8 name)) {length : Nat}
    {cursor after : Cursor} {kept : Attribute} (whole : cursor.rest = text.content ++ after.rest)
    (read : content nested name length cursor = .ok kept after) : Agrees pool text kept := by
  by_cases code : name = "Code"
  · subst code
    obtain ⟨body, inside, rfl⟩ := map_eq_ok_iff.mp read
    obtain ⟨code, ⟨sameCode, sameHandlers, attributes, agree, sameLines⟩, written⟩ :=
      parses_codeBody inner _ _ _ inside
    rw [whole] at written
    exact agrees_code known (List.append_cancel_right written) sameCode sameHandlers agree sameLines
  by_cases table : name = "LineNumberTable"
  · subst table
    obtain ⟨numbers, inside, rfl⟩ := map_eq_ok_iff.mp read
    obtain ⟨rows, same, written⟩ := parses_lineNumber.counted _ _ _ inside
    rw [← List.forall₂_map_left_iff, List.forall₂_eq_eq_eq] at same
    rw [whole] at written
    rw [← same]
    exact agrees_lineNumbers known (List.append_cancel_right written)
  · rw [content_plain code table read]
    exact agrees_plain known code table

theorem named_eq_ok {pool : ConstantPool} {content : String → Nat → Reader Attribute}
    {cursor after : Cursor} {kept : Attribute}
    (read : named pool content cursor = .ok kept after) :
    ∃ index length name start, pool.entry? index = some (.utf8 name) ∧
      cursor.rest = bytes2 index ++ (bytes4 length ++ start.rest) ∧
      content name length.toNat start = .ok kept after := by
  simp only [named, bind_eq_ok_iff] at read
  obtain ⟨index, _, first, length, start, second, read⟩ := read
  have written : cursor.rest = bytes2 index ++ (bytes4 length ++ start.rest) := by
    rw [rest_of_u2 first, rest_of_u4 second]
  cases known : pool.entry? index with
  | none =>
      rw [known] at read
      cases read
  | some entry =>
      rw [known] at read
      cases entry with
      | utf8 name => exact ⟨index, length, name, start, known, written, read⟩
      | _ => cases read

/-- A measured attribute is one that skimming steps over. -/
theorem parses_measured (pool : ConstantPool) (depth : Nat) :
    Parses (measured pool depth) AttributeText.bytes (Agrees pool) := by
  induction depth with
  | zero => nofun
  | succ depth ih =>
      intro cursor kept after read
      obtain ⟨index, length, name, start, known, written, inside⟩ := named_eq_ok read
      obtain ⟨inside, fits, ended⟩ := exactly_eq_ok_iff.mp inside
      -- The declared length is true, so the content is what skimming takes for it.
      have size : (start.rest.take length.toNat).length = length.toNat :=
        List.length_take_of_le fits
      have whole : start.rest = start.rest.take length.toNat ++ after.rest := by
        rw [ended, List.take_append_drop]
      have short : (start.rest.take length.toNat).length < 4294967296 := by
        rw [size]
        exact length.toNat_lt
      refine ⟨⟨index, start.rest.take length.toNat, short⟩,
        agrees_content ih known whole inside, ?_⟩
      simp only [AttributeText.bytes, size, UInt32.ofNat_toNat, List.append_assoc]
      rw [← whole, written]

/-! ## The class -/

theorem parses_attributes (pool : ConstantPool) :
    Parses (attributes (measured pool)) (Rows.bytes AttributeText.bytes) fun rows kept =>
      List.Forall₂ (Agrees pool) rows.1 kept :=
  fun cursor kept after read =>
    (parses_measured pool (cursor.rest.length + 1)).counted cursor kept after read

/-- Skimming makes of the written method what it would make of what is kept. -/
structure MethodAgrees (pool : ConstantPool) (text : MemberText) (info : MethodInfo) : Prop where
  name : text.name = info.name
  descriptor : text.descriptor = info.descriptor
  attributes : List.Forall₂ (Agrees pool) text.attributes.1 info.attributes

theorem parses_methodInfo (pool : ConstantPool) :
    Parses (methodInfo (measured pool)) MemberText.bytes (MethodAgrees pool) := by
  intro cursor info after read
  simp only [methodInfo, bind_eq_ok_iff, pure_eq_ok_iff] at read
  obtain ⟨_, _, first, name, _, second, descriptor, _, third, kept, _, fourth, rfl, rfl⟩ := read
  obtain ⟨access, -, started⟩ := parses_short _ _ _ first
  obtain ⟨rows, agree, ended⟩ := parses_attributes pool _ _ _ fourth
  refine ⟨⟨access, name, descriptor, rows⟩, ⟨rfl, rfl, agree⟩, ?_⟩
  rw [started, rest_of_u2 second, rest_of_u2 third, ended]
  simp only [MemberText.bytes, List.append_assoc]

theorem exists_of_length_six {bytes : List UInt8} (six : bytes.length = 6) :
    ∃ first second third, bytes = bytes2 first ++ (bytes2 second ++ bytes2 third) := by
  match bytes, six with
  | [a, b, c, d, e, f], _ =>
      refine ⟨u2 a b, u2 c d, u2 e f, ?_⟩
      rw [bytes2_u2, bytes2_u2, bytes2_u2]
      rfl

theorem parses_field (pool : ConstantPool) :
    Parses (field (measured pool)) MemberText.bytes fun _ _ => True := by
  intro cursor value after read
  simp only [field, passed, bind_eq_ok_iff, pure_eq_ok_iff] at read
  obtain ⟨_, _, first, kept, _, second, -, rfl⟩ := read
  obtain ⟨bytes, six, started⟩ := rest_of_skip first
  obtain ⟨access, name, descriptor, rfl⟩ := exists_of_length_six six
  obtain ⟨rows, -, ended⟩ := parses_attributes pool _ _ _ second
  refine ⟨⟨access, name, descriptor, rows⟩, trivial, ?_⟩
  rw [started, ended]
  simp only [MemberText.bytes, List.append_assoc]

/-- A measured class file is the writing of a class whose methods are those that are kept. -/
theorem exists_classText {data lead tail : List UInt8} {pool : PoolText} {layout : Layout}
    (eight : lead.length = 8) (written : data = lead ++ (pool.bytes ++ tail))
    (read : readAll (layoutBy measured) data = .ok layout) :
    ∃ text : ClassText, data = text.bytes ∧ text.pool = pool ∧ text.this = layout.this ∧
      layout.pool = pool.entries ModifiedUtf8.classText ∧
      List.Forall₂ (MethodAgrees layout.pool) text.methods.1 layout.methods := by
  obtain ⟨last, read⟩ := readAll_eq_ok_iff.mp read
  simp only [layoutBy, passed, bind_eq_ok_iff, pure_eq_ok_iff] at read
  obtain ⟨_, _, leads, found, _, pools, _, _, accesses, this, _, names, _, _, parents, _, _,
    ⟨_, _, implements, -, rfl⟩, _, _, ⟨_, _, holds, -, rfl⟩, methods, cursor, does, _, _, -,
    _, _, -, rfl, -⟩ := read
  -- The lead has eight bytes, so the pool that is read is the one that is written.
  obtain ⟨bytes, counted, started⟩ := rest_of_skip leads
  have same := List.append_inj (written.symm.trans started) (eight.trans counted.symm)
  obtain ⟨rfl, ended⟩ := pool.yields_strict.eq_of_ok same.2.symm pools
  obtain ⟨access, -, next₁⟩ := parses_short _ _ _ accesses
  obtain ⟨parent, -, next₂⟩ := parses_short _ _ _ parents
  obtain ⟨interfaces, -, next₃⟩ := parses_short.counted _ _ _ implements
  obtain ⟨fields, -, next₄⟩ := (parses_field _).counted _ _ _ holds
  obtain ⟨texts, agree, next₅⟩ := (parses_methodInfo _).counted _ _ _ does
  refine ⟨⟨lead, eight, pool, access, this, parent, interfaces, fields, texts, cursor.rest⟩,
    ?_, rfl, rfl, rfl, agree⟩
  rw [written, ← ended, next₁, rest_of_u2 names, next₂, next₃, next₄, next₅]
  simp only [ClassText.bytes, ClassText.body, List.append_assoc]

end GrantSurvey.ClassFile.Strict
