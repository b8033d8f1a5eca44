import GrantSurvey.Permission
import GrantSurvey.Proofs.Ascending
import GrantSurvey.Text.Split

/-!
# The lines of a policy block

A block is written line by line, one statement to a line. Escaping leaves line feeds as they are, so
a statement stays on its line exactly as long as neither its target nor its actions hold one.
-/

namespace GrantSurvey

/-! ## Splitting lines -/

namespace Text

/-- No part holds the divider. -/
theorem not_mem_of_mem_split {divider : Char} {text part : List Char}
    (member : part ∈ split divider text) : divider ∉ part := by
  induction text generalizing part with
  | nil =>
      rw [List.mem_singleton.mp member]
      exact List.not_mem_nil
  | cons char rest ih =>
      rw [split] at member
      split at member
      · rcases List.mem_cons.mp member with rfl | member
        · exact List.not_mem_nil
        · exact ih member
      · rename_i other
        have different : divider ≠ char := by
          intro same
          exact other (by rw [same]; exact beq_self_eq_true _)
        split at member
        · rw [List.mem_singleton.mp member]
          exact List.not_mem_cons_of_ne_of_not_mem different List.not_mem_nil
        · rename_i first parts whole
          rcases List.mem_cons.mp member with rfl | member
          · exact List.not_mem_cons_of_ne_of_not_mem different (ih (whole ▸ List.mem_cons_self))
          · exact ih (whole ▸ List.mem_cons_of_mem first member)

theorem split_of_not_mem {divider : Char} {text : List Char} (clean : divider ∉ text) :
    split divider text = [text] := by
  induction text with
  | nil => rfl
  | cons char rest ih =>
      obtain ⟨different, clean⟩ := List.ne_and_not_mem_of_not_mem_cons clean
      have other : ¬ (char == divider) = true := fun same => different (eq_of_beq same).symm
      rw [split, if_neg other, ih clean]

theorem split_ne_nil (divider : Char) (text : List Char) : split divider text ≠ [] := by
  cases text with
  | nil => simp [split]
  | cons char rest =>
      rw [split]
      split
      · simp
      · split <;> simp

/-- A divider divides, whatever stands before it. -/
theorem split_append_divider (divider : Char) (front rest : List Char) :
    split divider (front ++ divider :: rest) = split divider front ++ split divider rest := by
  induction front with
  | nil => simp [split]
  | cons char front ih =>
      rw [List.cons_append, split, split, ih]
      split
      · rfl
      · cases parts : split divider front with
        | nil => exact (split_ne_nil divider front parts).elim
        | cons part parts => rfl

/-- What stands before a divider is the first part, if it holds none itself. -/
theorem split_append_cons {divider : Char} {front : List Char} (clean : divider ∉ front)
    (rest : List Char) :
    split divider (front ++ divider :: rest) = front :: split divider rest := by
  rw [split_append_divider, split_of_not_mem clean, List.singleton_append]

def unlines (lines : List (List Char)) : List Char :=
  lines.flatMap (· ++ ['\n'])

/-- Lines are read back as they were written if and only if none holds a line feed. -/
theorem split_unlines_iff (lines : List (List Char)) :
    split '\n' (unlines lines) = lines ++ [[]] ↔ ∀ line ∈ lines, '\n' ∉ line := by
  constructor
  · intro same line member
    exact not_mem_of_mem_split (same ▸ List.mem_append_left _ member)
  · intro clean
    induction lines with
    | nil => rfl
    | cons line lines ih =>
        obtain ⟨first, others⟩ := List.forall_mem_cons.mp clean
        rw [unlines, List.flatMap_cons, List.append_assoc, List.singleton_append,
          split_append_cons first, ← unlines, ih others, List.cons_append]

end Text

/-! ## Statements -/

namespace Permission

/-- Escaping adds backslashes and nothing else. -/
theorem mem_escape {char : Char} (plain : char ≠ '\\') (text : String) :
    char ∈ (escape text).toList ↔ char ∈ text.toList := by
  rw [escape, String.toList_ofList, List.mem_flatMap]
  constructor
  · rintro ⟨written, member, holds⟩
    split at holds
    · rcases List.mem_cons.mp holds with same | holds
      · exact absurd same plain
      · rwa [List.mem_singleton.mp holds]
    · rwa [List.mem_singleton.mp holds]
  · intro member
    refine ⟨char, member, ?_⟩
    split <;> simp

/-- The line feeds of a statement are those of its parts. -/
theorem newline_mem_grant (permission : Permission) :
    '\n' ∈ permission.grant.toList ↔
      '\n' ∈ permission.kind.toList ∨ '\n' ∈ permission.target.toList ∨
        '\n' ∈ permission.actions.toList := by
  have plain : '\n' ≠ '\\' := by decide
  have target := mem_escape plain permission.target
  have actions := mem_escape plain permission.actions
  unfold grant
  split
  · rename_i none
    rw [String.isEmpty_iff] at none
    simp [target, none]
  · simp [target, actions]

end Permission

/-! ## Blocks -/

namespace PolicySet

def headline (codebase : Option String) : String :=
  match codebase with
  | some name =>
      if name.isEmpty then "grant \x7b" else "grant codebase \"file:/" ++ name ++ "\" \x7b"
  | none => "grant \x7b"

/-- The lines of a block: the headline, the statements behind a tab, and the end. -/
def lines (policy : PolicySet) (codebase : Option String) : List String :=
  headline codebase :: policy.statements.map ("\t" ++ ·) ++ ["\x7d;"]

theorem toList_heading (codebase : Option String) :
    (heading codebase).toList = (headline codebase).toList ++ ['\n'] := by
  cases codebase with
  | none => rfl
  | some name =>
      unfold heading headline
      simp only
      split
      · rfl
      · simp [ToString.toString]

theorem toList_block (policy : PolicySet) (codebase : Option String) :
    (policy.block codebase).toList = Text.unlines ((policy.lines codebase).map String.toList) := by
  simp [block, lines, Text.unlines, toList_heading, String.toList_join, List.flatMap_map]

theorem newline_not_mem_headline {codebase : Option String}
    (clean : ∀ name ∈ codebase, '\n' ∉ name.toList) : '\n' ∉ (headline codebase).toList := by
  cases codebase with
  | none => decide
  | some name =>
      unfold headline
      simp only
      split
      · decide
      · simp [clean name rfl]

/-- A block is read line by line if and only if no statement holds a line feed. -/
theorem split_block_iff (policy : PolicySet) {codebase : Option String}
    (clean : ∀ name ∈ codebase, '\n' ∉ name.toList) :
    Text.split '\n' (policy.block codebase).toList =
        (policy.lines codebase).map String.toList ++ [[]] ↔
      ∀ statement ∈ policy.statements, '\n' ∉ statement.toList := by
  have tab (statement : String) : '\n' ∉ ("\t" ++ statement).toList ↔ '\n' ∉ statement.toList := by
    simp
  have ending : '\n' ∉ ("\x7d;" : String).toList := by decide
  rw [toList_block, Text.split_unlines_iff, lines, List.forall_mem_map, List.forall_mem_append,
    List.forall_mem_cons, List.forall_mem_map]
  simp only [newline_not_mem_headline clean, tab, List.forall_mem_singleton, ending,
    not_false_eq_true, true_and, and_true]

def granting (permissions : List Permission) : PolicySet :=
  ofList (permissions.map Permission.grant)

theorem mem_granting {permissions : List Permission} {statement : String} :
    statement ∈ (granting permissions).statements ↔
      ∃ permission ∈ permissions, permission.grant = statement :=
  Ordered.mem_ofList.trans List.mem_map

/-- The block of some permissions, whose kinds hold no line feed, has one line for each distinct
statement, in strictly ascending order, between its headline and its end, if and only if no target
and no actions hold a line feed. -/
theorem split_block_granting_iff (permissions : List Permission) (codebase : Option String)
    (kinds : ∀ permission ∈ permissions, '\n' ∉ permission.kind.toList)
    (base : ∀ name ∈ codebase, '\n' ∉ name.toList) :
    (granting permissions).statements.Pairwise (· < ·) ∧
    (∀ statement, statement ∈ (granting permissions).statements ↔
      ∃ permission ∈ permissions, permission.grant = statement) ∧
    (Text.split '\n' ((granting permissions).block codebase).toList =
        (headline codebase :: (granting permissions).statements.map ("\t" ++ ·) ++ ["\x7d;"]).map
          String.toList ++ [[]] ↔
      ∀ permission ∈ permissions,
        '\n' ∉ permission.target.toList ∧ '\n' ∉ permission.actions.toList) := by
  refine ⟨(Ordered.ascending_ofList _).pairwise_lt, fun statement => mem_granting, ?_⟩
  rw [← lines, split_block_iff _ base]
  constructor
  · intro clean permission member
    have grant := clean permission.grant (mem_granting.mpr ⟨permission, member, rfl⟩)
    rw [permission.newline_mem_grant, not_or, not_or] at grant
    exact grant.2
  · intro clean statement member
    obtain ⟨permission, listed, rfl⟩ := mem_granting.mp member
    rw [permission.newline_mem_grant, not_or, not_or]
    exact ⟨kinds permission listed, clean permission listed⟩

/-- Quotes and backslashes do no harm: two permissions, one of them twice, make two lines. -/
theorem split_block_granting_quoted :
    let read : Permission := ⟨"java.io.FilePermission", "C:\\a \"b\"", "read"⟩
    let exit : Permission := ⟨"java.lang.RuntimePermission", "exitVM.0", ""⟩
    Text.split '\n' ((granting [exit, read, exit]).block (some "app.jar")).toList =
      (headline (some "app.jar") :: (granting [exit, read, exit]).statements.map ("\t" ++ ·) ++
        ["\x7d;"]).map String.toList ++ [[]] := by
  intro read exit
  have kinds : ∀ permission ∈ [exit, read, exit], '\n' ∉ permission.kind.toList := by decide
  have clean : ∀ permission ∈ [exit, read, exit],
      '\n' ∉ permission.target.toList ∧ '\n' ∉ permission.actions.toList := by
    decide
  obtain ⟨-, -, exact⟩ := split_block_granting_iff [exit, read, exit] (some "app.jar") kinds
    (by decide)
  exact exact.mpr clean

/-- A target with line feeds does not stay on its line. Read line by line, this one closes the block
and opens another one, which grants everything. -/
theorem split_block_injected :
    let permission : Permission := ⟨"java.io.FilePermission",
      "/tmp/x\n\x7d;\ngrant \x7b\n\tpermission java.security.AllPermission;\n//", "read"⟩
    (∀ char ∈ permission.kind.toList, char ≠ '\n' ∧ char ≠ '\r' ∧ char ≠ '"') ∧
    Text.split '\n' ((granting [permission]).block none).toList ≠
      (headline none :: (granting [permission]).statements.map ("\t" ++ ·) ++ ["\x7d;"]).map
        String.toList ++ [[]] := by
  intro permission
  refine ⟨by simp [permission], ?_⟩
  rw [← lines, Ne, split_block_iff _ (by decide)]
  intro clean
  exact clean permission.grant (mem_granting.mpr ⟨permission, List.mem_singleton_self _, rfl⟩)
    (permission.newline_mem_grant.mpr (Or.inr (Or.inl (by decide))))

end PolicySet

end GrantSurvey
