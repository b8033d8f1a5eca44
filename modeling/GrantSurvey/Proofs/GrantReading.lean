import GrantSurvey.Proofs.PolicyUnion
import GrantSurvey.Proofs.TextParts
import Mathlib.Data.Finset.Card

/-!
# Reading grant statements

A statement tells its permission. The kind is what stands before the first quote, the target is the
text that this quote opens, and the actions are the text in the next quotes, if there is one. The
reader accepts exactly the statements of permissions whose kind holds no quote, so two of these
share a statement only if they are equal, and a policy has as many statements as there are
permissions to grant.
-/

namespace GrantSurvey

namespace Permission

/-! ## Quoted texts -/

def escapedChar (char : Char) : List Char :=
  if char == '"' || char == '\\' then ['\\', char] else [char]

theorem toList_escape (text : String) :
    (escape text).toList = text.toList.flatMap escapedChar :=
  String.toList_ofList

/-- Reads a text whose opening quote has been read: the text up to the first quote that is not
escaped, and what follows this quote. -/
def quoted? : List Char → Option (List Char × List Char)
  | [] => none
  | '"' :: rest => some ([], rest)
  | '\\' :: '"' :: rest => (quoted? rest).map (Prod.map ('"' :: ·) id)
  | '\\' :: '\\' :: rest => (quoted? rest).map (Prod.map ('\\' :: ·) id)
  | '\\' :: _ => none
  | char :: rest => (quoted? rest).map (Prod.map (char :: ·) id)

/-- A written character is read back. -/
theorem quoted?_escapedChar (char : Char) (rest : List Char) :
    quoted? (escapedChar char ++ rest) = (quoted? rest).map (Prod.map (char :: ·) id) := by
  by_cases quote : char = '"'
  · subst quote
    rfl
  by_cases backslash : char = '\\'
  · subst backslash
    rfl
  simp [escapedChar, quoted?, quote, backslash]

theorem quoted?_escaped (text rest : List Char) :
    quoted? (text.flatMap escapedChar ++ '"' :: rest) = some (text, rest) := by
  induction text with
  | nil => rfl
  | cons char text ih =>
      rw [List.flatMap_cons, List.append_assoc, quoted?_escapedChar, ih]
      rfl

/-- A text is read exactly where it is written. -/
theorem quoted?_eq_some_iff {written text rest : List Char} :
    quoted? written = some (text, rest) ↔ written = text.flatMap escapedChar ++ '"' :: rest := by
  constructor
  · intro reads
    -- One character has been read, and the others are written as they have to be.
    have step {char : Char} {after text : List Char}
        (others : ∀ {text}, quoted? after = some (text, rest) →
          after = text.flatMap escapedChar ++ '"' :: rest)
        (reads : (quoted? after).map (Prod.map (char :: ·) id) = some (text, rest)) :
        escapedChar char ++ after = text.flatMap escapedChar ++ '"' :: rest := by
      obtain ⟨⟨tail, behind⟩, found, same⟩ := Option.map_eq_some_iff.mp reads
      cases same
      rw [List.flatMap_cons, List.append_assoc, ← others found]
    fun_induction quoted? written generalizing text with
    | case1 => cases reads
    | case2 =>
        cases reads
        rfl
    | case3 after ih => exact step ih reads
    | case4 after ih => exact step ih reads
    | case5 => cases reads
    | case6 char after quote _ _ backslash ih =>
        have plain : escapedChar char = [char] := by
          simp [escapedChar, show char ≠ '"' from quote, show char ≠ '\\' from backslash]
        rw [← step ih reads, plain]
        rfl
  · rintro rfl
    exact quoted?_escaped text rest

/-! ## The parts of a statement -/

/-- Reads a kind: what stands before the first quote and the blank in front of it. Gives also what
follows the quote. -/
def kind? (written : List Char) : Option (List Char × List Char) :=
  let front := written.takeWhile (· != '"')
  if front.getLast? = some ' ' ∧ front.length < written.length then
    some (front.dropLast, written.drop (front.length + 1))
  else none

theorem kind?_eq_some_iff {written kind rest : List Char} :
    kind? written = some (kind, rest) ↔ '"' ∉ kind ∧ written = kind ++ ' ' :: '"' :: rest := by
  constructor
  · intro reads
    simp only [kind?] at reads
    split at reads
    · rename_i found
      cases reads
      obtain ⟨clean, whole⟩ := Text.cut_iff.mp ⟨rfl, found.2, rfl⟩
      have front := List.dropLast_append_getLast? _ found.1
      constructor
      · exact fun member => clean (List.mem_of_mem_dropLast member)
      · rw [List.append_cons, front]
        exact whole
    · cases reads
  · rintro ⟨clean, rfl⟩
    have blank : '"' ∉ kind ++ [' '] := by simpa using clean
    have parts : kind ++ ' ' :: '"' :: rest = (kind ++ [' ']) ++ '"' :: rest := List.append_cons ..
    obtain ⟨taken, shorter, dropped⟩ := Text.cut_iff.mpr ⟨blank, parts⟩
    simp only [kind?, taken, dropped, shorter, List.getLast?_concat, List.dropLast_concat, and_self,
      if_true]

def ending (actions : List Char) : List Char :=
  if actions.isEmpty then [';']
  else ',' :: ' ' :: '"' :: (actions.flatMap escapedChar ++ '"' :: [';'])

/-- Reads the actions behind the target. Actions that are left out are empty, and empty actions are
left out. -/
def actions? : List Char → Option (List Char)
  | [';'] => some []
  | ',' :: ' ' :: '"' :: rest =>
      match quoted? rest with
      | some (char :: text, [';']) => some (char :: text)
      | _ => none
  | _ => none

theorem actions?_eq_some_iff {written actions : List Char} :
    actions? written = some actions ↔ written = ending actions := by
  constructor
  · intro reads
    unfold actions? at reads
    split at reads
    · cases reads
      rfl
    · split at reads
      · rename_i char text found
        cases reads
        rw [quoted?_eq_some_iff.mp found]
        rfl
      · cases reads
    · cases reads
  · rintro rfl
    cases actions with
    | nil => rfl
    | cons char text =>
        simp only [ending, List.isEmpty_cons, Bool.false_eq_true, if_false, actions?,
          quoted?_escaped]

/-! ## Statements -/

/-- The characters of a statement, part by part. -/
theorem toList_grant (permission : Permission) :
    permission.grant.toList =
      "permission ".toList ++ (permission.kind.toList ++ ' ' :: '"' ::
        (permission.target.toList.flatMap escapedChar ++ '"' ::
          ending permission.actions.toList)) := by
  unfold grant ending
  split
  · rename_i none
    rw [String.isEmpty_iff] at none
    simp [toList_escape, none]
  · rename_i some
    rw [String.isEmpty_iff] at some
    simp [toList_escape, some]

def ofGrant? (statement : String) : Option Permission := do
  let written ← List.dropPrefix? statement.toList "permission ".toList
  let kind ← kind? written
  let target ← quoted? kind.2
  let actions ← actions? target.2
  return ⟨String.ofList kind.1, String.ofList target.1, String.ofList actions⟩

/-- A statement is read exactly if it grants a permission whose kind holds no quote. -/
theorem ofGrant?_eq_some_iff {statement : String} {permission : Permission} :
    ofGrant? statement = some permission ↔
      '"' ∉ permission.kind.toList ∧ permission.grant = statement := by
  simp only [ofGrant?, Option.bind_eq_bind, Option.bind_eq_some_iff, List.dropPrefix?_eq_some_iff,
    beq_iff_eq, Option.pure_def, Option.some_inj]
  constructor
  · rintro ⟨written, ⟨_, whole, rfl⟩, ⟨kind, afterKind⟩, readKind, ⟨target, afterTarget⟩,
      readTarget, actions, readActions, rfl⟩
    obtain ⟨clean, rfl⟩ := kind?_eq_some_iff.mp readKind
    dsimp only at readTarget readActions ⊢
    rw [quoted?_eq_some_iff.mp readTarget, actions?_eq_some_iff.mp readActions] at whole
    refine ⟨by rwa [String.toList_ofList], String.toList_injective ?_⟩
    rw [whole, toList_grant]
    simp only [String.toList_ofList]
  · rintro ⟨clean, rfl⟩
    refine ⟨_, ⟨_, permission.toList_grant, rfl⟩, _, kind?_eq_some_iff.mpr ⟨clean, rfl⟩, _,
      quoted?_eq_some_iff.mpr rfl, _, actions?_eq_some_iff.mpr rfl, ?_⟩
    simp only [String.ofList_toList]

theorem grant_injOn {first second : Permission} (clean : '"' ∉ first.kind.toList)
    (otherClean : '"' ∉ second.kind.toList) (same : first.grant = second.grant) :
    first = second := by
  have reads := ofGrant?_eq_some_iff.mpr ⟨clean, same⟩
  rw [ofGrant?_eq_some_iff.mpr ⟨otherClean, rfl⟩] at reads
  exact (Option.some.inj reads).symm

end Permission

/-! ## The number of statements -/

theorem ModuleSurvey.toFinset_policy (survey : ModuleSurvey) :
    survey.policy.statements.toFinset = survey.permissions.toFinset.image Permission.grant := by
  ext statement
  rw [List.mem_toFinset, mem_policy, Finset.mem_image]
  simp only [Needs, Finding.policy, List.mem_map, List.mem_toFinset, permissions, List.mem_flatMap]
  constructor
  · rintro ⟨finding, found, permission, member, granted⟩
    exact ⟨permission, ⟨finding, found, member⟩, granted⟩
  · rintro ⟨permission, ⟨finding, found, member⟩, granted⟩
    exact ⟨finding, found, permission, member, granted⟩

/-- A module has as many statements as permissions, each counted once. -/
theorem ModuleSurvey.size_policy (survey : ModuleSurvey)
    (clean : ∀ permission ∈ survey.permissions, '"' ∉ permission.kind.toList) :
    survey.policy.size = survey.permissions.toFinset.card := by
  have injective : Set.InjOn Permission.grant survey.permissions.toFinset := by
    intro first member second otherMember same
    rw [Finset.mem_coe, List.mem_toFinset] at member otherMember
    exact Permission.grant_injOn (clean first member) (clean second otherMember) same
  have nodup : survey.policy.statements.Nodup := (Ordered.ascending_ofList _).nodup
  rw [PolicySet.size, ← List.toFinset_card_of_nodup nodup, survey.toFinset_policy,
    Finset.card_image_of_injOn injective]

/-- Grant statements are unambiguous. A reader accepts exactly the statements of permissions whose
kind holds no quote, and gives back the permission, whatever its target and its actions are. So two
such permissions have the same statement only if they are equal, and a module that needs such
permissions has one statement for each of them, counted once. -/
theorem grant_unambiguous :
    (∀ (statement : String) (permission : Permission),
      Permission.ofGrant? statement = some permission ↔
        '"' ∉ permission.kind.toList ∧ permission.grant = statement) ∧
    (∀ first second : Permission, '"' ∉ first.kind.toList → '"' ∉ second.kind.toList →
      (first.grant = second.grant ↔ first = second)) ∧
    ∀ survey : ModuleSurvey,
      (∀ permission ∈ survey.permissions, '"' ∉ permission.kind.toList) →
      survey.policy.size = survey.permissions.toFinset.card := by
  refine ⟨fun _ _ => Permission.ofGrant?_eq_some_iff, fun first second clean otherClean => ?_,
    ModuleSurvey.size_policy⟩
  constructor
  · exact Permission.grant_injOn clean otherClean
  · exact congrArg Permission.grant

/-- Targets that look like the rest of a statement, or end with a backslash, are told apart. -/
theorem grant_unambiguous_lookalikes :
    let kind := "java.io.FilePermission"
    let quoting : Permission := ⟨kind, "a\", \"read", ""⟩
    let trailing : Permission := ⟨kind, "a\\", "read"⟩
    let survey : ModuleSurvey := ⟨"app", .project,
      [⟨"A", "m", "()V", none, [quoting, trailing]⟩, ⟨"A", "n", "()V", some 7, [quoting]⟩]⟩
    (∀ permission ∈ survey.permissions, '"' ∉ permission.kind.toList) ∧
      Permission.ofGrant? quoting.grant = some quoting ∧
      Permission.ofGrant? trailing.grant = some trailing ∧
      quoting.grant ≠ trailing.grant ∧ survey.policy.size = 2 := by
  intro kind quoting trailing survey
  obtain ⟨reads, injective, counts⟩ := grant_unambiguous
  have clean : '"' ∉ kind.toList := by decide
  have needed : ∀ permission ∈ survey.permissions, '"' ∉ permission.kind.toList := by decide
  have different : quoting ≠ trailing := by decide
  have two : survey.permissions.toFinset.card = 2 := by decide
  refine ⟨needed, ?_, ?_, ?_, ?_⟩
  · exact (reads quoting.grant quoting).mpr ⟨clean, rfl⟩
  · exact (reads trailing.grant trailing).mpr ⟨clean, rfl⟩
  · exact fun same => different ((injective quoting trailing clean clean).mp same)
  · exact (counts survey needed).trans two

/-- A quote in a kind is not escaped: here it makes two permissions look alike. -/
example : Permission.grant ⟨"A", "x", "y"⟩ = Permission.grant ⟨"A \"x\",", "y", ""⟩ := by
  decide

end GrantSurvey
