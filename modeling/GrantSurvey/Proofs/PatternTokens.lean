import GrantSurvey.Proofs.Outcome
import GrantSurvey.Proofs.TextParts
import GrantSurvey.Rulebook.Template

/-!
# The tokens of a pattern

A pattern is a sequence of plain characters and of placeholders for arguments. Its tokens are read
off the pattern alone. Substituting arguments gives each token its text, and gives no text at all
if one of the tokens has none.
-/

namespace GrantSurvey.Rulebook

open ClassFile (Literal)

inductive Token where
  | plain (char : Char)
  | argument (index : Nat)
  deriving DecidableEq, Repr

/-- The text of a token. A placeholder has one only for an argument that is known. -/
def Token.text? (arguments : List (Option Literal)) : Token → Option (List Char)
  | plain char => some [char]
  | argument index => arguments[index]?.join.map fun literal => literal.render.toList

/-- What follows an opening brace starts with the number of an argument and a closing brace. -/
structure Placeholder (text : List Char) (index : Nat) (inside rest : List Char) : Prop where
  closed : text = inside ++ '}' :: rest
  unbroken : '}' ∉ inside
  number : Text.unsigned? inside = some index

/-- The tokens of a pattern, from left to right. A brace that opens no placeholder is plain, and
reading goes on right behind it. -/
inductive Tokens : List Char → List Token → Prop where
  | nil : Tokens [] []
  | argument {text inside rest : List Char} {index : Nat} {tokens : List Token}
      (opens : Placeholder text index inside rest) (others : Tokens rest tokens) :
      Tokens ('{' :: text) (.argument index :: tokens)
  | brace {text : List Char} {tokens : List Token}
      (plain : ∀ index inside rest, ¬Placeholder text index inside rest)
      (others : Tokens text tokens) : Tokens ('{' :: text) (.plain '{' :: tokens)
  | plain {char : Char} {text : List Char} {tokens : List Token} (other : char ≠ '{')
      (others : Tokens text tokens) : Tokens (char :: text) (.plain char :: tokens)

/-! ## Placeholders -/

theorem Placeholder.cut {text inside rest : List Char} {index : Nat}
    (opens : Placeholder text index inside rest) :
    text.takeWhile (· != '}') = inside ∧ inside.length < text.length ∧
      text.drop (inside.length + 1) = rest :=
  Text.cut_iff.mpr ⟨opens.unbroken, opens.closed⟩

theorem Placeholder.placeholder?_eq {text inside rest : List Char} {index : Nat}
    (opens : Placeholder text index inside rest) :
    placeholder? text = some (index, inside.length + 1) := by
  obtain ⟨taken, shorter, _⟩ := opens.cut
  simp only [placeholder?, taken, if_pos shorter, opens.number, Option.map_some]

theorem Placeholder.drop_eq {text inside rest : List Char} {index : Nat}
    (opens : Placeholder text index inside rest) : text.drop (inside.length + 1) = rest :=
  opens.cut.2.2

/-- A placeholder that is found stands in the text. -/
theorem exists_placeholder {text : List Char} {index length : Nat}
    (found : placeholder? text = some (index, length)) :
    ∃ inside rest, Placeholder text index inside rest := by
  simp only [placeholder?] at found
  split at found
  · rename_i shorter
    obtain ⟨number, numbered, same⟩ := Option.map_eq_some_iff.mp found
    cases same
    obtain ⟨unbroken, closed⟩ := Text.cut_iff.mp ⟨rfl, shorter, rfl⟩
    exact ⟨_, _, closed, unbroken, numbered⟩
  · cases found

/-- A text opens one placeholder at most. -/
theorem Placeholder.unique {text inside rest inside' rest' : List Char} {index index' : Nat}
    (opens : Placeholder text index inside rest) (opens' : Placeholder text index' inside' rest') :
    index = index' ∧ rest = rest' := by
  have same := opens.placeholder?_eq.symm.trans opens'.placeholder?_eq
  simp only [Option.some_inj, Prod.mk.injEq] at same
  refine ⟨same.1, ?_⟩
  rw [← opens.drop_eq, ← opens'.drop_eq, same.2]

/-! ## Substitution by tokens -/

/-- Every pattern has its tokens. -/
theorem exists_tokens (pattern : List Char) : ∃ tokens, Tokens pattern tokens := by
  induction length : pattern.length using Nat.strongRecOn generalizing pattern with
  | _ size ih =>
      subst length
      cases pattern with
      | nil => exact ⟨[], .nil⟩
      | cons char text =>
          by_cases brace : char = '{'
          · subst brace
            by_cases opens : ∃ index inside rest, Placeholder text index inside rest
            · obtain ⟨index, inside, rest, opens⟩ := opens
              have shorter : rest.length < ('{' :: text).length := by
                rw [opens.closed, List.length_cons, List.length_append, List.length_cons]
                omega
              obtain ⟨tokens, others⟩ := ih _ shorter rest rfl
              exact ⟨_, .argument opens others⟩
            · obtain ⟨tokens, others⟩ := ih _ (Nat.lt_succ_self _) text rfl
              exact ⟨_, .brace (by simpa using opens) others⟩
          · obtain ⟨tokens, others⟩ := ih _ (Nat.lt_succ_self _) text rfl
            exact ⟨_, .plain brace others⟩

theorem substitute_argument {text inside rest : List Char} {index : Nat}
    (opens : Placeholder text index inside rest) (arguments : List (Option Literal)) :
    substitute arguments ('{' :: text) =
      ((Token.argument index).text? arguments).bind fun first =>
        (substitute arguments rest).map (first ++ ·) := by
  rw [substitute]
  simp only [beq_self_eq_true, if_true, opens.placeholder?_eq, opens.drop_eq, Token.text?]
  cases arguments[index]? with
  | none => rfl
  | some argument => cases argument <;> rfl

theorem substitute_brace {text : List Char}
    (plain : ∀ index inside rest, ¬Placeholder text index inside rest)
    (arguments : List (Option Literal)) :
    substitute arguments ('{' :: text) = (substitute arguments text).map ('{' :: ·) := by
  rw [substitute]
  simp only [beq_self_eq_true, if_true]
  cases found : placeholder? text with
  | none => rfl
  | some _ =>
      obtain ⟨inside, rest, opens⟩ := exists_placeholder found
      exact absurd opens (plain _ inside rest)

theorem substitute_plain {char : Char} (other : char ≠ '{') (text : List Char)
    (arguments : List (Option Literal)) :
    substitute arguments (char :: text) = (substitute arguments text).map (char :: ·) := by
  rw [substitute, if_neg (by simpa using other)]

/-- Substitution gives each token its text. -/
theorem Tokens.substitute_eq {pattern : List Char} {tokens : List Token}
    (reads : Tokens pattern tokens) (arguments : List (Option Literal)) :
    substitute arguments pattern =
      (tokens.mapM (Token.text? arguments)).map List.flatten := by
  have step (token : Token) (tokens : List Token) :
      ((token :: tokens).mapM (Token.text? arguments)).map List.flatten =
        (token.text? arguments).bind fun first =>
          ((tokens.mapM (Token.text? arguments)).map List.flatten).map (first ++ ·) := by
    rw [List.mapM_cons]
    cases token.text? arguments with
    | none => rfl
    | some first => cases tokens.mapM (Token.text? arguments) <;> rfl
  induction reads with
  | nil => rw [substitute]; rfl
  | argument opens others ih => rw [substitute_argument opens, step, ih]
  | brace plain others ih => rw [substitute_brace plain, step, ih]; rfl
  | plain other others ih => rw [substitute_plain other, step, ih]; rfl

/-! ## Targets -/

/-- What the target of a template is for some arguments: the fixed text, or the pattern with a text
for each of its tokens, or the wildcard if one of the tokens has no text. -/
inductive Target.Resolves (arguments : List (Option Literal)) : Target → String → Prop where
  | literal (text : String) : Resolves arguments (.literal text) text
  | filled {pattern : String} {tokens : List Token} {texts : List (List Char)} (wildcard : String)
      (reads : Tokens pattern.toList tokens)
      (known : List.Forall₂ (fun token text => token.text? arguments = some text) tokens texts) :
      Resolves arguments (.substitute pattern wildcard) (String.ofList texts.flatten)
  | wildcard {pattern : String} {tokens : List Token} {token : Token} (wildcard : String)
      (reads : Tokens pattern.toList tokens) (member : token ∈ tokens)
      (unknown : token.text? arguments = none) :
      Resolves arguments (.substitute pattern wildcard) wildcard

/-- A target resolves to one text. -/
theorem Target.resolves_iff {arguments : List (Option Literal)} {target : Target} {text : String} :
    target.Resolves arguments text ↔ target.resolve arguments = text := by
  constructor
  · intro resolves
    cases resolves with
    | literal => rfl
    | filled wildcard reads known =>
        rw [resolve, reads.substitute_eq, Outcome.mapM_eq_some_iff.mpr known]
        rfl
    | wildcard _ reads member unknown =>
        rw [resolve, reads.substitute_eq, Outcome.mapM_eq_none_iff.mpr ⟨_, member, unknown⟩]
        rfl
  · rintro rfl
    cases target with
    | literal text => exact .literal text
    | substitute pattern wildcard =>
        obtain ⟨tokens, reads⟩ := exists_tokens pattern.toList
        rw [resolve, reads.substitute_eq]
        cases found : tokens.mapM (Token.text? arguments) with
        | some texts => exact .filled wildcard reads (Outcome.mapM_eq_some_iff.mp found)
        | none =>
            obtain ⟨token, member, unknown⟩ := Outcome.mapM_eq_none_iff.mp found
            exact .wildcard wildcard reads member unknown

end GrantSurvey.Rulebook
