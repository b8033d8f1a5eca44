import GrantSurvey.Proofs.PatternTokens

/-!
# What a substitution depends on

The tokens of a pattern are fixed before any argument is looked at. Substitution fails exactly if
one of the arguments that they refer to is unknown, and it depends on no other argument. The text
of an argument is copied, so braces in it mean nothing.
-/

namespace GrantSurvey.Rulebook

open ClassFile (Literal)

/-- There is no argument of that number, or none that is known. -/
def Unknown (arguments : List (Option Literal)) (index : Nat) : Prop :=
  arguments.length ≤ index ∨ arguments[index]? = some none

/-! ## Tokens -/

/-- A placeholder is a decimal number before the next closing brace. -/
theorem placeholder_iff {text inside rest : List Char} {index : Nat} :
    Placeholder text index inside rest ↔
      text = inside ++ '}' :: rest ∧ '}' ∉ inside ∧ Text.Numeral inside index := by
  rw [← Text.unsigned?_eq_some_iff]
  constructor
  · intro opens
    exact ⟨opens.closed, opens.unbroken, opens.number⟩
  · rintro ⟨closed, unbroken, number⟩
    exact ⟨closed, unbroken, number⟩

/-- A pattern has its tokens in one way only. -/
theorem Tokens.unique {pattern : List Char} {tokens others : List Token}
    (reads : Tokens pattern tokens) (otherReads : Tokens pattern others) : others = tokens := by
  induction reads generalizing others with
  | nil =>
      cases otherReads
      rfl
  | argument opens _ ih =>
      cases otherReads with
      | argument otherOpens otherReads =>
          obtain ⟨rfl, rfl⟩ := opens.unique otherOpens
          rw [ih otherReads]
      | brace plain => exact absurd opens (plain _ _ _)
      | plain other => exact absurd rfl other
  | brace plain _ ih =>
      cases otherReads with
      | argument opens => exact absurd opens (plain _ _ _)
      | brace _ otherReads => rw [ih otherReads]
      | plain other => exact absurd rfl other
  | plain other _ ih =>
      cases otherReads with
      | argument => exact absurd rfl other
      | brace => exact absurd rfl other
      | plain _ otherReads => rw [ih otherReads]

theorem join_eq_none_iff {arguments : List (Option Literal)} {index : Nat} :
    arguments[index]?.join = none ↔ Unknown arguments index := by
  rw [Option.join_eq_none_iff, List.getElem?_eq_none_iff]
  rfl

/-- A token without a text is a placeholder for an argument that is unknown. -/
theorem Token.text?_eq_none_iff {arguments : List (Option Literal)} {token : Token} :
    token.text? arguments = none ↔
      ∃ index, token = .argument index ∧ Unknown arguments index := by
  cases token with
  | plain char => simp [Token.text?]
  | argument index => simp [Token.text?, join_eq_none_iff]

/-! ## Substitution -/

section Substitution

variable {pattern : List Char} {tokens : List Token} {arguments others : List (Option Literal)}

/-- Substitution fails exactly if an argument that the pattern refers to is unknown. -/
theorem Tokens.substitute_eq_none_iff (reads : Tokens pattern tokens) :
    substitute arguments pattern = none ↔
      ∃ index, Token.argument index ∈ tokens ∧ Unknown arguments index := by
  rw [reads.substitute_eq, Option.map_eq_none_iff, Outcome.mapM_eq_none_iff]
  constructor
  · rintro ⟨token, member, missing⟩
    obtain ⟨index, rfl, unknown⟩ := Token.text?_eq_none_iff.mp missing
    exact ⟨index, member, unknown⟩
  · rintro ⟨index, member, unknown⟩
    exact ⟨_, member, Token.text?_eq_none_iff.mpr ⟨index, rfl, unknown⟩⟩

/-- Where substitution succeeds, it puts the texts of the tokens together. -/
theorem Tokens.substitute_eq_some_iff (reads : Tokens pattern tokens) {result : List Char} :
    substitute arguments pattern = some result ↔
      ∃ texts, List.Forall₂ (fun token text => token.text? arguments = some text) tokens texts ∧
        texts.flatten = result := by
  simp only [reads.substitute_eq, Option.map_eq_some_iff, Outcome.mapM_eq_some_iff]

theorem Token.text?_mono {token : Token} {text : List Char}
    (kept : ∀ index, token = .argument index → ∀ literal,
      others[index]?.join = some literal → arguments[index]?.join = some literal)
    (found : token.text? others = some text) : token.text? arguments = some text := by
  cases token with
  | plain char => exact found
  | argument index =>
      obtain ⟨literal, known, rendered⟩ := Option.map_eq_some_iff.mp found
      exact Option.map_eq_some_iff.mpr ⟨literal, kept index rfl literal known, rendered⟩

/-- Arguments that keep what others tell about the references of a pattern keep its substitution. -/
theorem Tokens.substitute_mono (reads : Tokens pattern tokens)
    (kept : ∀ index, Token.argument index ∈ tokens → ∀ literal,
      others[index]?.join = some literal → arguments[index]?.join = some literal)
    {result : List Char} (found : substitute others pattern = some result) :
    substitute arguments pattern = some result := by
  obtain ⟨texts, known, rfl⟩ := reads.substitute_eq_some_iff.mp found
  refine reads.substitute_eq_some_iff.mpr ⟨texts, ?_, rfl⟩
  refine Outcome.forall₂_of_mem known fun token member text found => ?_
  exact Token.text?_mono (fun index same => kept index (same ▸ member)) found

/-- Substitution depends on nothing but the arguments that the pattern refers to. -/
theorem Tokens.substitute_congr (reads : Tokens pattern tokens)
    (same : ∀ index, Token.argument index ∈ tokens →
      others[index]?.join = arguments[index]?.join) :
    substitute others pattern = substitute arguments pattern := by
  ext result
  constructor
  · exact reads.substitute_mono fun index member literal known => same index member ▸ known
  · exact reads.substitute_mono fun index member literal known => (same index member).symm ▸ known

end Substitution

/-! ## Templates -/

/-- A target is the wildcard, whatever the wildcard is, exactly if substitution fails. -/
theorem Target.resolve_eq_wildcard_iff {arguments : List (Option Literal)} {pattern : String} :
    (∀ wildcard, Target.resolve arguments (.substitute pattern wildcard) = wildcard) ↔
      Rulebook.substitute arguments pattern.toList = none := by
  simp only [Target.resolve]
  cases Rulebook.substitute arguments pattern.toList with
  | none => simp
  | some text =>
      -- One text cannot be two different wildcards.
      constructor
      · intro always
        have impossible : "" = "*" := (always "").symm.trans (always "*")
        exact absurd impossible (by decide)
      · intro impossible
        cases impossible

/-- A pattern has its tokens before any argument is known: read from left to right, an opening brace
whose text up to the next closing brace is a number is a placeholder, and everything else stands for
itself. Substitution fails exactly if a placeholder refers to an argument that is missing or
unknown, and otherwise puts the texts of the tokens together in their order. So a template uses its
wildcard, whatever this is, exactly if such an argument is unknown, and arguments to which its
pattern does not refer make no difference. -/
theorem substitute_in_one_pass (pattern : String) :
    (∀ (text inside rest : List Char) (index : Nat), Placeholder text index inside rest ↔
      text = inside ++ '}' :: rest ∧ '}' ∉ inside ∧ Text.Numeral inside index) ∧
    ∃ tokens : List Token,
      (∀ others, Tokens pattern.toList others ↔ others = tokens) ∧
      ∀ arguments : List (Option Literal),
        (substitute arguments pattern.toList = none ↔
          ∃ index, Token.argument index ∈ tokens ∧ Unknown arguments index) ∧
        (∀ result, substitute arguments pattern.toList = some result ↔
          ∃ texts,
            List.Forall₂ (fun token text => token.text? arguments = some text) tokens texts ∧
              texts.flatten = result) ∧
        ∀ kind actions : String,
          ((∀ wildcard, Template.resolve ⟨kind, .substitute pattern wildcard, actions⟩ arguments =
              ⟨kind, wildcard, actions⟩) ↔
            ∃ index, Token.argument index ∈ tokens ∧ Unknown arguments index) ∧
          ∀ others : List (Option Literal),
            (∀ index, Token.argument index ∈ tokens →
              others[index]?.join = arguments[index]?.join) →
            ∀ wildcard, Template.resolve ⟨kind, .substitute pattern wildcard, actions⟩ others =
              Template.resolve ⟨kind, .substitute pattern wildcard, actions⟩ arguments := by
  obtain ⟨tokens, reads⟩ := exists_tokens pattern.toList
  refine ⟨fun _ _ _ _ => placeholder_iff, tokens, fun others => ⟨reads.unique, ?_⟩,
    fun arguments => ⟨reads.substitute_eq_none_iff, fun _ => reads.substitute_eq_some_iff,
      fun kind actions => ⟨?_, fun others same wildcard => ?_⟩⟩⟩
  · rintro rfl
    exact reads
  · simp only [Template.resolve, Permission.mk.injEq, true_and, and_true]
    rw [Target.resolve_eq_wildcard_iff, reads.substitute_eq_none_iff]
  · simp only [Template.resolve, Target.resolve, reads.substitute_congr same]

/-- A brace that opens no placeholder, a number with a sign and a leading zero, and an argument that
itself looks like a placeholder: the argument is copied, and the unknown one that it seems to refer
to is not asked for. -/
theorem substitute_in_one_pass_braces :
    let pattern := "\x7bx\x7b+01\x7d\x7d"
    let tokens : List Token := [.plain '{', .plain 'x', .argument 1, .plain '}']
    let arguments : List (Option Literal) := [none, some (.text "\x7b0\x7d")]
    let others : List (Option Literal) := [some (.int 7), some (.text "\x7b0\x7d"), none]
    Tokens pattern.toList tokens ∧
      substitute arguments pattern.toList = some "\x7bx\x7b0\x7d\x7d".toList ∧
      (∀ index, Token.argument index ∈ tokens →
        others[index]?.join = arguments[index]?.join) ∧
      ∀ wildcard, Template.resolve ⟨"P", .substitute pattern wildcard, ""⟩ others =
        Template.resolve ⟨"P", .substitute pattern wildcard, ""⟩ arguments := by
  intro pattern tokens arguments others
  have opens : Placeholder ['+', '0', '1', '}', '}'] 1 ['+', '0', '1'] ['}'] :=
    ⟨rfl, by decide, rfl⟩
  have shut : placeholder? ['x', '{', '+', '0', '1', '}', '}'] = none := rfl
  have letters : pattern.toList = ['{', 'x', '{', '+', '0', '1', '}', '}'] := by
    simp only [pattern, String.reduceToList]
  have reads : Tokens pattern.toList tokens := by
    rw [letters]
    refine .brace ?_ (.plain (by decide) (.argument opens (.plain (by decide) .nil)))
    intro index inside rest found
    cases found.placeholder?_eq.symm.trans shut
  have same : ∀ index, Token.argument index ∈ tokens →
      others[index]?.join = arguments[index]?.join := by
    intro index member
    obtain rfl : index = 1 := by simpa [tokens] using member
    rfl
  obtain ⟨-, found, unique, exact⟩ := substitute_in_one_pass pattern
  obtain rfl := (unique _).mp reads
  obtain ⟨-, texts, templates⟩ := exact arguments
  refine ⟨reads, (texts _).mpr ⟨[['{'], ['x'], ['{', '0', '}'], ['}']], ?_, rfl⟩, same,
    (templates "P" "").2 others same⟩
  exact .cons rfl (.cons rfl (.cons rfl (.cons rfl .nil)))

end GrantSurvey.Rulebook
