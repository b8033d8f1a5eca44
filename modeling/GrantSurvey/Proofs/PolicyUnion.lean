import GrantSurvey.Proofs.Ascending
import GrantSurvey.Tally

/-!
# The union over modules

The policies of a tally hold exactly what the tallied modules need, as far as their scope counts.
That is a property of every single step of tallying, so the order of the modules and their
repetition play no part.
-/

namespace GrantSurvey

theorem PolicySet.mem_union {policy other : PolicySet} {statement : String} :
    statement ∈ (policy.union other).statements ↔
      statement ∈ policy.statements ∨ statement ∈ other.statements :=
  Ordered.mem_union

def ModuleSurvey.Needs (survey : ModuleSurvey) (statement : String) : Prop :=
  ∃ finding ∈ survey.findings, statement ∈ finding.policy

theorem ModuleSurvey.mem_policy {survey : ModuleSurvey} {statement : String} :
    statement ∈ survey.policy.statements ↔ survey.Needs statement :=
  Ordered.mem_ofList.trans List.mem_flatMap

namespace Tally

/-! ## One more module -/

theorem modules_add (tally : Tally) (survey : ModuleSurvey) :
    (tally.add survey).modules = tally.modules ++ [survey] := by
  cases scope : survey.scope <;> simp only [Tally.add, scope]

/-- A module of the project or of the dependencies adds what it needs to the policy. -/
theorem mem_policy_add {tally : Tally} {survey : ModuleSurvey} {statement : String} :
    statement ∈ (tally.add survey).policy.statements ↔
      statement ∈ tally.policy.statements ∨
        (survey.scope = .project ∨ survey.scope = .compile) ∧ survey.Needs statement := by
  cases scope : survey.scope <;>
    simp [Tally.add, scope, PolicySet.mem_union, ModuleSurvey.mem_policy]

/-- Only a dependency adds what it needs to the policy of the dependencies. -/
theorem mem_dependencyPolicy_add {tally : Tally} {survey : ModuleSurvey} {statement : String} :
    statement ∈ (tally.add survey).dependencyPolicy.statements ↔
      statement ∈ tally.dependencyPolicy.statements ∨
        survey.scope = .compile ∧ survey.Needs statement := by
  cases scope : survey.scope <;>
    simp [Tally.add, scope, PolicySet.mem_union, ModuleSurvey.mem_policy]

/-- Both policies list their statements in ascending order. -/
structure Ascends (tally : Tally) : Prop where
  policy : Ordered.Ascending tally.policy.statements
  dependencyPolicy : Ordered.Ascending tally.dependencyPolicy.statements

theorem Ascends.add {tally : Tally} (ascends : Ascends tally) (survey : ModuleSurvey) :
    Ascends (tally.add survey) := by
  unfold Tally.add
  cases survey.scope with
  | project => exact ⟨ascends.policy.union _, ascends.dependencyPolicy⟩
  | compile => exact ⟨ascends.policy.union _, ascends.dependencyPolicy.union _⟩
  | test => exact ⟨ascends.policy, ascends.dependencyPolicy⟩

/-! ## Modules in a row -/

structure Sums (modules : List ModuleSurvey) (tally : Tally) : Prop where
  modules_eq : tally.modules = modules
  ascends : Ascends tally
  mem_policy : ∀ statement, statement ∈ tally.policy.statements ↔
    ∃ survey ∈ modules, (survey.scope = .project ∨ survey.scope = .compile) ∧
      survey.Needs statement
  mem_dependencyPolicy : ∀ statement, statement ∈ tally.dependencyPolicy.statements ↔
    ∃ survey ∈ modules, survey.scope = .compile ∧ survey.Needs statement

theorem sums_empty : Sums [] empty where
  modules_eq := rfl
  ascends := ⟨.nil, .nil⟩
  mem_policy := by simp [empty, PolicySet.empty]
  mem_dependencyPolicy := by simp [empty, PolicySet.empty]

theorem exists_mem_concat {modules : List ModuleSurvey} {survey : ModuleSurvey}
    {P : ModuleSurvey → Prop} :
    (∃ other ∈ modules ++ [survey], P other) ↔ (∃ other ∈ modules, P other) ∨ P survey := by
  simp only [List.mem_append, List.mem_singleton, or_and_right, exists_or, exists_eq_left]

theorem Sums.add {modules : List ModuleSurvey} {tally : Tally} (sums : Sums modules tally)
    (survey : ModuleSurvey) : Sums (modules ++ [survey]) (tally.add survey) where
  modules_eq := by rw [modules_add, sums.modules_eq]
  ascends := sums.ascends.add survey
  mem_policy statement := by rw [mem_policy_add, sums.mem_policy, exists_mem_concat]
  mem_dependencyPolicy statement := by
    rw [mem_dependencyPolicy_add, sums.mem_dependencyPolicy, exists_mem_concat]

theorem Sums.foldl {earlier : List ModuleSurvey} {tally : Tally} (sums : Sums earlier tally)
    (modules : List ModuleSurvey) : Sums (earlier ++ modules) (modules.foldl Tally.add tally) := by
  induction modules generalizing earlier tally with
  | nil => rwa [List.append_nil]
  | cons survey modules ih =>
      have following := ih (sums.add survey)
      rwa [List.append_assoc] at following

theorem sums_ofList (modules : List ModuleSurvey) : Sums modules (ofList modules) :=
  sums_empty.foldl modules

/-- Modules for tests apart, the policies depend only on which modules there are. -/
theorem Sums.policies_eq {modules others : List ModuleSurvey} {tally other : Tally}
    (sums : Sums modules tally) (otherSums : Sums others other)
    (same : ∀ survey : ModuleSurvey, survey.scope ≠ .test →
      (survey ∈ others ↔ survey ∈ modules)) :
    other.policy = tally.policy ∧ other.dependencyPolicy = tally.dependencyPolicy := by
  have statements {first second : PolicySet} (equal : first.statements = second.statements) :
      first = second := by
    cases first
    cases second
    exact congrArg PolicySet.mk equal
  constructor
  · refine statements
      (otherSums.ascends.policy.eq_of_mem_iff sums.ascends.policy fun statement => ?_)
    rw [otherSums.mem_policy, sums.mem_policy]
    refine exists_congr fun survey => and_congr_left fun needed => same survey ?_
    rcases needed.1 with scope | scope <;> simp [scope]
  · refine statements (otherSums.ascends.dependencyPolicy.eq_of_mem_iff
      sums.ascends.dependencyPolicy fun statement => ?_)
    rw [otherSums.mem_dependencyPolicy, sums.mem_dependencyPolicy]
    refine exists_congr fun survey => and_congr_left fun needed => same survey ?_
    simp [needed.1]

/-- A tally lists the modules in their order. A statement is in its policy if and only if some
module of the project or of the dependencies has a finding that demands it, and in the policy of
the dependencies if and only if some dependency has one. Both are strictly ascending, and the
policy holds that of the dependencies. Hence reordering the modules, repeating some of them, and
adding or leaving out modules for tests does not change the policies: all these keep the set of the
modules that are not for tests. -/
theorem ofList_exact (modules : List ModuleSurvey) :
    (ofList modules).modules = modules ∧
    (∀ statement, statement ∈ (ofList modules).policy.statements ↔
      ∃ survey ∈ modules, (survey.scope = .project ∨ survey.scope = .compile) ∧
        ∃ finding ∈ survey.findings, statement ∈ finding.policy) ∧
    (∀ statement, statement ∈ (ofList modules).dependencyPolicy.statements ↔
      ∃ survey ∈ modules, survey.scope = .compile ∧
        ∃ finding ∈ survey.findings, statement ∈ finding.policy) ∧
    (ofList modules).policy.statements.Pairwise (· < ·) ∧
    (ofList modules).dependencyPolicy.statements.Pairwise (· < ·) ∧
    (ofList modules).dependencyPolicy.statements ⊆ (ofList modules).policy.statements ∧
    ∀ others : List ModuleSurvey,
      (∀ survey : ModuleSurvey, survey.scope ≠ .test → (survey ∈ others ↔ survey ∈ modules)) →
      (ofList others).policy = (ofList modules).policy ∧
        (ofList others).dependencyPolicy = (ofList modules).dependencyPolicy := by
  have sums := sums_ofList modules
  refine ⟨sums.modules_eq, sums.mem_policy, sums.mem_dependencyPolicy,
    sums.ascends.policy.pairwise_lt, sums.ascends.dependencyPolicy.pairwise_lt, ?_,
    fun others same => sums.policies_eq (sums_ofList others) same⟩
  intro statement member
  obtain ⟨survey, listed, compile, needs⟩ := (sums.mem_dependencyPolicy statement).mp member
  exact (sums.mem_policy statement).mpr ⟨survey, listed, Or.inr compile, needs⟩

/-- A project, a dependency and a module for tests: leaving out the tests, exchanging the others and
counting the dependency twice gives the same policies. -/
theorem ofList_exact_rearranged :
    let needs (target : String) : Finding :=
      ⟨"a/B", "run", "()V", none, [⟨"java.io.FilePermission", target, "read"⟩]⟩
    let project : ModuleSurvey := ⟨"app", .project, [needs "/a"]⟩
    let library : ModuleSurvey := ⟨"lib.jar", .compile, [needs "/b", needs "/a"]⟩
    let tests : ModuleSurvey := ⟨"tests.jar", .test, [needs "/c"]⟩
    (∀ survey : ModuleSurvey, survey.scope ≠ .test →
      (survey ∈ [library, project, library] ↔ survey ∈ [project, tests, library])) ∧
    (ofList [library, project, library]).policy = (ofList [project, tests, library]).policy := by
  intro needs project library tests
  have same (survey : ModuleSurvey) (counts : survey.scope ≠ .test) :
      survey ∈ [library, project, library] ↔ survey ∈ [project, tests, library] := by
    have other : survey ≠ tests := fun equal => counts (congrArg ModuleSurvey.scope equal)
    simp only [List.mem_cons, List.not_mem_nil, or_false, other, false_or]
    rw [or_left_comm, or_self]
  obtain ⟨-, -, -, -, -, -, unchanged⟩ := ofList_exact [project, tests, library]
  exact ⟨same, (unchanged [library, project, library] same).1⟩

end Tally

end GrantSurvey
