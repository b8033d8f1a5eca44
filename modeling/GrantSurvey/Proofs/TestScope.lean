import GrantSurvey.Project
import GrantSurvey.Proofs.PolicyUnion

/-!
# Tests stay apart

A project is surveyed with the artifacts for its tests or without them. The two reports differ only
in what stems from these artifacts, and the policies do not differ at all: whatever the artifacts
for tests contain, nothing of it is granted.
-/

namespace GrantSurvey

/-! ## Policies -/

/-- The policies of a tally are settled by its modules that are not for tests. -/
theorem Tally.policies_eq_of_filter {modules others : List ModuleSurvey}
    (same : others.filter (·.scope != .test) = modules.filter (·.scope != .test)) :
    (ofList others).policy = (ofList modules).policy ∧
      (ofList others).dependencyPolicy = (ofList modules).dependencyPolicy := by
  apply (sums_ofList modules).policies_eq (sums_ofList others)
  intro survey counts
  have kept (modules : List ModuleSurvey) :
      survey ∈ modules.filter (·.scope != .test) ↔ survey ∈ modules := by
    simp [counts]
  rw [← kept others, ← kept modules, same]

/-! ## What artifacts contribute -/

namespace Artifact

def isForTests (artifact : Artifact) : Bool :=
  artifact.scope == .test

/-- What artifacts yield in a row, each result with the artifact that it stems from. -/
def attributed {α : Type} (yield : Artifact → List α) (artifacts : List Artifact) :
    List (Artifact × α) :=
  artifacts.flatMap fun artifact => (yield artifact).map fun result => (artifact, result)

def classTotal (scan : Artifact → ArchiveScan) : List Artifact → Nat
  | [] => 0
  | artifact :: artifacts => (scan artifact).classCount + classTotal scan artifacts

theorem map_snd_attributed {α : Type} (yield : Artifact → List α) (artifacts : List Artifact) :
    (attributed yield artifacts).map Prod.snd = artifacts.flatMap yield := by
  induction artifacts with
  | nil => rfl
  | cons artifact artifacts ih =>
      have own : ((yield artifact).map fun result => (artifact, result)).map Prod.snd =
          yield artifact := by
        rw [List.map_map]
        exact List.map_id _
      rw [attributed, List.flatMap_cons, List.map_append, own, List.flatMap_cons]
      exact congrArg (yield artifact ++ ·) ih

/-- To keep the results of some artifacts is to leave out the other artifacts. -/
theorem filter_attributed {α : Type} (yield : Artifact → List α) (keep : Artifact → Bool)
    (artifacts : List Artifact) :
    (attributed yield artifacts).filter (fun result => keep result.1) =
      attributed yield (artifacts.filter keep) := by
  induction artifacts with
  | nil => rfl
  | cons artifact artifacts ih =>
      have rest : (attributed yield (artifact :: artifacts)).filter (fun result => keep result.1) =
          ((yield artifact).map fun result => (artifact, result)).filter
              (fun result => keep result.1) ++ attributed yield (artifacts.filter keep) := by
        rw [← ih, ← List.filter_append]
        rfl
      rw [rest, List.filter_map]
      cases kept : keep artifact with
      | true =>
          rw [List.filter_cons_of_pos kept]
          simp [Function.comp_def, kept, attributed]
      | false =>
          rw [List.filter_cons_of_neg (by simp [kept])]
          simp [Function.comp_def, kept]

theorem foldl_classCount (scan : Artifact → ArchiveScan) (count : Nat)
    (artifacts : List Artifact) :
    artifacts.foldl (fun count artifact => count + (scan artifact).classCount) count =
      count + classTotal scan artifacts := by
  induction artifacts generalizing count with
  | nil => rfl
  | cons artifact artifacts ih => rw [List.foldl_cons, ih, classTotal, Nat.add_assoc]

/-- Some artifacts and the others have the classes of all. -/
theorem classTotal_filter (scan : Artifact → ArchiveScan) (keep : Artifact → Bool)
    (artifacts : List Artifact) :
    classTotal scan artifacts =
      classTotal scan (artifacts.filter fun artifact => !keep artifact) +
        classTotal scan (artifacts.filter keep) := by
  induction artifacts with
  | nil => rfl
  | cons artifact artifacts ih =>
      rw [classTotal, ih]
      cases kept : keep artifact with
      | true =>
          rw [List.filter_cons_of_pos kept, List.filter_cons_of_neg (by simp [kept]), classTotal]
          exact Nat.add_left_comm _ _ _
      | false =>
          rw [List.filter_cons_of_pos (by simp [kept]), List.filter_cons_of_neg (by simp [kept]),
            classTotal]
          exact (Nat.add_assoc _ _ _).symm

end Artifact

open Artifact

/-! ## Reports -/

section

variable {scan : Artifact → ArchiveScan} {project : Option Artifact}

theorem surveyedArtifacts_all (project : Option Artifact) (dependencies : List Artifact) :
    surveyedArtifacts project dependencies true = project.toList ++ dependencies := by
  simp [surveyedArtifacts]

/-- Without tests, the artifacts are those of the whole project that are not for tests. -/
theorem surveyedArtifacts_withoutTests (proper : ∀ artifact ∈ project, artifact.scope = .project)
    (dependencies : List Artifact) :
    surveyedArtifacts project dependencies false =
      (project.toList ++ dependencies).filter fun artifact => !artifact.isForTests := by
  have kept : project.toList.filter (fun artifact => !artifact.isForTests) = project.toList := by
    rw [List.filter_eq_self]
    intro artifact member
    simp [isForTests, proper artifact (Option.mem_toList.mp member)]
  rw [List.filter_append, kept]
  rfl

theorem modules_examineProject (dependencies : List Artifact) (includeTests : Bool) :
    (examineProject scan project dependencies includeTests).modules =
      (surveyedArtifacts project dependencies includeTests).map fun artifact =>
        (scan artifact).module artifact :=
  (Tally.sums_ofList _).modules_eq

theorem diagnostics_examineProject (dependencies : List Artifact) (includeTests : Bool) :
    (examineProject scan project dependencies includeTests).diagnostics =
      (attributed (fun artifact => (scan artifact).diagnostics)
        (surveyedArtifacts project dependencies includeTests)).map Prod.snd :=
  (map_snd_attributed _ _).symm

theorem classCount_examineProject (dependencies : List Artifact) (includeTests : Bool) :
    (examineProject scan project dependencies includeTests).classCount =
      classTotal scan (surveyedArtifacts project dependencies includeTests) :=
  (foldl_classCount scan 0 _).trans (Nat.zero_add _)

/-- The modules that are not for tests are those of the artifacts that are not. -/
theorem filter_map_module (artifacts : List Artifact) :
    (artifacts.map fun artifact => (scan artifact).module artifact).filter (·.scope != .test) =
      (artifacts.filter fun artifact => !artifact.isForTests).map fun artifact =>
        (scan artifact).module artifact := by
  rw [List.filter_map]
  rfl

/-- Artifacts that are surveyed alike, those for tests apart, have the same policies. -/
theorem policies_examineProject {other : Artifact → ArchiveScan} {dependencies : List Artifact}
    {includeTests includeTests' : Bool}
    (artifacts : (surveyedArtifacts project dependencies includeTests').filter
        (fun artifact => !artifact.isForTests) =
      (surveyedArtifacts project dependencies includeTests).filter
        fun artifact => !artifact.isForTests)
    (alike : ∀ artifact ∈ surveyedArtifacts project dependencies includeTests,
      artifact.scope ≠ .test → other artifact = scan artifact) :
    (examineProject other project dependencies includeTests').policy =
        (examineProject scan project dependencies includeTests).policy ∧
      (examineProject other project dependencies includeTests').dependencyPolicy =
        (examineProject scan project dependencies includeTests).dependencyPolicy := by
  apply Tally.policies_eq_of_filter
  rw [filter_map_module, filter_map_module, artifacts]
  apply List.map_congr_left
  intro artifact member
  obtain ⟨surveyed, counts⟩ := List.mem_filter.mp member
  rw [alike artifact surveyed (by simpa [isForTests] using counts)]

end

/-- The reports with and without the artifacts for tests have the same project and the same
policies. The modules and the diagnostics of the smaller report are those of the larger one that do
not stem from artifacts for tests, in the same order, which is that of the artifacts with the
project first. The larger report counts exactly the classes of the artifacts for tests in addition.
Replacing what artifacts for tests contain changes the policies of neither report. -/
theorem examineProject_tests_apart (scan : Artifact → ArchiveScan) (project : Option Artifact)
    (proper : ∀ artifact ∈ project, artifact.scope = .project) (dependencies : List Artifact) :
    let whole := examineProject scan project dependencies true
    let bare := examineProject scan project dependencies false
    let artifacts := project.toList ++ dependencies
    let module (artifact : Artifact) := (scan artifact).module artifact
    let diagnostics := attributed (fun artifact => (scan artifact).diagnostics) artifacts
    bare.project = whole.project ∧ bare.policy = whole.policy ∧
    bare.dependencyPolicy = whole.dependencyPolicy ∧
    whole.modules = artifacts.map module ∧
    bare.modules = (artifacts.filter fun artifact => !artifact.isForTests).map module ∧
    bare.modules = whole.modules.filter (·.scope != .test) ∧
    whole.diagnostics = diagnostics.map Prod.snd ∧
    bare.diagnostics = (diagnostics.filter fun result => !result.1.isForTests).map Prod.snd ∧
    whole.classCount = bare.classCount + classTotal scan (dependencies.filter isForTests) ∧
    ∀ other : Artifact → ArchiveScan,
      (∀ artifact ∈ artifacts, artifact.scope ≠ .test → other artifact = scan artifact) →
      ∀ includeTests,
        (examineProject other project dependencies includeTests).policy =
            (examineProject scan project dependencies includeTests).policy ∧
          (examineProject other project dependencies includeTests).dependencyPolicy =
            (examineProject scan project dependencies includeTests).dependencyPolicy := by
  intro whole bare artifacts module diagnostics
  have all := surveyedArtifacts_all project dependencies
  have kept := surveyedArtifacts_withoutTests proper dependencies
  have modules : whole.modules = artifacts.map module := by
    rw [modules_examineProject, all]
  have modules' :
      bare.modules = (artifacts.filter fun artifact => !artifact.isForTests).map module := by
    rw [modules_examineProject, kept]
  have same : (surveyedArtifacts project dependencies false).filter
        (fun artifact => !artifact.isForTests) =
      (surveyedArtifacts project dependencies true).filter
        (fun artifact => !artifact.isForTests) := by
    rw [all, kept, List.filter_filter]
    simp
  have policies :
      bare.policy = whole.policy ∧ bare.dependencyPolicy = whole.dependencyPolicy :=
    policies_examineProject same fun _ _ _ => rfl
  have tests : artifacts.filter isForTests = dependencies.filter isForTests := by
    have ownTests : project.toList.filter isForTests = [] := by
      rw [List.filter_eq_nil_iff]
      intro artifact member
      simp [isForTests, proper artifact (Option.mem_toList.mp member)]
    rw [List.filter_append, ownTests, List.nil_append]
  refine ⟨rfl, policies.1, policies.2, modules, modules', ?_, ?_, ?_, ?_, ?_⟩
  · rw [modules, modules', filter_map_module]
  · rw [diagnostics_examineProject, all]
  · rw [diagnostics_examineProject, kept,
      filter_attributed _ (fun artifact => !artifact.isForTests)]
  · rw [classCount_examineProject, classCount_examineProject, all, kept, ← tests]
    exact classTotal_filter scan isForTests artifacts
  · intro other alike includeTests
    apply policies_examineProject rfl
    intro artifact member
    apply alike
    rcases List.mem_append.mp member with own | dependency
    · exact List.mem_append_left _ own
    · exact List.mem_append_right _ (List.mem_filter.mp dependency).1

/-- Tests on either side of a dependency, and everything about the tests replaced. -/
theorem examineProject_tests_apart_interleaved :
    let needing (target : String) : Finding :=
      ⟨"a/B", "run", "()V", none, [⟨"java.io.FilePermission", target, "read"⟩]⟩
    let scan (artifact : Artifact) : ArchiveScan :=
      ⟨[needing artifact.path], 2, [.unreadableArchive artifact.path "truncated"]⟩
    let other (artifact : Artifact) : ArchiveScan :=
      if artifact.scope = .test then ⟨[needing "/etc", needing "/"], 7, []⟩ else scan artifact
    let project : Option Artifact := some ⟨"app", .project⟩
    let dependencies : List Artifact :=
      [⟨"first.jar", .test⟩, ⟨"library.jar", .compile⟩, ⟨"second.jar", .test⟩]
    (∀ artifact ∈ project, artifact.scope = .project) ∧
    (∀ artifact ∈ project.toList ++ dependencies, artifact.scope ≠ .test →
      other artifact = scan artifact) ∧
    (examineProject other project dependencies true).policy =
      (examineProject scan project dependencies false).policy ∧
    (examineProject scan project dependencies true).classCount =
      (examineProject scan project dependencies false).classCount + 4 := by
  intro needing scan other project dependencies
  have proper : ∀ artifact ∈ project, artifact.scope = .project := by simp [project]
  have alike (artifact : Artifact) (_ : artifact ∈ project.toList ++ dependencies)
      (counts : artifact.scope ≠ .test) : other artifact = scan artifact := if_neg counts
  obtain ⟨-, policy, -, -, -, -, -, -, count, replaced⟩ :=
    examineProject_tests_apart scan project proper dependencies
  exact ⟨proper, alike, (replaced other alike true).1.trans policy.symm, count⟩

end GrantSurvey
