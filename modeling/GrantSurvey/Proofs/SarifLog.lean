import GrantSurvey.Proofs.Ascending
import GrantSurvey.Report.Sarif
import Mathlib.Data.List.Forall2

/-!
# Rules and results of a SARIF log

The results of a log are numbered by the places of the report that they stem from: the number of the
module, of the finding in it and of the permission in that. They come in the order of these numbers,
and none is left out. The rules are collected by a walk of their own, and yet they are the rules of
the results.
-/

namespace GrantSurvey

/-! ## Numbered lists -/

section Numbering

variable {α β γ κ : Type} {less : κ → κ → Prop}

/-- The elements of a list stand at keys, one at each key at which something stands at all, and they
come in the order of the keys. -/
def Numbers (less : κ → κ → Prop) (Stands : κ → β → Prop) (list : List β) : Prop :=
  ∃ keys : List κ, keys.Pairwise less ∧ (∀ key, key ∈ keys ↔ ∃ element, Stands key element) ∧
    List.Forall₂ Stands keys list

/-- A list is numbered by the places in it. -/
theorem numbers_places (list : List β) :
    Numbers Nat.lt (fun place element => list[place]? = some element) list := by
  refine ⟨List.range list.length, List.pairwise_lt_range, fun place => ?_, ?_⟩
  · rw [List.mem_range]
    constructor
    · intro within
      exact ⟨_, List.getElem?_eq_getElem within⟩
    · rintro ⟨element, there⟩
      exact (List.getElem?_eq_some_iff.mp there).1
  · rw [List.forall₂_iff_get]
    refine ⟨List.length_range, fun place first second => ?_⟩
    simp

theorem Numbers.map {Stands : κ → β → Prop} {list : List β} (numbers : Numbers less Stands list)
    (f : β → γ) :
    Numbers less (fun key result => ∃ element, Stands key element ∧ result = f element)
      (list.map f) := by
  obtain ⟨keys, ascending, stands, standing⟩ := numbers
  refine ⟨keys, ascending, fun key => ?_, ?_⟩
  · rw [stands]
    constructor
    · rintro ⟨element, there⟩
      exact ⟨_, element, there, rfl⟩
    · rintro ⟨_, element, there, -⟩
      exact ⟨element, there⟩
  · rw [List.forall₂_map_right_iff]
    exact standing.imp fun key element there => ⟨element, there, rfl⟩

theorem forall₂_flatMap {R : κ → γ → Prop} {f : α → List κ} {g : α → List γ} (list : List α)
    (each : ∀ element ∈ list, List.Forall₂ R (f element) (g element)) :
    List.Forall₂ R (list.flatMap f) (list.flatMap g) := by
  induction list with
  | nil => exact .nil
  | cons element list ih =>
      rw [List.flatMap_cons, List.flatMap_cons]
      exact List.rel_append (each element List.mem_cons_self)
        (ih fun other member => each other (List.mem_cons_of_mem _ member))

/-- Lists in a row, of which each is numbered, are numbered by the place of the list and then by the
key in it. -/
theorem Numbers.flatMap {Stands : α → κ → β → Prop} {f : α → List β}
    (numbers : ∀ element, Numbers less (Stands element) (f element)) (list : List α) :
    Numbers (Prod.Lex Nat.lt less)
      (fun key result => ∃ element, list[key.1]? = some element ∧ Stands element key.2 result)
      (list.flatMap f) := by
  choose keys ascending stands standing using numbers
  have numbered : list.zipIdx.Pairwise fun first second => first.2 < second.2 := by
    refine List.pairwise_map.mp ?_
    rw [List.zipIdx_map_snd]
    exact List.pairwise_lt_range'
  refine ⟨list.zipIdx.flatMap fun place => (keys place.1).map fun key => (place.2, key), ?_, ?_, ?_⟩
  · rw [List.pairwise_flatMap]
    constructor
    · intro place _
      rw [List.pairwise_map]
      exact (ascending place.1).imp fun before => Prod.Lex.right _ before
    · refine numbered.imp fun {first second} before => ?_
      intro key member other otherMember
      obtain ⟨_, _, rfl⟩ := List.mem_map.mp member
      obtain ⟨_, _, rfl⟩ := List.mem_map.mp otherMember
      exact Prod.Lex.left _ _ before
  · intro key
    rw [List.mem_flatMap]
    constructor
    · rintro ⟨place, listed, member⟩
      obtain ⟨inner, inside, rfl⟩ := List.mem_map.mp member
      obtain ⟨result, there⟩ := (stands place.1 inner).mp inside
      exact ⟨result, place.1, List.mem_zipIdx_iff_getElem?.mp listed, there⟩
    · rintro ⟨result, element, there, inside⟩
      refine ⟨(element, key.1), List.mem_zipIdx_iff_getElem?.mpr there, List.mem_map.mpr ?_⟩
      exact ⟨key.2, (stands element key.2).mpr ⟨result, inside⟩, rfl⟩
  · have unnumbered : list.flatMap f = list.zipIdx.flatMap fun place => f place.1 := by
      rw [← List.flatMap_map Prod.fst f, List.zipIdx_map_fst]
    rw [unnumbered]
    refine forall₂_flatMap _ fun place listed => ?_
    rw [List.forall₂_map_left_iff]
    exact (standing place.1).imp fun key result there =>
      ⟨place.1, List.mem_zipIdx_iff_getElem?.mp listed, there⟩

end Numbering

/-! ## Places of a JSON value -/

namespace Json

/-- A step into a JSON value: to a member of an object, or to an item of an array. -/
inductive Step where
  | member (name : String)
  | item (index : Nat)
  deriving DecidableEq, Repr

def enter? (json : Json) : Step → Option Json
  | .member name => json.member? name
  | .item index =>
      match json with
      | .array items => items[index]?
      | _ => none

def at? (json : Json) (path : List Step) : Option Json :=
  path.foldlM enter? json

@[simp]
theorem at?_nil (json : Json) : json.at? [] = some json := rfl

@[simp]
theorem at?_cons (json : Json) (step : Step) (path : List Step) :
    json.at? (step :: path) = (json.enter? step).bind (at? · path) := rfl

@[simp]
theorem enter?_member (members : List (String × Json)) (name : String) :
    (object members).enter? (.member name) = members.lookup name := rfl

@[simp]
theorem enter?_item (items : List Json) (index : Nat) :
    (array items).enter? (.item index) = items[index]? := rfl

end Json

namespace Sarif

open Json.Step

def resultsPath : List Json.Step :=
  [member "runs", item 0, member "results"]

def rulesPath : List Json.Step :=
  [member "runs", item 0, member "tool", member "driver", member "rules"]

def placePath : List Json.Step :=
  [member "locations", item 0, member "physicalLocation"]

/-- A result as it is written says that a finding of a module needs a permission: it has the kind of
the permission as its rule, the module as its artifact, the line as its region if there is one, and
a message that ends in the statement that grants the permission. -/
structure Reports (json : Json) (survey : ModuleSurvey) (finding : Finding)
    (permission : Permission) : Prop where
  rule : json.at? [member "ruleId"] = some (.string permission.kind)
  artifact : json.at? (placePath ++ [member "artifactLocation", member "uri"]) =
    some (.string survey.name)
  region : json.at? (placePath ++ [member "region"]) =
    finding.line.map fun line => .object [("startLine", .ofNat line)]
  message : ∃ front, json.at? [member "message", member "text"] =
    some (.string (front ++ permission.grant))

theorem at?_ruleId (result : Result) :
    result.toJson.at? [member "ruleId"] = some (.string result.rule) := by
  simp [Result.toJson, List.lookup_cons]

theorem reports_toJson (survey : ModuleSurvey) (finding : Finding) (permission : Permission) :
    Reports (Result.toJson ⟨survey.name, finding, permission⟩) survey finding permission := by
  refine ⟨at?_ruleId _, ?_, ?_,
    finding.className.replace "/" "." ++ "." ++ finding.method ++ " requires ", ?_⟩
  · simp [placePath, Result.toJson, Result.place, List.lookup_cons]
  · cases line : finding.line with
    | none => simp [placePath, Result.toJson, Result.place, line, List.lookup_cons]
    | some number => simp [placePath, Result.toJson, Result.place, line, List.lookup_cons]
  · simp [Result.toJson, Result.message, List.lookup_cons, toString]

/-- The numbers of a module, of a finding in it and of a permission in that lead to these three. -/
structure NeedsAt (report : ProjectReport) (place : Nat × Nat × Nat) (survey : ModuleSurvey)
    (finding : Finding) (permission : Permission) : Prop where
  listed : report.modules[place.1]? = some survey
  found : survey.findings[place.2.1]? = some finding
  needed : finding.permissions[place.2.2]? = some permission

/-- The results of a report stand at the permissions of its findings, module by module. -/
theorem numbers_results (report : ProjectReport) :
    Numbers (Prod.Lex Nat.lt (Prod.Lex Nat.lt Nat.lt))
      (fun place result => ∃ survey, report.modules[place.1]? = some survey ∧
        ∃ finding, survey.findings[place.2.1]? = some finding ∧
          ∃ permission, finding.permissions[place.2.2]? = some permission ∧
            result = ⟨survey.name, finding, permission⟩)
      (results report) :=
  Numbers.flatMap (fun survey => Numbers.flatMap (fun finding =>
    (numbers_places finding.permissions).map (Result.mk survey.name finding)) survey.findings)
    report.modules

/-- The kinds that have a rule are those of the results. -/
theorem mem_rules {report : ProjectReport} {kind : String} :
    kind ∈ rules report ↔ ∃ result ∈ results report, result.rule = kind := by
  simp only [rules, Ordered.mem_ofList, results, moduleResults, ModuleSurvey.permissions,
    List.mem_flatMap, List.mem_map, Result.rule]
  constructor
  · rintro ⟨survey, listed, permission, ⟨finding, found, needed⟩, rfl⟩
    exact ⟨_, ⟨survey, listed, finding, found, permission, needed, rfl⟩, rfl⟩
  · rintro ⟨_, ⟨survey, listed, finding, found, permission, needed, rfl⟩, rfl⟩
    exact ⟨survey, listed, permission, ⟨finding, found, needed⟩, rfl⟩

/-- There is a rule as soon as there is a result. -/
theorem rules_eq_nil_iff {report : ProjectReport} : rules report = [] ↔ results report = [] := by
  rw [List.eq_nil_iff_forall_not_mem, List.eq_nil_iff_forall_not_mem]
  constructor
  · intro none result member
    exact none result.rule (mem_rules.mpr ⟨result, member, rfl⟩)
  · intro none kind member
    obtain ⟨result, listed, -⟩ := mem_rules.mp member
    exact none result listed

theorem at?_resultsPath (report : ProjectReport) :
    (log report).at? resultsPath = some (.array ((results report).map Result.toJson)) := by
  simp [resultsPath, log, List.lookup_cons]

theorem at?_rulesPath (report : ProjectReport) :
    (log report).at? rulesPath =
      if rules report = [] then none else some (.array ((rules report).map ruleJson)) := by
  by_cases none : rules report = []
  · simp [rulesPath, log, toolJson, none, List.lookup_cons]
  · simp [rulesPath, log, toolJson, none, List.lookup_cons]

theorem at?_id (kind : String) : (ruleJson kind).at? [member "id"] = some (.string kind) := by
  simp [ruleJson]

/-- The log of a report has one result for every permission of every finding of every module, in the
order in which these are nested, and each result says what it stems from. It has rules in strictly
ascending order, which are the rules of the results, and it leaves them out if and only if there are
no results. -/
theorem log_rules_match_results (report : ProjectReport) :
    ∃ (results rules : List Json) (places : List (Nat × Nat × Nat)) (kinds : List String),
      (log report).at? resultsPath = some (.array results) ∧
      places.Pairwise (Prod.Lex Nat.lt (Prod.Lex Nat.lt Nat.lt)) ∧
      (∀ place, place ∈ places ↔
        ∃ survey finding permission, NeedsAt report place survey finding permission) ∧
      List.Forall₂ (fun place result => ∃ survey finding permission,
        NeedsAt report place survey finding permission ∧
          Reports result survey finding permission) places results ∧
      (log report).at? rulesPath = (if results.isEmpty then none else some (.array rules)) ∧
      List.Forall₂ (fun kind rule => rule.at? [member "id"] = some (.string kind)) kinds rules ∧
      kinds.Pairwise (· < ·) ∧
      ∀ kind, kind ∈ kinds ↔
        ∃ result ∈ results, result.at? [member "ruleId"] = some (.string kind) := by
  obtain ⟨places, ascending, stands, standing⟩ := numbers_results report
  refine ⟨(results report).map Result.toJson, (rules report).map ruleJson, places, rules report,
    at?_resultsPath report, ascending, fun place => ?_, ?_, ?_, ?_, ?_, fun kind => ?_⟩
  · rw [stands]
    constructor
    · rintro ⟨_, survey, module, finding, found, permission, needed, -⟩
      exact ⟨survey, finding, permission, module, found, needed⟩
    · rintro ⟨survey, finding, permission, module, found, needed⟩
      exact ⟨_, survey, module, finding, found, permission, needed, rfl⟩
  · rw [List.forall₂_map_right_iff]
    refine standing.imp ?_
    rintro place _ ⟨survey, module, finding, found, permission, needed, rfl⟩
    exact ⟨survey, finding, permission, ⟨module, found, needed⟩,
      reports_toJson survey finding permission⟩
  · rw [at?_rulesPath]
    simp only [rules_eq_nil_iff, List.isEmpty_map, List.isEmpty_iff]
  · rw [List.forall₂_map_right_iff, List.forall₂_same]
    exact fun kind _ => at?_id kind
  · exact (Ordered.ascending_ofList _).pairwise_lt
  · simp only [mem_rules, List.mem_map, exists_exists_and_eq_and, at?_ruleId, Option.some_inj,
      Json.string.injEq]

end Sarif

end GrantSurvey
