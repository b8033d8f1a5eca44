import GrantSurvey.Proofs.JsonText
import GrantSurvey.Report.Writing

/-!
# What a JSON report tells

The JSON form of a report holds everything that was found: two reports with one text are equal. An
unknown line is written as a number that no line has, links add a member and take none away, and the
lists of requirements, labels and statements only repeat what the findings say.
-/

namespace GrantSurvey

/-! ## Values with one JSON form -/

/-- Lists are equal if their elements are written alike only where they are equal. The two lists may
be written in different ways. -/
theorem eq_of_map_eq_map {α β : Type} {write write' : α → β}
    (determined : ∀ first second, write first = write' second → first = second)
    {list other : List α} (same : list.map write = other.map write') : list = other := by
  rw [← List.forall₂_eq_eq_eq, List.forall₂_map_left_iff, List.forall₂_map_right_iff] at same
  rw [← List.forall₂_eq_eq_eq]
  exact same.imp determined

namespace Json

theorem natRepr_inj {first second : Nat} (same : first.repr = second.repr) : first = second := by
  have digits := congrArg String.toList same
  rw [Nat.toList_repr, Nat.toList_repr] at digits
  calc first = Nat.ofDigitChars 10 (Nat.toDigits 10 first) 0 :=
        (Nat.ofDigitChars_toDigits (by decide) (by decide)).symm
    _ = Nat.ofDigitChars 10 (Nat.toDigits 10 second) 0 := by rw [digits]
    _ = second := Nat.ofDigitChars_toDigits (by decide) (by decide)

/-- A minus sign is no digit. -/
theorem natRepr_ne_minus (number : Nat) (text : String) : number.repr ≠ "-" ++ text := by
  intro same
  have digits := congrArg String.toList same
  rw [Nat.toList_repr, String.toList_append] at digits
  have minus : '-' ∈ Nat.toDigits 10 number := by
    rw [digits]
    exact List.mem_append_left _ (by decide)
  exact absurd (Nat.isDigit_of_mem_toDigits (by decide) (by decide) minus) (by decide)

theorem ofNat_inj {first second : Nat} (same : ofNat first = ofNat second) : first = second :=
  natRepr_inj (number.inj same)

theorem ofInt_inj {first second : Int} (same : ofInt first = ofInt second) : first = second := by
  have same : first.repr = second.repr := number.inj same
  rw [Int.repr_eq_if, Int.repr_eq_if] at same
  split_ifs at same with positive positive' positive'
  · have := natRepr_inj same
    omega
  · exact (natRepr_ne_minus _ _ same).elim
  · exact (natRepr_ne_minus _ _ same.symm).elim
  · have := natRepr_inj (String.append_right_inj "-" |>.mp same)
    omega

theorem ofStrings_inj {first second : List String} (same : ofStrings first = ofStrings second) :
    first = second :=
  eq_of_map_eq_map (fun _ _ => string.inj) (array.inj same)

theorem ofString?_inj {first second : Option String} (same : ofString? first = ofString? second) :
    first = second := by
  cases first <;> cases second <;> simp_all [ofString?]

end Json

theorem Scope.label_inj {first second : Scope} (same : first.label = second.label) :
    first = second := by
  cases first <;> cases second <;> simp_all [Scope.label]

/-- The number for an unknown line is the number of no line. -/
theorem Finding.line_eq_of_lineNumber_eq {first second : Finding}
    (same : first.lineNumber = second.lineNumber) : first.line = second.line := by
  unfold lineNumber at same
  cases line : first.line <;> cases line' : second.line <;> simp only [line, line'] at same
  · rfl
  · omega
  · omega
  · rw [Int.ofNat.inj same]

theorem Diagnostic.toJson_inj {first second : Diagnostic} (same : first.toJson = second.toJson) :
    first = second := by
  cases first <;> cases second <;> simp_all [Diagnostic.toJson, Diagnostic.kind]

namespace Report

theorem permissionJson_inj {first second : Permission}
    (same : permissionJson first = permissionJson second) : first = second := by
  cases first
  cases second
  simp_all [permissionJson]

/-- Whether findings are linked, and to what, does not matter. -/
theorem findingJson_inj {base base' : Option String} {first second : Finding}
    (same : findingJson base first = findingJson base' second) : first = second := by
  simp only [findingJson, Json.object.injEq, List.cons_append, List.cons.injEq, Prod.mk.injEq,
    Json.string.injEq, Json.array.injEq, true_and] at same
  obtain ⟨className, method, descriptor, line, permissions, -⟩ := same
  have line := Finding.line_eq_of_lineNumber_eq (Json.ofInt_inj line)
  have permissions := eq_of_map_eq_map (fun _ _ => permissionJson_inj) permissions
  cases first
  cases second
  simp_all

theorem moduleJson_inj {base base' : Option String} {first second : ModuleSurvey}
    (same : moduleJson base first = moduleJson base' second) : first = second := by
  simp only [moduleJson, Json.object.injEq, List.cons.injEq, Prod.mk.injEq, Json.string.injEq,
    Json.array.injEq, true_and] at same
  obtain ⟨name, scope, findings, -⟩ := same
  have scope := Scope.label_inj scope
  have findings := eq_of_map_eq_map (fun _ _ => findingJson_inj) findings
  cases first
  cases second
  simp_all

theorem json_inj {base base' : Option String} {first second : ProjectReport}
    (same : json first base = json second base') : first = second := by
  simp only [json, Json.object.injEq, List.cons.injEq, Prod.mk.injEq, Json.array.injEq,
    true_and, and_true] at same
  obtain ⟨project, classCount, modules, policy, dependencyPolicy, diagnostics⟩ := same
  have project := Json.ofString?_inj project
  have classCount := Json.ofNat_inj classCount
  have modules := eq_of_map_eq_map (fun _ _ => moduleJson_inj) modules
  have policy := Json.ofStrings_inj policy
  have dependencyPolicy := Json.ofStrings_inj dependencyPolicy
  have diagnostics := eq_of_map_eq_map (fun _ _ => Diagnostic.toJson_inj) diagnostics
  obtain ⟨_, _, ⟨_⟩, ⟨_⟩, _, _⟩ := first
  obtain ⟨_, _, ⟨_⟩, ⟨_⟩, _, _⟩ := second
  simp_all

/-! ## The text of a report -/

theorem proper_array_map {α : Type} {write : α → Json} (proper : ∀ value, (write value).Proper)
    (values : List α) : (Json.array (values.map write)).Proper := by
  refine .array fun item member => ?_
  obtain ⟨value, _, rfl⟩ := List.mem_map.mp member
  exact proper value

theorem proper_ofStrings (values : List String) : (Json.ofStrings values).Proper :=
  proper_array_map Json.Proper.string values

theorem proper_ofString? (value : Option String) : (Json.ofString? value).Proper := by
  cases value with
  | none => exact .null
  | some value => exact .string value

theorem proper_permissionJson (permission : Permission) : (permissionJson permission).Proper :=
  .object (by simp [Json.Proper.string])

theorem proper_requirementJson (requirement : Requirement) :
    (requirementJson requirement).Proper :=
  .object (by simp [Json.Proper.string])

theorem proper_findingJson (base : Option String) (finding : Finding) :
    (findingJson base finding).Proper := by
  have line : (Json.ofInt finding.lineNumber).Proper := .number (Json.numeral_intRepr _)
  refine .object ?_
  rw [List.forall_mem_append]
  constructor
  · simp [Json.Proper.string, line, proper_array_map proper_permissionJson, proper_ofStrings]
  · split <;> simp [Json.Proper.string]

theorem proper_moduleJson (base : Option String) (survey : ModuleSurvey) :
    (moduleJson base survey).Proper :=
  .object (by simp [Json.Proper.string, proper_array_map (proper_findingJson _),
    proper_array_map proper_requirementJson, proper_ofStrings])

theorem proper_diagnosticJson (diagnostic : Diagnostic) : diagnostic.toJson.Proper := by
  cases diagnostic <;> exact .object (by simp [Json.Proper.string])

theorem proper_json (report : ProjectReport) (base : Option String) :
    (json report base).Proper := by
  have classCount : (Json.ofNat report.classCount).Proper := .number (Json.numeral_natRepr _)
  exact .object (by simp [classCount, proper_ofString?, proper_array_map (proper_moduleJson _),
    proper_ofStrings, proper_array_map proper_diagnosticJson])

theorem jsonText_inj {base base' : Option String} {first second : ProjectReport}
    (same : jsonText first base = jsonText second base') : first = second := by
  have texts : (json first base).pretty.toList ++ ['\n'] =
      (json second base').pretty.toList ++ ['\n'] := by
    simpa [jsonText] using congrArg String.toList same
  have ends : Json.Ends ['\n'] := by simp [Json.Ends]
  exact json_inj ((proper_json first base).tells (proper_json second base') 0 _ _ ends ends texts).1

end Report

/-- Two reports are written as the same JSON text only if they are equal in every part, with or
without links. -/
theorem ProjectReport.text_json_eq_iff (first second : ProjectReport) (perModule perModule' : Bool)
    (base : Option String) :
    first.text ⟨.json, perModule, base⟩ = second.text ⟨.json, perModule', base⟩ ↔
      first = second := by
  constructor
  · exact Report.jsonText_inj
  · rintro rfl
    rfl

end GrantSurvey
