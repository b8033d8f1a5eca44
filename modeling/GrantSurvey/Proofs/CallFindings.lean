import GrantSurvey.Proofs.PatternTokens
import GrantSurvey.Proofs.RulebookContents
import GrantSurvey.Proofs.StableOrder
import GrantSurvey.Survey

/-!
# The findings of a class

The findings of a class are its calls that a rulebook has templates for, one finding a call. They
come in the one order that ascends by line and keeps calls of one line as they stand in the class.
-/

namespace GrantSurvey

open ClassFile

/-! ## Call sites -/

/-- A place in a method at which another is called: the number of the instruction, the instruction
itself, and what it calls. -/
structure CallSite where
  method : Method
  index : Nat
  instruction : Instruction
  kind : CallKind
  callee : MethodSymbol
  deriving DecidableEq, Repr

namespace CallSite

def at? (method : Method) (place : Instruction × Nat) : Option CallSite :=
  match place.1.effect with
  | .invoke kind callee =>
      some { method, index := place.2, instruction := place.1, kind, callee }
  | _ => none

def line (site : CallSite) : Option Nat :=
  site.method.lineAt site.instruction.offset

def arguments (site : CallSite) : List (Option Literal) :=
  Call.literalArguments (site.method.instructions.take site.index).reverse site.instruction
    site.callee.descriptor

def call (site : CallSite) : Call where
  callee := site.callee
  kind := site.kind
  offset := site.instruction.offset
  line := site.line
  arguments := site.arguments

end CallSite

def ClassFile.Method.callSites (method : Method) : List CallSite :=
  method.instructions.zipIdx.filterMap (CallSite.at? method)

def ClassFile.callSites (classFile : ClassFile) : List CallSite :=
  classFile.methods.flatMap Method.callSites

/-- A walk comes to the call at an instruction when it has passed all those before it. -/
theorem CallWalk.callAt?_eq {method : Method} {passed ahead : List Instruction}
    {instruction : Instruction}
    (split : method.instructions = passed.reverse ++ instruction :: ahead) :
    callAt? method.lines passed instruction =
      (CallSite.at? method (instruction, passed.length)).map CallSite.call := by
  have before : (method.instructions.take passed.length).reverse = passed := by
    rw [split, ← List.length_reverse, List.take_left, List.reverse_reverse]
  simp only [callAt?, CallSite.at?]
  cases instruction.effect with
  | invoke kind callee =>
      simp only [Option.map_some, CallSite.call, CallSite.line, CallSite.arguments, before]
      rfl
  | _ => rfl

theorem CallWalk.restFrom_eq {method : Method} {passed ahead : List Instruction}
    (split : method.instructions = passed.reverse ++ ahead) :
    restFrom method.lines passed ahead =
      ((ahead.zipIdx passed.length).filterMap (CallSite.at? method)).map CallSite.call := by
  induction ahead generalizing passed with
  | nil => rfl
  | cons instruction ahead ih =>
      have next : method.instructions = (instruction :: passed).reverse ++ ahead := by
        rw [split, List.reverse_cons, List.append_assoc, List.singleton_append]
      rw [restFrom, callAt?_eq split, ih next, List.zipIdx_cons, List.filterMap_cons,
        List.length_cons]
      cases CallSite.at? method (instruction, passed.length) <;> rfl

/-- The walk over a method meets its call sites, each once and in their order. -/
theorem ClassFile.Method.calls_eq (method : Method) :
    method.calls = method.callSites.map CallSite.call :=
  CallWalk.restFrom_eq rfl

theorem ClassFile.Method.method_of_mem_callSites {method : Method} {site : CallSite}
    (member : site ∈ method.callSites) : site.method = method := by
  obtain ⟨place, _, found⟩ := List.mem_filterMap.mp member
  simp only [CallSite.at?] at found
  split at found
  · cases found
    rfl
  · cases found

/-! ## What a finding reports -/

namespace Rulebook

/-- Does a rulebook have a template for a method, under its descriptor or under any descriptor? -/
def isSensitive (book : Rulebook) (symbol : MethodSymbol) : Bool :=
  !((book.find? ⟨symbol.owner, symbol.name, some symbol.descriptor⟩).getD []).isEmpty ||
    !((book.find? ⟨symbol.owner, symbol.name, none⟩).getD []).isEmpty

/-- The templates that a rulebook has for a method. Those for any descriptor count only if there
are none for the method's own. -/
inductive Demands (book : Rulebook) (symbol : MethodSymbol) : List Template → Prop where
  | exactly {templates : List Template}
      (found : book.find? ⟨symbol.owner, symbol.name, some symbol.descriptor⟩ = some templates) :
      Demands book symbol templates
  | anyDescriptor {templates : List Template}
      (absent : book.find? ⟨symbol.owner, symbol.name, some symbol.descriptor⟩ = none)
      (found : book.find? ⟨symbol.owner, symbol.name, none⟩ = some templates) :
      Demands book symbol templates

structure Template.Describes (arguments : List (Option Literal)) (template : Template)
    (permission : Permission) : Prop where
  kind : permission.kind = template.kind
  target : template.target.Resolves arguments permission.target
  actions : permission.actions = template.actions

theorem Template.describes_iff {arguments : List (Option Literal)} {template : Template}
    {permission : Permission} :
    template.Describes arguments permission ↔ template.resolve arguments = permission := by
  constructor
  · intro describes
    cases permission with
    | mk kind target actions =>
        obtain ⟨rfl, resolves, rfl⟩ := describes
        rw [Template.resolve, Target.resolves_iff.mp resolves]
  · rintro rfl
    exact ⟨rfl, Target.resolves_iff.mpr rfl, rfl⟩

theorem Demands.lookup_eq {book : Rulebook} {symbol : MethodSymbol} {templates : List Template}
    (demands : book.Demands symbol templates) : book.lookup symbol = templates := by
  cases demands with
  | exactly found => rw [lookup, found]
  | anyDescriptor absent found => rw [lookup, absent, found]; rfl

/-- A filled rulebook that has templates for a method under either key demands them. -/
theorem Filled.exists_demands_iff {book : Rulebook} (filled : book.Filled) {symbol : MethodSymbol} :
    (∃ templates, book.Demands symbol templates) ↔ book.lookup symbol ≠ [] := by
  constructor
  · rintro ⟨templates, demands⟩
    rw [demands.lookup_eq]
    cases demands with
    | exactly found => exact filled.find?_ne_nil found
    | anyDescriptor _ found => exact filled.find?_ne_nil found
  · intro demanded
    rw [lookup] at demanded
    cases own : book.find? ⟨symbol.owner, symbol.name, some symbol.descriptor⟩ with
    | some templates => exact ⟨templates, .exactly own⟩
    | none =>
        cases any : book.find? ⟨symbol.owner, symbol.name, none⟩ with
        | some templates => exact ⟨templates, .anyDescriptor own any⟩
        | none => simp [own, any] at demanded

theorem Filled.isSensitive_iff {book : Rulebook} (filled : book.Filled) {symbol : MethodSymbol} :
    book.isSensitive symbol = true ↔ book.lookup symbol ≠ [] := by
  rw [isSensitive, lookup]
  cases own : book.find? ⟨symbol.owner, symbol.name, some symbol.descriptor⟩ with
  | none => simp
  | some templates =>
      -- A list under the method's own descriptor is not empty, so it never hides the other one.
      have some := filled.find?_ne_nil own
      simp [some]

end Rulebook

/-- A finding reports a call site: it stands in the method of the call, and has one permission for
each of the demanded templates, and one statement for each of the permissions, in their order. -/
structure Finding.Reports (book : Rulebook) (className : String) (site : CallSite)
    (finding : Finding) : Prop where
  className : finding.className = className
  method : finding.method = site.method.name
  descriptor : finding.descriptor = site.method.descriptor
  line : finding.line = site.line
  permissions : ∃ templates, book.Demands site.callee templates ∧
    List.Forall₂ (Rulebook.Template.Describes site.arguments) templates finding.permissions
  policy : finding.policy = finding.permissions.map Permission.grant

namespace Finding

theorem ofCall?_eq_some_iff {book : Rulebook} {className : String} {site : CallSite}
    {finding : Finding} :
    ofCall? book className site.method site.call = some finding ↔
      book.lookup site.callee ≠ [] ∧
        finding = ⟨className, site.method.name, site.method.descriptor, site.line,
          (book.lookup site.callee).map (·.resolve site.arguments)⟩ := by
  simp only [ofCall?, Rulebook.require, Rulebook.permissions, CallSite.call, List.isEmpty_iff,
    List.map_eq_nil_iff]
  split
  · rename_i none
    simp [none]
  · rename_i some
    simp [some, eq_comm]

/-- What a filled rulebook finds at a call site is the one report of it. -/
theorem reports_iff {book : Rulebook} (filled : book.Filled) {className : String}
    {site : CallSite} {finding : Finding} :
    Reports book className site finding ↔
      ofCall? book className site.method site.call = some finding := by
  rw [ofCall?_eq_some_iff]
  constructor
  · intro reports
    obtain ⟨templates, demands, described⟩ := reports.permissions
    have resolved : templates.map (·.resolve site.arguments) = finding.permissions := by
      rw [← List.forall₂_eq_eq_eq, List.forall₂_map_left_iff]
      exact described.imp fun _ _ => Rulebook.Template.describes_iff.mp
    refine ⟨filled.exists_demands_iff.mp ⟨templates, demands⟩, ?_⟩
    rw [demands.lookup_eq, resolved, ← reports.className, ← reports.method, ← reports.descriptor,
      ← reports.line]
  · rintro ⟨demanded, rfl⟩
    obtain ⟨templates, demands⟩ := filled.exists_demands_iff.mpr demanded
    refine ⟨rfl, rfl, rfl, rfl, ⟨templates, demands, ?_⟩, rfl⟩
    rw [demands.lookup_eq, List.forall₂_map_right_iff, List.forall₂_same]
    exact fun _ _ => Rulebook.Template.describes_iff.mpr rfl

theorem isSome_ofCall? {book : Rulebook} (filled : book.Filled) (className : String)
    (site : CallSite) :
    (ofCall? book className site.method site.call).isSome = book.isSensitive site.callee := by
  rw [Bool.eq_iff_iff, filled.isSensitive_iff, Option.isSome_iff_exists]
  simp [ofCall?_eq_some_iff]

/-- Where a step finds something on just the values that are kept, its results on these are all its
results. -/
theorem forall₂_filter_iff {α β : Type} {f : α → Option β} {keeps : α → Bool}
    (same : ∀ value, (f value).isSome = keeps value) {values : List α} {results : List β} :
    List.Forall₂ (fun value result => f value = some result) (values.filter keeps) results ↔
      results = values.filterMap f := by
  induction values generalizing results with
  | nil => exact List.forall₂_nil_left_iff
  | cons value values ih =>
      rw [List.filter_cons, ← same, List.filterMap_cons]
      cases found : f value with
      | none => exact ih
      | some result => simp [List.forall₂_cons_left_iff, found, ih]

end Finding

namespace ClassFile

def scan (book : Rulebook) (classFile : ClassFile) : List Finding :=
  classFile.callSites.filterMap fun site =>
    Finding.ofCall? book classFile.name site.method site.call

theorem findings_eq (book : Rulebook) (classFile : ClassFile) :
    classFile.findings book = Finding.orderByLine (classFile.scan book) := by
  have ofMethod : Finding.ofMethod book classFile.name = fun method =>
      method.callSites.filterMap fun site =>
        Finding.ofCall? book classFile.name site.method site.call := by
    funext method
    rw [Finding.ofMethod, method.calls_eq, List.filterMap_map]
    refine List.filterMap_congr fun site member => ?_
    rw [Method.method_of_mem_callSites member, Function.comp_apply]
  rw [findings, scan, callSites, List.filterMap_flatMap, ofMethod]

/-- The scan has one report of each call site that the rulebook has templates for. -/
theorem forall₂_reports_iff {book : Rulebook} (filled : book.Filled) (classFile : ClassFile)
    (reports : List Finding) :
    List.Forall₂ (Finding.Reports book classFile.name)
        (classFile.callSites.filter fun site => book.isSensitive site.callee) reports ↔
      reports = classFile.scan book := by
  have same : Finding.Reports book classFile.name = fun site finding =>
      Finding.ofCall? book classFile.name site.method site.call = some finding := by
    funext site finding
    exact propext (Finding.reports_iff filled)
  rw [same]
  exact Finding.forall₂_filter_iff (Finding.isSome_ofCall? filled classFile.name)

/-- For each call site that a rulebook has templates for there is one finding, and there is no other
finding. The findings are ordered by line, stably, which only one list is. -/
theorem findings_of_callSites {book : Rulebook} (attainable : book.Attainable)
    (classFile : ClassFile) :
    ∃ scan : List Finding,
      (∀ reports, List.Forall₂ (Finding.Reports book classFile.name)
        (classFile.callSites.filter fun site => book.isSensitive site.callee) reports ↔
          reports = scan) ∧
      ∀ ordered, StablyOrdered Finding.lineLe Finding.line scan ordered ↔
        ordered = classFile.findings book := by
  refine ⟨classFile.scan book, forall₂_reports_iff attainable.filled classFile, fun ordered => ?_⟩
  rw [findings_eq]
  have stable := Finding.stablyOrdered_orderByLine (classFile.scan book)
  constructor
  · exact stable.unique Finding.isRanking_line
  · rintro rfl
    exact stable

/-- Two methods whose calls stand out of line order, one call without a line and one without a rule.
Over the built-in rules lie one for one descriptor and one for any, with a placeholder. -/
theorem findings_of_callSites_two_methods :
    let permission (kind : String) (target : Json) : Json :=
      .object [("kind", .string kind), ("target", target)]
    let literal (text : String) : Json := .object [("literal", .string text)]
    let json : Json := .object [("entries", .array [
      .object [("owner", .string "F"), ("name", .string "open"), ("descriptor", .string "()V"),
        ("permissions", .array [permission "P" (literal "a"), permission "Q" (literal "b")])],
      .object [("owner", .string "F"), ("name", .string "open"),
        ("permissions", .array [permission "P" (.object [("substitute", .object [
          ("pattern", .string "\x7b0\x7d"), ("wildcard", .string "*")])])])]])]
    let extension : Rulebook := ⟨[
      ⟨⟨"F", "open", some "()V"⟩, [⟨"P", .literal "a", ""⟩, ⟨"Q", .literal "b", ""⟩]⟩,
      ⟨⟨"F", "open", none⟩, [⟨"P", .substitute "\x7b0\x7d" "*", ""⟩]⟩]⟩
    let book := Rulebook.builtin.overlay extension
    let classFile : ClassFile := ⟨"A", [
      ⟨"m", "()V", [⟨0, .constant (.text "t"), false⟩,
        ⟨2, .invoke .static ⟨"F", "open", "(LS;)V"⟩, false⟩,
        ⟨5, .invoke .static ⟨"F", "open", "()V"⟩, false⟩], [⟨0, 9⟩, ⟨5, 4⟩]⟩,
      ⟨"n", "()V", [⟨0, .invoke .static ⟨"F", "close", "()V"⟩, false⟩,
        ⟨3, .invoke .virtual ⟨"java/io/File", "delete", "()Z"⟩, false⟩], []⟩]⟩
    Rulebook.ofJson "rules" json = .ok extension ∧ book.Attainable ∧
      ∃ scan : List Finding, scan.length = 3 ∧
        ∀ ordered, StablyOrdered Finding.lineLe Finding.line scan ordered ↔
          ordered = classFile.findings book := by
  intro permission literal json extension book classFile
  have loads : Rulebook.ofJson "rules" json = .ok extension := by
    have sound : (Rulebook.Schema.file json).isEmpty = true := by decide
    have reads : Rulebook.rules? json = some extension.rules := rfl
    simp only [Rulebook.ofJson, sound, reads, extension, List.foldlM_cons, Rulebook.enter,
      Descriptor.validate, Rulebook.parse_procedure]
    rfl
  have attainable : book.Attainable := .overlaid .builtin (.loaded loads)
  have three : (classFile.callSites.filter fun site => book.isSensitive site.callee).length = 3 :=
    rfl
  obtain ⟨scan, reports, ordered⟩ := findings_of_callSites attainable classFile
  exact ⟨loads, attainable, scan, ((reports scan).mpr rfl).length_eq ▸ three, ordered⟩

end ClassFile

end GrantSurvey
