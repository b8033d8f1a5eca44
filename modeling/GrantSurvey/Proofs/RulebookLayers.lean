import GrantSurvey.Proofs.JsonReading
import GrantSurvey.Proofs.RulebookReading
import GrantSurvey.Proofs.Utf8Text
import GrantSurvey.Rulebook.Extension
import Mathlib.Data.List.Induction

/-!
# Rulebooks in layers

A rulebook that is extended by files is a stack of layers: the rulebook itself and above it those of
the files in their order. Under each key stands what the topmost layer with that key has. So a call
is looked up in all layers by its descriptor before any of them is asked about its name alone.
-/

namespace GrantSurvey.Rulebook

/-! ## Inserting -/

theorem insert_cons (first rule : Rule) (others : List Rule) :
    Rulebook.insert ⟨first :: others⟩ rule =
      if first.key = rule.key then ⟨rule :: others⟩
      else ⟨first :: (Rulebook.insert ⟨others⟩ rule).rules⟩ := by
  by_cases same : first.key = rule.key <;> simp [insert, insertRule, same]

theorem find?_insert (book : Rulebook) (rule : Rule) (key : Key) :
    (book.insert rule).find? key =
      if rule.key = key then some rule.templates else book.find? key := by
  obtain ⟨rules⟩ := book
  induction rules with
  | nil => exact find?_cons rule [] key
  | cons first others ih =>
      rw [insert_cons, find?_cons first]
      by_cases replaced : first.key = rule.key
      · rw [if_pos replaced, find?_cons, replaced]
        split <;> rfl
      · rw [if_neg replaced, find?_cons, ih]
        by_cases found : first.key = key
        · rw [if_pos found, if_pos found, if_neg fun same => replaced (found.trans same.symm)]
        · rw [if_neg found, if_neg found]

/-- A rule that is there already changes nothing. -/
theorem insert_of_find? {book : Rulebook} {rule : Rule}
    (found : book.find? rule.key = some rule.templates) : book.insert rule = book := by
  obtain ⟨rules⟩ := book
  induction rules with
  | nil => cases found
  | cons first others ih =>
      rw [find?_cons] at found
      rw [insert_cons]
      by_cases same : first.key = rule.key
      · rw [if_pos same, Option.some_inj] at found
        obtain ⟨_, _⟩ := first
        cases same
        cases found
        exact if_pos rfl
      · rw [if_neg same] at found
        rw [if_neg same, ih found]

/-! ## Overlaying -/

theorem find?_foldl_insert (book : Rulebook) {rules : List Rule} (different : (keys rules).Nodup)
    (key : Key) :
    (rules.foldl insert book).find? key = (Rulebook.find? ⟨rules⟩ key).or (book.find? key) := by
  induction rules generalizing book with
  | nil => rfl
  | cons rule rules ih =>
      obtain ⟨new, different⟩ := List.nodup_cons.mp different
      rw [List.foldl_cons, ih _ different, find?_insert, find?_cons]
      by_cases same : rule.key = key
      · subst same
        rw [if_pos rfl, if_pos rfl, find?_eq_none_iff.mpr new]
        rfl
      · rw [if_neg same, if_neg same]

/-- A rule of the upper rulebook hides the one with its key below. -/
theorem find?_overlay (book : Rulebook) {extension : Rulebook}
    (different : (keys extension.rules).Nodup) (key : Key) :
    (book.overlay extension).find? key = (extension.find? key).or (book.find? key) :=
  find?_foldl_insert book different key

theorem foldl_insert_eq {book : Rulebook} {rules : List Rule}
    (found : ∀ rule ∈ rules, book.find? rule.key = some rule.templates) :
    rules.foldl insert book = book := by
  induction rules with
  | nil => rfl
  | cons rule rules ih =>
      obtain ⟨first, others⟩ := List.forall_mem_cons.mp found
      rw [List.foldl_cons, insert_of_find? first, ih others]

/-- Overlaying twice is overlaying once. -/
theorem overlay_overlay (book : Rulebook) {extension : Rulebook}
    (different : (keys extension.rules).Nodup) :
    (book.overlay extension).overlay extension = book.overlay extension := by
  refine foldl_insert_eq fun rule member => ?_
  rw [find?_overlay book different, find?_of_mem different member, Option.some_or]

/-! ## Layers -/

/-- The last of some layers with a key has these templates under it. -/
def LastWith (layers : List Rulebook) (key : Key) (templates : List Template) : Prop :=
  ∃ before layer after, layers = before ++ layer :: after ∧ layer.find? key = some templates ∧
    ∀ later ∈ after, later.find? key = none

def Lacking (layers : List Rulebook) (key : Key) : Prop :=
  ∀ layer ∈ layers, layer.find? key = none

instance (layers : List Rulebook) (key : Key) : Decidable (Lacking layers key) :=
  inferInstanceAs (Decidable (∀ layer ∈ layers, layer.find? key = none))

abbrev Key.exact (symbol : ClassFile.MethodSymbol) : Key :=
  ⟨symbol.owner, symbol.name, some symbol.descriptor⟩

abbrev Key.anyOverload (symbol : ClassFile.MethodSymbol) : Key :=
  ⟨symbol.owner, symbol.name, none⟩

inductive Answers (layers : List Rulebook) (symbol : ClassFile.MethodSymbol) :
    List Template → Prop where
  | byDescriptor {templates : List Template} (last : LastWith layers (.exact symbol) templates) :
      Answers layers symbol templates
  | byName {templates : List Template} (lacking : Lacking layers (.exact symbol))
      (last : LastWith layers (.anyOverload symbol) templates) : Answers layers symbol templates
  | nothing (lacking : Lacking layers (.exact symbol))
      (unnamed : Lacking layers (.anyOverload symbol)) : Answers layers symbol []

theorem lastWith_concat_iff {layers : List Rulebook} {top : Rulebook} {key : Key}
    {templates : List Template} :
    LastWith (layers ++ [top]) key templates ↔
      top.find? key = some templates ∨ top.find? key = none ∧ LastWith layers key templates := by
  constructor
  · rintro ⟨before, layer, after, split, found, lacking⟩
    -- The topmost layer is the one that counts, or it comes after that.
    rcases List.eq_nil_or_concat' after with rfl | ⟨after, last, rfl⟩
    · obtain ⟨_, same⟩ := List.append_inj' split rfl
      cases same
      exact .inl found
    · rw [← List.cons_append, ← List.append_assoc] at split
      obtain ⟨rfl, same⟩ := List.append_inj' split rfl
      cases same
      obtain ⟨lacking, absent⟩ := List.forall_mem_append.mp lacking
      exact .inr ⟨absent top List.mem_cons_self, before, layer, after, rfl, found, lacking⟩
  · rintro (found | ⟨absent, before, layer, after, rfl, found, lacking⟩)
    · exact ⟨layers, top, [], rfl, found, List.forall_mem_nil _⟩
    · refine ⟨before, layer, after ++ [top], ?_, found, ?_⟩
      · rw [List.append_assoc, List.cons_append]
      · rw [List.forall_mem_append, List.forall_mem_singleton]
        exact ⟨lacking, absent⟩

theorem lastWith_singleton_iff {layer : Rulebook} {key : Key} {templates : List Template} :
    LastWith [layer] key templates ↔ layer.find? key = some templates := by
  rw [← List.nil_append [layer], lastWith_concat_iff, or_iff_left]
  rintro ⟨_, before, _, _, split, _⟩
  cases before <;> cases split

section

variable (book : Rulebook) {layers : List Rulebook}
  (different : ∀ layer ∈ layers, (keys layer.rules).Nodup)

include different

/-- Under a key stands what the last layer with the key has. -/
theorem find?_foldl_overlay_eq_some_iff (key : Key) (templates : List Template) :
    (layers.foldl overlay book).find? key = some templates ↔
      LastWith (book :: layers) key templates := by
  induction layers using List.reverseRecOn with
  | nil => exact lastWith_singleton_iff.symm
  | append_singleton layers top ih =>
      obtain ⟨below, above⟩ := List.forall_mem_append.mp different
      rw [List.foldl_append, List.foldl_cons, List.foldl_nil,
        find?_overlay _ (above top List.mem_cons_self), Option.or_eq_some_iff, ih below,
        ← List.cons_append, lastWith_concat_iff]

theorem find?_foldl_overlay_eq_none_iff (key : Key) :
    (layers.foldl overlay book).find? key = none ↔ Lacking (book :: layers) key := by
  induction layers using List.reverseRecOn with
  | nil =>
      rw [Lacking, List.forall_mem_singleton]
      rfl
  | append_singleton layers top ih =>
      obtain ⟨below, above⟩ := List.forall_mem_append.mp different
      rw [List.foldl_append, List.foldl_cons, List.foldl_nil,
        find?_overlay _ (above top List.mem_cons_self), Option.or_eq_none_iff, ih below,
        ← List.cons_append]
      simp only [Lacking, List.forall_mem_append, List.forall_mem_singleton]
      exact and_comm

theorem lookup_foldl_overlay_iff (symbol : ClassFile.MethodSymbol) (templates : List Template) :
    (layers.foldl overlay book).lookup symbol = templates ↔
      Answers (book :: layers) symbol templates := by
  have present := find?_foldl_overlay_eq_some_iff book different
  have absent := find?_foldl_overlay_eq_none_iff book different
  constructor
  · rintro rfl
    rw [lookup]
    split
    · rename_i found
      exact .byDescriptor ((present _ _).mp found)
    · rename_i lacking
      have lacking := (absent _).mp lacking
      cases named : find? (layers.foldl overlay book) (.anyOverload symbol) with
      | some templates => exact .byName lacking ((present _ _).mp named)
      | none => exact .nothing lacking ((absent _).mp named)
  · intro answers
    cases answers with
    | byDescriptor last => rw [lookup, (present _ _).mpr last]
    | byName lacking last =>
        rw [lookup, (absent _).mpr lacking, (present _ _).mpr last]
        rfl
    | nothing lacking unnamed =>
        rw [lookup, (absent _).mpr lacking, (absent _).mpr unnamed]
        rfl

/-- As soon as one layer has a rule about the method itself, such a rule answers. -/
theorem lastWith_lookup_foldl_overlay (symbol : ClassFile.MethodSymbol)
    (ruled : ¬ Lacking (book :: layers) (.exact symbol)) :
    LastWith (book :: layers) (.exact symbol) ((layers.foldl overlay book).lookup symbol) := by
  have answers := (lookup_foldl_overlay_iff book different symbol _).mp rfl
  generalize lookup (layers.foldl overlay book) symbol = templates at answers ⊢
  cases answers with
  | byDescriptor last => exact last
  | byName lacking _ => exact (ruled lacking).elim
  | nothing lacking _ => exact (ruled lacking).elim

end

theorem find?_foldl_overlay_of_lacking (book : Rulebook) {layers : List Rulebook}
    (different : ∀ layer ∈ layers, (keys layer.rules).Nodup) {key : Key}
    (lacking : Lacking layers key) :
    (layers.foldl overlay book).find? key = book.find? key := by
  induction layers generalizing book with
  | nil => rfl
  | cons layer layers ih =>
      obtain ⟨first, others⟩ := List.forall_mem_cons.mp different
      obtain ⟨absent, lacking⟩ := List.forall_mem_cons.mp lacking
      rw [List.foldl_cons, ih _ others lacking, find?_overlay book first, absent, Option.none_or]

/-! ## Extending -/

/-- The rules of a file that loads are sound. -/
theorem sound_of_loadFile {system : FileSystem} {path : String} {layer : Rulebook}
    (loads : loadFile system path = .ok layer) : Sound layer.rules := by
  obtain ⟨json, loads⟩ := exists_ofJson_of_loadFile loads
  rcases ofJson_cases path json with ⟨_, _, refused⟩ |
    ⟨_, rules, _, ⟨sound, found⟩ | ⟨_, _, _, _, _, _, _, fails⟩⟩
  · cases refused.symm.trans loads
  · cases found.symm.trans loads
    exact sound
  · cases fails.symm.trans loads

section

variable {system : FileSystem} (book : Rulebook) {path : String}

theorem extended_cons_of_ok {layer : Rulebook} (loads : loadFile system path = .ok layer)
    (others : List String) :
    extended system book (path :: others) = extended system (book.overlay layer) others := by
  rw [extended, List.foldlM_cons, loads]
  rfl

theorem extended_cons_of_error {fault : ExtensionFault}
    (fails : loadFile system path = .error fault) (others : List String) :
    extended system book (path :: others) = .error fault := by
  rw [extended, List.foldlM_cons, fails]
  rfl

end

/-- A rulebook is extended by laying the files over it. -/
theorem extended_of_forall₂ {system : FileSystem} (book : Rulebook) {paths : List String}
    {layers : List Rulebook}
    (load : List.Forall₂ (fun path layer => loadFile system path = .ok layer) paths layers) :
    extended system book paths = .ok (layers.foldl overlay book) := by
  induction load generalizing book with
  | nil => rfl
  | cons first _ ih => rw [extended_cons_of_ok book first, ih, List.foldl_cons]

theorem extended_append (system : FileSystem) (book : Rulebook) (paths others : List String) :
    extended system book (paths ++ others) =
      extended system book paths >>= fun merged => extended system merged others :=
  List.foldlM_append

/-- A file that comes twice in a row counts once. -/
theorem extended_cons_cons (system : FileSystem) (book : Rulebook) (path : String)
    (others : List String) :
    extended system book (path :: path :: others) = extended system book (path :: others) := by
  cases loads : loadFile system path with
  | error fault =>
      rw [extended_cons_of_error book loads, extended_cons_of_error book loads]
  | ok layer =>
      have once := overlay_overlay book (sound_of_loadFile loads).2
      rw [extended_cons_of_ok book loads, extended_cons_of_ok _ loads, once,
        extended_cons_of_ok book loads]

/-- The extension fails with the first file that does not load. -/
theorem extended_eq_error_iff {system : FileSystem} {book : Rulebook} {paths : List String}
    {fault : ExtensionFault} :
    extended system book paths = .error fault ↔
      ∃ before path after, paths = before ++ path :: after ∧
        (∀ earlier ∈ before, ∃ layer, loadFile system earlier = .ok layer) ∧
        loadFile system path = .error fault := by
  constructor
  · intro fails
    induction paths generalizing book with
    | nil => cases fails
    | cons path paths ih =>
        cases loads : loadFile system path with
        | error cause =>
            rw [extended_cons_of_error book loads] at fails
            exact ⟨[], path, paths, rfl, List.forall_mem_nil _, loads.trans fails⟩
        | ok layer =>
            rw [extended_cons_of_ok book loads] at fails
            obtain ⟨before, next, after, rfl, earlier, fails⟩ := ih fails
            exact ⟨path :: before, next, after, rfl,
              List.forall_mem_cons.mpr ⟨⟨layer, loads⟩, earlier⟩, fails⟩
  · rintro ⟨before, path, after, rfl, earlier, fails⟩
    induction before generalizing book with
    | nil => exact extended_cons_of_error book fails after
    | cons first before ih =>
        obtain ⟨⟨layer, loads⟩, earlier⟩ := List.forall_mem_cons.mp earlier
        rw [List.cons_append, extended_cons_of_ok book loads]
        exact ih earlier

/-- The extension succeeds if every file loads, and fails if one does not. -/
theorem exists_extended_iff {system : FileSystem} {book : Rulebook} {paths : List String} :
    (∃ merged, extended system book paths = .ok merged) ↔
      ∀ path ∈ paths, ∃ layer, loadFile system path = .ok layer := by
  induction paths generalizing book with
  | nil => exact iff_of_true ⟨book, rfl⟩ (List.forall_mem_nil _)
  | cons path paths ih =>
      rw [List.forall_mem_cons]
      cases loads : loadFile system path with
      | error fault => simp [extended_cons_of_error book loads]
      | ok layer => simp [extended_cons_of_ok book loads, ih]

theorem different_of_forall₂ {system : FileSystem} {paths : List String} {layers : List Rulebook}
    (load : List.Forall₂ (fun path layer => loadFile system path = .ok layer) paths layers) :
    ∀ layer ∈ layers, (keys layer.rules).Nodup := by
  intro layer member
  obtain ⟨path, _, loads⟩ := Outcome.exists_of_forall₂ load.flip member
  exact (sound_of_loadFile loads).2

/-- A call is looked up in the layers by its descriptor, from the last one down, and then likewise
by its name alone. So a rule about every overload does not hide one about the overload in question,
and what the files do not mention stays. Files count in their order, whether they come at once or in
two lists, and twice in a row is once. The extension fails with the first file that does not
load. -/
theorem extended_answers_by_layers (system : FileSystem) (book : Rulebook) (paths : List String) :
    (∀ layers, List.Forall₂ (fun path layer => loadFile system path = .ok layer) paths layers →
      ∃ merged, extended system book paths = .ok merged ∧
        (∀ symbol templates, merged.lookup symbol = templates ↔
          Answers (book :: layers) symbol templates) ∧
        (∀ symbol, ¬ Lacking (book :: layers) (.exact symbol) →
          LastWith (book :: layers) (.exact symbol) (merged.lookup symbol)) ∧
        (∀ key, Lacking layers key → merged.find? key = book.find? key) ∧
        ∀ symbol, Lacking layers (.exact symbol) → Lacking layers (.anyOverload symbol) →
          merged.lookup symbol = book.lookup symbol) ∧
      (∀ others, extended system book (paths ++ others) =
        extended system book paths >>= fun merged => extended system merged others) ∧
      (∀ path others, extended system book (paths ++ path :: path :: others) =
        extended system book (paths ++ path :: others)) ∧
      ((∃ merged, extended system book paths = .ok merged) ↔
        ∀ path ∈ paths, ∃ layer, loadFile system path = .ok layer) ∧
      ∀ fault, extended system book paths = .error fault ↔
        ∃ before path after, paths = before ++ path :: after ∧
          (∀ earlier ∈ before, ∃ layer, loadFile system earlier = .ok layer) ∧
          loadFile system path = .error fault := by
  refine ⟨fun layers load => ?_, extended_append system book paths, fun path others => ?_,
    exists_extended_iff, fun fault => extended_eq_error_iff⟩
  · have different := different_of_forall₂ load
    have kept (key : Key) (lacking : Lacking layers key) :=
      find?_foldl_overlay_of_lacking book different lacking
    refine ⟨layers.foldl overlay book, extended_of_forall₂ book load,
      lookup_foldl_overlay_iff book different, lastWith_lookup_foldl_overlay book different, kept,
      fun symbol unruled unnamed => ?_⟩
    rw [lookup, lookup, kept _ unruled, kept _ unnamed]
  · rw [extended_append, extended_append]
    simp only [extended_cons_cons]

def filed (lower upper : String) : FileSystem :=
  ⟨.directory [("q", .file (Utf8.bytes lower)), ("r", .file (Utf8.bytes upper))], []⟩

theorem readText_of_resolve {system : FileSystem} {path text : String} (place : List String)
    (fit : FileSystem.checkPath path = .ok ()) (resolved : system.resolve path = .ok place)
    (there : system.root.find? place = some (.file (Utf8.bytes text))) :
    system.readText path = .ok text := by
  have found : system.find path = .ok (.file (Utf8.bytes text)) := by
    simp only [FileSystem.find, fit, resolved, Outcome.ok_bind, there]
  have decoded : Utf8.text? (Utf8.bytes text) = some text := by
    rw [Utf8.text?, Utf8.bytes, Utf8.decode?_encode, Option.map_some, String.ofList_toList]
  rw [FileSystem.readText, found, Outcome.ok_bind, FileSystem.Node.text, FileSystem.Node.bytes,
    Outcome.ok_bind, decoded]

theorem readText_filed (lower upper : String) :
    (filed lower upper).readText "/q" = .ok lower ∧
      (filed lower upper).readText "/r" = .ok upper := by
  have short : ¬ FileSystem.nameLimit < "q".utf8ByteSize ∧
      ¬ FileSystem.nameLimit < "r".utf8ByteSize := by decide
  have parts : Path.parts "/q" = ["", "q"] ∧ Path.parts "/r" = ["", "r"] := ⟨rfl, rfl⟩
  constructor
  · refine readText_of_resolve ["q"] rfl ?_ rfl
    change FileSystem.walk _ _ _ (Path.parts "/q") = _
    simp [filed, FileSystem.walk, FileSystem.start, FileSystem.Node.find?, Path.isAbsolute,
      Path.isIdle, parts, short]
  · have behind : List.lookup "r" [("q", FileSystem.Node.file (Utf8.bytes lower)),
        ("r", .file (Utf8.bytes upper))] = some (.file (Utf8.bytes upper)) := rfl
    refine readText_of_resolve ["r"] rfl ?_ rfl
    change FileSystem.walk _ _ _ (Path.parts "/r") = _
    simp [filed, FileSystem.walk, FileSystem.start, FileSystem.Node.find?, Path.isAbsolute,
      Path.isIdle, parts, short, behind]

/-- A file with the compact text of a value loads as the value does. -/
theorem loadFile_compact {system : FileSystem} {path : String} {json : Json} {book : Rulebook}
    (reads : system.readText path = .ok json.compact)
    (readable : Json.isReadable Json.Parser.maxDepth json) (loads : ofJson path json = .ok book) :
    loadFile system path = .ok book := by
  rw [loadFile, reads]
  simp only [load, Json.parse_compact readable, loads]
  rfl

/-- A rule about one overload below, then a file with a rule about all of them, and above it one
with a rule about another overload. -/
theorem extended_answers_by_layers_overloads :
    let entry (others : List (String × Json)) (kind : String) : Json := .object (others ++
      [("name", .string "m"), ("owner", .string "F"), ("permissions", .array [.object [
        ("kind", .string kind), ("target", .object [("literal", .string "a")])]])])
    let lower : Json := .object [("entries", .array [entry [] "P"])]
    let upper : Json :=
      .object [("entries", .array [entry [("descriptor", .string "()V")] "R"])]
    let system := filed lower.compact upper.compact
    let needs (kind : String) : List Template := [⟨kind, .literal "a", ""⟩]
    let book : Rulebook := ⟨[⟨⟨"F", "m", some "(I)V"⟩, needs "Q"⟩]⟩
    let layers : List Rulebook :=
      [⟨[⟨⟨"F", "m", none⟩, needs "P"⟩]⟩, ⟨[⟨⟨"F", "m", some "()V"⟩, needs "R"⟩]⟩]
    List.Forall₂ (fun path layer => loadFile system path = .ok layer) ["/q", "/r"] layers ∧
      ∃ merged, extended system book ["/q", "/r"] = .ok merged ∧
        merged.lookup ⟨"F", "m", "(I)V"⟩ = needs "Q" ∧
        merged.lookup ⟨"F", "m", "()V"⟩ = needs "R" ∧
        merged.lookup ⟨"F", "m", "(J)V"⟩ = needs "P" ∧
        merged.lookup ⟨"F", "n", "()V"⟩ = [] := by
  intro entry lower upper system needs book layers
  obtain ⟨first, second⟩ := readText_filed lower.compact upper.compact
  have below : loadFile system "/q" = .ok ⟨[⟨⟨"F", "m", none⟩, needs "P"⟩]⟩ :=
    loadFile_compact first rfl rfl
  have above : loadFile system "/r" = .ok ⟨[⟨⟨"F", "m", some "()V"⟩, needs "R"⟩]⟩ := by
    have sound : (Schema.file upper).isEmpty = true := by decide
    have reads : rules? upper = some [⟨⟨"F", "m", some "()V"⟩, needs "R"⟩] := rfl
    refine loadFile_compact second rfl ?_
    simp only [ofJson, sound, reads, List.foldlM_cons, enter, Descriptor.validate, parse_procedure]
    rfl
  have load : List.Forall₂ (fun path layer => loadFile system path = .ok layer) ["/q", "/r"]
      layers := .cons below (.cons above .nil)
  obtain ⟨layered, _⟩ := extended_answers_by_layers system book ["/q", "/r"]
  obtain ⟨merged, joined, answers, _⟩ := layered layers load
  refine ⟨load, merged, joined, (answers _ _).mpr ?_, (answers _ _).mpr ?_, (answers _ _).mpr ?_,
    (answers _ _).mpr ?_⟩
  · exact .byDescriptor ⟨[], book, layers, rfl, rfl, by decide⟩
  · exact .byDescriptor ⟨[book, _], _, [], rfl, rfl, by decide⟩
  · exact .byName (by decide) ⟨[book], _, [_], rfl, rfl, by decide⟩
  · exact .nothing (by decide) (by decide)

end GrantSurvey.Rulebook
