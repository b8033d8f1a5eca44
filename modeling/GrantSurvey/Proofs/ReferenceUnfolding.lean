import GrantSurvey.Proofs.ReferenceGraph
import Mathlib.Order.WellFounded

/-!
# Expansion and unfolding

Arguments have a plain meaning that knows of no stack: a path stands for itself, and a reference
stands for all that its file lists. Expanding with a stack gives that meaning whenever there is one.
It reports a circle exactly when plain unfolding would go on for ever.
-/

namespace GrantSurvey.ArgumentFile

open Relation

variable {source : TextSource} {stack : List (List String)} {base reference : String}
  {items : List Item}

/-! ## Plain meanings -/

/-- What items stand for, in their order. A reference from a base stands for what the file that it
leads to lists, taken from the directory of that file. -/
inductive Means (source : TextSource) : String → List Item → List String → Prop where
  | nil {base : String} : Means source base [] []
  | path {base text : String} {items : List Item} {paths : List String}
      (rest : Means source base items paths) :
      Means source base (.path text :: items) (text :: paths)
  | reference {base reference content : String} {place : List String} {items : List Item}
      {listed paths : List String} (leads : Leads source base reference place)
      (reads : source.text place = .ok content)
      (nested : Means source (Listing.directory place)
        (Item.ofFile (Listing.directory place) content) listed)
      (rest : Means source base items paths) :
      Means source base (.reference reference :: items) (listed ++ paths)

theorem Means.unique {paths others : List String} (means : Means source base items paths)
    (means' : Means source base items others) : paths = others := by
  induction means generalizing others with
  | nil =>
      cases means'
      rfl
  | path _ ih =>
      cases means' with
      | path rest => rw [ih rest]
  | reference leads reads _ _ nestedIh restIh =>
      cases means' with
      | reference leads' reads' nested rest =>
          cases leads.unique leads'
          cases Except.ok.inj (reads.symm.trans reads')
          rw [nestedIh nested, restIh rest]

/-- Items in two parts mean what the parts mean. -/
theorem means_append_iff {others : List Item} {paths : List String} :
    Means source base (items ++ others) paths ↔
      ∃ firsts seconds, Means source base items firsts ∧ Means source base others seconds ∧
        paths = firsts ++ seconds := by
  constructor
  · intro means
    induction items generalizing paths with
    | nil => exact ⟨[], paths, .nil, means, rfl⟩
    | cons item items ih =>
        cases means with
        | path rest =>
            obtain ⟨firsts, seconds, first, second, rfl⟩ := ih rest
            exact ⟨_, seconds, .path first, second, rfl⟩
        | reference leads reads nested rest =>
            obtain ⟨firsts, seconds, first, second, rfl⟩ := ih rest
            exact ⟨_, seconds, .reference leads reads nested first, second,
              (List.append_assoc _ _ _).symm⟩
  · rintro ⟨firsts, seconds, first, second, rfl⟩
    induction first with
    | nil => exact second
    | path _ ih => exact .path (ih second)
    | reference leads reads nested _ _ ih =>
        rw [List.append_assoc]
        exact .reference leads reads nested (ih second)

/-! ## Unfolding from left to right -/

/-- Unfolding items from left to right comes to a reference that leads to a place: everything before
that reference has a meaning. -/
def Reaches (source : TextSource) (base : String) (items : List Item) (place : List String) :
    Prop :=
  ∃ before reference after paths, items = before ++ .reference reference :: after ∧
    Means source base before paths ∧ Leads source base reference place

/-- Unfolding the file at a place comes to a reference that leads to a place. -/
def Enters (source : TextSource) (place next : List String) : Prop :=
  ∃ content, source.text place = .ok content ∧
    Reaches source (Listing.directory place) (Item.ofFile (Listing.directory place) content) next

/-- No chain of references that unfolding comes to goes on for ever. -/
def Grounded (source : TextSource) (base : String) (items : List Item) : Prop :=
  ∀ place, Reaches source base items place → Acc (Function.swap (Enters source)) place

theorem Reaches.mentions {place : List String} (reaches : Reaches source base items place) :
    Mentions source base items place := by
  obtain ⟨before, reference, after, paths, rfl, -, leads⟩ := reaches
  exact ⟨reference, by simp, leads⟩

theorem Enters.refers {place next : List String} (enters : Enters source place next) :
    Refers source place next := by
  obtain ⟨content, reads, reaches⟩ := enters
  exact ⟨content, reads, reaches.mentions⟩

theorem Leads.reaches {place : List String} (leads : Leads source base reference place)
    (items : List Item) : Reaches source base (.reference reference :: items) place :=
  ⟨[], reference, items, [], rfl, .nil, leads⟩

theorem not_reaches_nil {place : List String} : ¬Reaches source base [] place := by
  rintro ⟨before, reference, after, paths, split, -⟩
  cases before <;> cases split

theorem reaches_path_iff {text : String} {place : List String} :
    Reaches source base (.path text :: items) place ↔ Reaches source base items place := by
  constructor
  · rintro ⟨before, reference, after, paths, split, means, leads⟩
    cases means with
    | nil => cases split
    | path rest =>
        cases split
        exact ⟨_, reference, after, _, rfl, rest, leads⟩
    | reference => cases split
  · rintro ⟨before, reference, after, paths, rfl, means, leads⟩
    exact ⟨.path text :: before, reference, after, _, rfl, .path means, leads⟩

/-- Behind a reference, unfolding comes to what it would come to without the reference, if that has
a meaning. -/
theorem reaches_reference_iff {place : List String} :
    Reaches source base (.reference reference :: items) place ↔
      Leads source base reference place ∨
        (∃ paths, Means source base [.reference reference] paths) ∧
          Reaches source base items place := by
  constructor
  · rintro ⟨before, other, after, paths, split, means, leads⟩
    cases means with
    | nil =>
        cases split
        exact .inl leads
    | path => cases split
    | reference leads' reads nested rest =>
        cases split
        exact .inr ⟨⟨_, .reference leads' reads nested .nil⟩, _, other, after, _, rfl, rest, leads⟩
  · rintro (leads | ⟨⟨paths, means⟩, before, other, after, others, rfl, rest, leads⟩)
    · exact leads.reaches items
    · exact ⟨.reference reference :: before, other, after, _, rfl,
        means_append_iff.mpr ⟨_, _, means, rest, rfl⟩, leads⟩

/-- What has a meaning refers to nothing that could be unfolded for ever. -/
theorem Means.acc {paths place : List String} (means : Means source base items paths)
    (mentions : Mentions source base items place) : Acc (Function.swap (Refers source)) place := by
  induction means generalizing place with
  | nil =>
      obtain ⟨reference, member, -⟩ := mentions
      cases member
  | path _ ih =>
      obtain ⟨reference, member, leads⟩ := mentions
      rcases List.mem_cons.mp member with equal | member
      · cases equal
      · exact ih ⟨reference, member, leads⟩
  | reference leads reads _ _ nestedIh restIh =>
      obtain ⟨other, member, leads'⟩ := mentions
      rcases List.mem_cons.mp member with equal | member
      · cases equal
        cases leads.unique leads'
        refine .intro _ fun next refers => ?_
        obtain ⟨content, reads', mentions⟩ := refers
        cases Except.ok.inj (reads.symm.trans reads')
        exact nestedIh mentions
      · exact restIh ⟨other, member, leads'⟩

theorem Means.grounded {paths : List String} (means : Means source base items paths) :
    Grounded source base items := by
  intro place reaches
  have entersRefers : Subrelation (Function.swap (Enters source)) (Function.swap (Refers source)) :=
    fun enters => Enters.refers enters
  exact entersRefers.accessible (means.acc reaches.mentions)

/-! ## Expansion against meaning -/

def IsCircular (result : Except Fault (List String)) : Prop :=
  ∃ path, result = .error (.circular path)

theorem map_eq_error_iff {α β : Type} {f : α → β} {result : Except Fault α} {fault : Fault} :
    result.map f = .error fault ↔ result = .error fault := by
  cases result <;> simp [Except.map]

theorem map_eq_ok_iff {α β : Type} {f : α → β} {result : Except Fault α} {value : β} :
    result.map f = .ok value ↔ ∃ found, result = .ok found ∧ f found = value := by
  cases result <;> simp [Except.map]

theorem isCircular_map_iff {f : List String → List String} {result : Except Fault (List String)} :
    IsCircular (result.map f) ↔ IsCircular result :=
  exists_congr fun _ => map_eq_error_iff

/-- What a file that has been opened contributes, and then the other items. -/
theorem expandItems_opened_cases {listing : Listing}
    (opens : Listing.ofReference source stack base reference = .ok listing) (items : List Item) :
    (∃ fault, expandItems source (listing.place :: stack) (Listing.directory listing.place)
        listing.items = .error fault ∧
      expandItems source stack base (.reference reference :: items) = .error fault) ∨
    ∃ listed, expandItems source (listing.place :: stack) (Listing.directory listing.place)
        listing.items = .ok listed ∧
      expandItems source stack base (.reference reference :: items) =
        (expandItems source stack base items).map (listed ++ ·) := by
  rw [expandItems_opened opens]
  cases expandItems source (listing.place :: stack) (Listing.directory listing.place)
      listing.items with
  | error fault => exact .inl ⟨fault, rfl, rfl⟩
  | ok listed =>
      refine .inr ⟨listed, rfl, ?_⟩
      cases expandItems source stack base items <;> rfl

/-- An expansion that succeeds gives the meaning. -/
theorem means_of_expandItems {paths : List String}
    (expands : expandItems source stack base items = .ok paths) :
    Means source base items paths := by
  induction stack, base, items using expandItems.induct source generalizing paths with
  | case1 stack base =>
      rw [expandItems] at expands
      cases expands
      exact .nil
  | case2 stack base text items ih =>
      rw [expandItems_path, map_eq_ok_iff] at expands
      obtain ⟨others, rest, rfl⟩ := expands
      exact .path (ih rest)
  | case3 stack base reference items fault refuses =>
      rw [expandItems_refused refuses] at expands
      cases expands
  | case4 stack base reference items listing opens nestedIh restIh =>
      cases opening opens with
      | opened leads reads fresh =>
          rcases expandItems_opened_cases opens items with
            ⟨fault, -, fails⟩ | ⟨listed, nested, rest⟩
          · rw [fails] at expands
            cases expands
          · rw [rest, map_eq_ok_iff] at expands
            obtain ⟨others, rest, rfl⟩ := expands
            exact .reference leads reads (nestedIh nested) (restIh rest)

/-- Where an expansion fails without reporting a circle there is no meaning. -/
theorem not_means_of_expandItems {fault : Fault} {paths : List String}
    (fails : expandItems source stack base items = .error fault)
    (other : ∀ path, fault ≠ .circular path) : ¬Means source base items paths := by
  induction stack, base, items using expandItems.induct source generalizing paths with
  | case1 stack base =>
      rw [expandItems] at fails
      cases fails
  | case2 stack base text items ih =>
      rw [expandItems_path, map_eq_error_iff] at fails
      intro means
      cases means with
      | path rest => exact ih fails rest
  | case3 stack base reference items cause refuses =>
      rw [expandItems_refused refuses] at fails
      cases fails
      intro means
      cases means with
      | reference leads reads nested rest =>
          cases opening refuses with
          | circular => exact other _ rfl
          | refused _ textless => exact textless _ _ leads reads
  | case4 stack base reference items listing opens nestedIh restIh =>
      intro means
      cases means with
      | reference leads reads nested rest =>
          cases opening opens with
          | opened leads' reads' fresh =>
              cases leads.unique leads'
              cases Except.ok.inj (reads.symm.trans reads')
              rcases expandItems_opened_cases opens items with
                ⟨cause, fails', whole⟩ | ⟨listed, -, whole⟩
              · rw [whole] at fails
                cases fails
                exact nestedIh fails' nested
              · rw [whole, map_eq_error_iff] at fails
                exact restIh fails rest

/-- A file whose contents are grounded starts no endless chain. -/
theorem Grounded.acc {place : List String} {content : String}
    (grounded : Grounded source (Listing.directory place)
      (Item.ofFile (Listing.directory place) content))
    (reads : source.text place = .ok content) : Acc (Function.swap (Enters source)) place := by
  refine .intro _ fun next enters => ?_
  obtain ⟨other, reads', reaches⟩ := enters
  cases Except.ok.inj (reads.symm.trans reads')
  exact grounded next reaches

/-- Where an expansion does not report a circle, unfolding comes to an end. -/
theorem grounded_of_expandItems (plain : ¬IsCircular (expandItems source stack base items)) :
    Grounded source base items := by
  induction stack, base, items using expandItems.induct source with
  | case1 stack base => exact fun place reaches => absurd reaches not_reaches_nil
  | case2 stack base text items ih =>
      rw [expandItems_path, isCircular_map_iff] at plain
      exact fun place reaches => ih plain place (reaches_path_iff.mp reaches)
  | case3 stack base reference items fault refuses =>
      rw [expandItems_refused refuses] at plain
      intro place reaches
      cases opening refuses with
      | circular => exact absurd ⟨_, rfl⟩ plain
      | refused _ textless =>
          rcases reaches_reference_iff.mp reaches with leads | ⟨⟨paths, means⟩, -⟩
          · refine .intro _ fun next enters => ?_
            obtain ⟨content, reads, -⟩ := enters
            exact absurd reads (textless _ _ leads)
          · cases means with
            | reference leads reads nested rest => exact absurd reads (textless _ _ leads)
  | case4 stack base reference items listing opens nestedIh restIh =>
      cases opening opens with
      | opened leads reads fresh =>
          intro place reaches
          rcases expandItems_opened_cases opens items with
            ⟨fault, fails, whole⟩ | ⟨listed, expands, whole⟩
          · -- The file cannot be expanded, so nothing behind the reference is come to.
            rw [whole] at plain
            have other (path : String) (equal : fault = .circular path) : False :=
              plain ⟨path, congrArg _ equal⟩
            rcases reaches_reference_iff.mp reaches with leads' | ⟨⟨paths, means⟩, -⟩
            · cases leads.unique leads'
              exact (nestedIh (fails ▸ plain)).acc reads
            · cases means with
              | reference leads' reads' nested rest =>
                  cases leads.unique leads'
                  cases Except.ok.inj (reads.symm.trans reads')
                  exact absurd nested (not_means_of_expandItems fails other)
          · rw [whole, isCircular_map_iff] at plain
            rcases reaches_reference_iff.mp reaches with leads' | ⟨-, reaches⟩
            · cases leads.unique leads'
              refine (nestedIh ?_).acc reads
              rintro ⟨path, fails⟩
              rw [expands] at fails
              cases fails
            · exact restIh plain place reaches

/-! ## Circles -/

/-- From every place of a stack, unfolding goes on to what pending items come to. -/
def Leading (source : TextSource) (stack : List (List String)) (base : String)
    (items : List Item) : Prop :=
  ∀ place ∈ stack, ∀ next, Reaches source base items next → TransGen (Enters source) place next

theorem Leading.nested {place : List String} {content : String}
    (leading : Leading source stack base (.reference reference :: items))
    (leads : Leads source base reference place) (reads : source.text place = .ok content) :
    Leading source (place :: stack) (Listing.directory place)
      (Item.ofFile (Listing.directory place) content) := by
  intro earlier member next reaches
  have enters : Enters source place next := ⟨content, reads, reaches⟩
  rcases List.mem_cons.mp member with rfl | member
  · exact .single enters
  · exact (leading earlier member place (leads.reaches items)).tail enters

/-- A place that leads back to itself starts an endless chain. -/
theorem not_transGen_self {place : List String}
    (accessible : Acc (Function.swap (Enters source)) place) :
    ¬TransGen (Enters source) place place := by
  intro circle
  have irreflexive {other : List String}
      (accessible : Acc (TransGen (Function.swap (Enters source))) other) :
      ¬TransGen (Function.swap (Enters source)) other other := by
    induction accessible with
    | intro other _ ih => exact fun circle => ih other circle circle
  exact irreflexive accessible.transGen (transGen_swap.mpr circle)

/-- A circle that is reported is one in which unfolding is caught. -/
theorem not_grounded_of_isCircular (leading : Leading source stack base items)
    (circular : IsCircular (expandItems source stack base items)) :
    ¬Grounded source base items := by
  induction stack, base, items using expandItems.induct source with
  | case1 stack base =>
      obtain ⟨path, fails⟩ := circular
      rw [expandItems] at fails
      cases fails
  | case2 stack base text items ih =>
      rw [expandItems_path, isCircular_map_iff] at circular
      intro grounded
      refine ih (fun place member next reaches => ?_) circular fun place reaches => ?_
      · exact leading place member next (reaches_path_iff.mpr reaches)
      · exact grounded place (reaches_path_iff.mpr reaches)
  | case3 stack base reference items fault refuses =>
      obtain ⟨path, fails⟩ := circular
      rw [expandItems_refused refuses] at fails
      cases fails
      intro grounded
      obtain ⟨place, leads, expanding⟩ := (opening refuses).exists_of_circular
      have reaches := leads.reaches items
      exact not_transGen_self (grounded place reaches) (leading place expanding place reaches)
  | case4 stack base reference items listing opens nestedIh restIh =>
      cases opening opens with
      | opened leads reads fresh =>
          intro grounded
          rcases expandItems_opened_cases opens items with
            ⟨fault, fails, whole⟩ | ⟨listed, expands, whole⟩
          · rw [whole, ← fails] at circular
            refine nestedIh (leading.nested leads reads) circular fun next reaches => ?_
            have enters : Enters source _ next := ⟨_, reads, reaches⟩
            exact (grounded _ (leads.reaches items)).inv enters
          · rw [whole, isCircular_map_iff] at circular
            have means : Means source base [.reference reference] (listed ++ []) :=
              .reference leads reads (means_of_expandItems expands) .nil
            have onward {next : List String} (reaches : Reaches source base items next) :
                Reaches source base (.reference reference :: items) next :=
              reaches_reference_iff.mpr (.inr ⟨⟨_, means⟩, reaches⟩)
            refine restIh (fun place member next reaches => ?_) circular fun place reaches => ?_
            · exact leading place member next (onward reaches)
            · exact grounded place (onward reaches)

theorem isCircular_expandItems_iff :
    IsCircular (expandItems source [] base items) ↔ ¬Grounded source base items := by
  constructor
  · refine not_grounded_of_isCircular fun place member => ?_
    cases member
  · exact fun endless => by_contra fun plain => endless (grounded_of_expandItems plain)

/-- A meaning is what expansion gives. -/
theorem expandItems_eq_ok_iff {paths : List String} :
    expandItems source [] base items = .ok paths ↔ Means source base items paths := by
  constructor
  · exact means_of_expandItems
  · intro means
    cases result : expandItems source [] base items with
    | ok others => rw [means.unique (means_of_expandItems result)]
    | error fault =>
        have other (path : String) (equal : fault = .circular path) : False := by
          rw [equal] at result
          exact isCircular_expandItems_iff.mp ⟨path, result⟩ means.grounded
        exact absurd means (not_means_of_expandItems result other)

/-! ## One stack for all -/

/-- Expansion with one stack that is changed on the way: the place of a file is put on it before the
file is expanded and taken off afterwards. A run that succeeds leaves a stack behind. -/
inductive Runs (source : TextSource) : List (List String) → String → List Item →
    Except Fault (List String × List (List String)) → Prop where
  | nil {stack : List (List String)} {base : String} : Runs source stack base [] (.ok ([], stack))
  | path {stack : List (List String)} {base text : String} {items : List Item}
      {outcome : Except Fault (List String × List (List String))}
      (rest : Runs source stack base items outcome) :
      Runs source stack base (.path text :: items)
        (outcome.map fun result => (text :: result.1, result.2))
  | refused {stack : List (List String)} {base reference : String} {items : List Item}
      {fault : Fault}
      (refuses : Listing.ofReference source stack base reference = .error fault) :
      Runs source stack base (.reference reference :: items) (.error fault)
  | failed {stack : List (List String)} {base reference : String} {items : List Item}
      {listing : Listing} {fault : Fault}
      (opens : Listing.ofReference source stack base reference = .ok listing)
      (nested : Runs source (listing.place :: stack) (Listing.directory listing.place)
        listing.items (.error fault)) :
      Runs source stack base (.reference reference :: items) (.error fault)
  | listed {stack left : List (List String)} {base reference : String} {items : List Item}
      {listing : Listing} {paths : List String}
      {outcome : Except Fault (List String × List (List String))}
      (opens : Listing.ofReference source stack base reference = .ok listing)
      (nested : Runs source (listing.place :: stack) (Listing.directory listing.place)
        listing.items (.ok (paths, left)))
      (rest : Runs source left.tail base items outcome) :
      Runs source stack base (.reference reference :: items)
        (outcome.map fun result => (paths ++ result.1, result.2))

/-- A run ends with the expansion and with the stack that it began with. -/
theorem Runs.eq {outcome : Except Fault (List String × List (List String))}
    (runs : Runs source stack base items outcome) :
    outcome = (expandItems source stack base items).map fun paths => (paths, stack) := by
  induction runs with
  | nil =>
      rw [expandItems]
      rfl
  | @path stack base text items outcome _ ih =>
      rw [ih, expandItems_path]
      cases expandItems source stack base items <;> rfl
  | refused refuses =>
      rw [expandItems_refused refuses]
      rfl
  | failed opens _ ih =>
      have fails := map_eq_error_iff.mp ih.symm
      rw [expandItems_opened opens, fails]
      rfl
  | @listed stack left base reference items listing paths outcome opens _ _ nestedIh restIh =>
      obtain ⟨found, expands, same⟩ := map_eq_ok_iff.mp nestedIh.symm
      cases same
      rw [List.tail_cons] at restIh
      rw [expandItems_opened opens, expands, restIh]
      cases expandItems source stack base items <;> rfl

/-- There is a run from every stack: expansion comes to an end. -/
theorem runs_expandItems (source : TextSource) (stack : List (List String)) (base : String)
    (items : List Item) :
    Runs source stack base items
      ((expandItems source stack base items).map fun paths => (paths, stack)) := by
  induction stack, base, items using expandItems.induct source with
  | case1 stack base =>
      rw [expandItems]
      exact .nil
  | case2 stack base text items ih =>
      have runs : Runs source stack base (.path text :: items) _ := .path ih
      rw [expandItems_path]
      cases result : expandItems source stack base items with
      | error fault => rwa [result] at runs
      | ok paths => rwa [result] at runs
  | case3 stack base reference items fault refuses =>
      rw [expandItems_refused refuses]
      exact .refused refuses
  | case4 stack base reference items listing opens nestedIh restIh =>
      rw [expandItems_opened opens]
      cases nested : expandItems source (listing.place :: stack)
          (Listing.directory listing.place) listing.items with
      | error fault =>
          rw [nested] at nestedIh
          exact .failed opens nestedIh
      | ok listed =>
          rw [nested] at nestedIh
          have runs := Runs.listed opens nestedIh restIh
          cases result : expandItems source stack base items with
          | error fault => rwa [result] at runs
          | ok paths => rwa [result] at runs

/-! ## The arguments of a command line -/

theorem ofArgument_reference (reference : String) :
    Item.ofArgument ("@" ++ reference) = .reference reference := by
  have text : ("@" ++ reference).toList = '@' :: reference.toList := by simp
  rw [Item.ofArgument, text, Item.ofText, String.ofList_toList]

/-- There is an endless chain of steps from a start if and only if some start is not accessible. -/
theorem exists_chain_iff {starts : List String → Prop} {step : List String → List String → Prop} :
    (∃ chain : Nat → List String, starts (chain 0) ∧ ∀ n, step (chain n) (chain (n + 1))) ↔
      ¬∀ place, starts place → Acc (Function.swap step) place := by
  constructor
  · rintro ⟨chain, start, steps⟩ accessible
    exact not_acc_iff_exists_descending_chain.mpr ⟨chain, rfl, steps⟩ (accessible _ start)
  · intro endless
    obtain ⟨place, endless⟩ := not_forall.mp endless
    obtain ⟨start, stuck⟩ := Classical.not_imp.mp endless
    obtain ⟨chain, rfl, steps⟩ := not_acc_iff_exists_descending_chain.mp stuck
    exact ⟨chain, start, steps⟩

/-- Expansion comes to an end from every stack, in one way only, and hands the stack back as it was.
It succeeds with exactly the plain meaning of the arguments, in which there is no stack. It reports
a circle exactly when unfolding the arguments from left to right follows an endless chain of
references; with such a chain among all references it does not succeed. A file that is referred to
twice, in whatever spelling, is expanded twice. -/
theorem expand_follows_meaning (source : TextSource) (base : String) (arguments : List String) :
    let items := arguments.map Item.ofArgument
    (∀ stack base items, ∃ outcome, Runs source stack base items outcome) ∧
    (∀ stack base items outcome, Runs source stack base items outcome →
      outcome = (expandItems source stack base items).map fun paths => (paths, stack)) ∧
    (∀ paths, source.expand base arguments = .ok paths ↔ Means source base items paths) ∧
    ((∃ path, source.expand base arguments = .error (.circular path)) ↔
      ∃ chain : Nat → List String, Reaches source base items (chain 0) ∧
        ∀ n, Enters source (chain n) (chain (n + 1))) ∧
    (∀ chain : Nat → List String, Mentions source base items (chain 0) →
      (∀ n, Refers source (chain n) (chain (n + 1))) →
      ∀ paths, source.expand base arguments ≠ .ok paths) ∧
    ∀ first second place content listed, Leads source base first place →
      Leads source base second place → source.text place = .ok content →
      Means source (Listing.directory place) (Item.ofFile (Listing.directory place) content)
        listed →
      source.expand base ["@" ++ first, "@" ++ second] = .ok (listed ++ listed) := by
  intro items
  refine ⟨fun stack base items => ⟨_, runs_expandItems source stack base items⟩,
    fun stack base items outcome runs => runs.eq, fun paths => expandItems_eq_ok_iff, ?_, ?_, ?_⟩
  · rw [exists_chain_iff]
    exact isCircular_expandItems_iff
  · intro chain mentions refers paths expands
    have means : Means source base items paths := expandItems_eq_ok_iff.mp expands
    exact exists_chain_iff.mp ⟨chain, mentions, refers⟩ fun place => means.acc
  · intro first second place content listed leads leads' reads means
    have twice : Means source base [.reference first, .reference second]
        (listed ++ (listed ++ [])) :=
      .reference leads reads means (.reference leads' reads means .nil)
    rw [List.append_nil] at twice
    rw [TextSource.expand, List.map_cons, List.map_cons, List.map_nil, ofArgument_reference,
      ofArgument_reference]
    exact expandItems_eq_ok_iff.mpr twice

def tableText (texts : List (List String × String)) (place : List String) :
    Except FileSystem.Fault String :=
  match texts.lookup place with
  | some text => .ok text
  | none => .error .notFound

theorem mem_of_tableText (texts : List (List String × String)) (place : List String)
    (content : String) (reads : tableText texts place = .ok content) :
    place ∈ texts.map Prod.fst := by
  rw [tableText] at reads
  cases found : texts.lookup place with
  | none =>
      rw [found] at reads
      cases reads
  | some text =>
      obtain ⟨before, after, rfl, -⟩ := List.lookup_eq_some_iff.mp found
      simp

def TextSource.ofTable (resolve : String → Except FileSystem.Fault (List String))
    (texts : List (List String × String)) : TextSource where
  resolve
  text := tableText texts
  places := texts.map Prod.fst
  mem_places := mem_of_tableText texts

/-- A file that is referred to in two spellings, by an absolute path each, and that refers to
another file; and a third file that refers to itself. -/
theorem expand_follows_meaning_two_spellings :
    let source : TextSource := .ofTable
      (fun path =>
        if path = "/a" ∨ path = "/link" then .ok ["a"]
        else if path = "/b" then .ok ["b"]
        else .ok ["c"])
      [(["a"], "/x.jar\n@/b"), (["b"], "# none"), (["c"], "@/c")]
    Leads source "/" "/a" ["a"] ∧ Leads source "/" "/link" ["a"] ∧
    source.expand "/" ["@/a", "@/link"] = .ok ["/x.jar", "/x.jar"] ∧
    ∃ path, source.expand "/" ["@/c"] = .error (.circular path) := by
  intro source
  have leads (base : String) {reference : String} {place : List String}
      (absolute : Path.isAbsolute reference = true) (named : reference.isEmpty = false)
      (resolved : source.resolve reference = .ok place) : Leads source base reference place :=
    ⟨named, (congrArg source.resolve (if_pos absolute)).trans resolved⟩
  have first : Leads source "/" "/a" ["a"] := leads "/" (by simp [Path.isAbsolute]) rfl rfl
  have second : Leads source "/" "/link" ["a"] := leads "/" (by simp [Path.isAbsolute]) rfl rfl
  have third (base : String) : Leads source base "/c" ["c"] :=
    leads base (by simp [Path.isAbsolute]) rfl rfl
  have nested : Leads source (Listing.directory ["a"]) "/b" ["b"] :=
    leads _ (by simp [Path.isAbsolute]) rfl rfl
  have lists : Item.ofFile (Listing.directory ["a"]) "/x.jar\n@/b" =
      [.path "/x.jar", .reference "/b"] := by
    have absolute : Path.isAbsolute "/x.jar" = true := by simp [Path.isAbsolute]
    have path : Path.join (Listing.directory ["a"]) "/x.jar" = "/x.jar" := if_pos absolute
    have lines : ((Text.split '\n' "/x.jar\n@/b".toList).map Text.trim).filter
        (fun line => !line.isEmpty && line.head? != some '#') =
          [['/', 'x', '.', 'j', 'a', 'r'], ['@', '/', 'b']] := by decide
    rw [Item.ofFile, lines]
    exact congrArg (fun text => [Item.path text, .reference "/b"]) path
  have means : Means source (Listing.directory ["a"])
      (Item.ofFile (Listing.directory ["a"]) "/x.jar\n@/b") ["/x.jar"] := by
    rw [lists]
    exact .path (.reference nested rfl .nil .nil)
  obtain ⟨-, -, -, -, -, twice⟩ := expand_follows_meaning source "/" []
  obtain ⟨-, -, -, circle, -⟩ := expand_follows_meaning source "/" ["@/c"]
  refine ⟨first, second, twice "/a" "/link" ["a"] _ ["/x.jar"] first second rfl means,
    circle.mpr ⟨fun _ => ["c"], (third "/").reaches [], fun _ => ?_⟩⟩
  exact ⟨"@/c", rfl, (third _).reaches []⟩

end GrantSurvey.ArgumentFile
