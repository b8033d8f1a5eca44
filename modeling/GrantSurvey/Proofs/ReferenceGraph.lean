import GrantSurvey.ArgumentFile
import Mathlib.Logic.Relation

/-!
# References between argument files

Where references lead, and what becomes of a reference while files are being expanded: it is
refused as circular, it is refused because its file cannot be had, or its file is opened. An
expansion is settled by where references lead and by the texts of the files that they lead to.
-/

namespace GrantSurvey.ArgumentFile

variable {source : TextSource} {stack : List (List String)} {base reference : String}

def Leads (source : TextSource) (base reference : String) (place : List String) : Prop :=
  reference.isEmpty = false ∧ source.resolve (Path.join base reference) = .ok place

theorem Leads.unique {place other : List String} (leads : Leads source base reference place)
    (leads' : Leads source base reference other) : place = other :=
  Except.ok.inj (leads.2.symm.trans leads'.2)

def Mentions (source : TextSource) (base : String) (items : List Item) (place : List String) :
    Prop :=
  ∃ reference, .reference reference ∈ items ∧ Leads source base reference place

def Refers (source : TextSource) (place next : List String) : Prop :=
  ∃ content, source.text place = .ok content ∧
    Mentions source (Listing.directory place) (Item.ofFile (Listing.directory place) content) next

/-! ## Opening a file -/

/-- What comes of a reference while the files at the places of a stack are being expanded. -/
inductive Opening (source : TextSource) (stack : List (List String)) (base reference : String) :
    Except Fault Listing → Prop where
  | circular {place : List String} (leads : Leads source base reference place)
      (expanding : place ∈ stack) :
      Opening source stack base reference (.error (.circular (Path.ofPlace place)))
  | refused {fault : Fault} (other : ∀ path, fault ≠ .circular path)
      (textless : ∀ place content, Leads source base reference place →
        source.text place ≠ .ok content) :
      Opening source stack base reference (.error fault)
  | opened {place : List String} {content : String} (leads : Leads source base reference place)
      (reads : source.text place = .ok content) (fresh : place ∉ stack) :
      Opening source stack base reference (.ok (Listing.ofText place content))

/-- Every reference is circular, refused or opened. -/
theorem opening {result : Except Fault Listing}
    (found : Listing.ofReference source stack base reference = result) :
    Opening source stack base reference result := by
  subst found
  rw [Listing.ofReference]
  by_cases empty : reference.isEmpty = true
  · rw [if_pos empty]
    refine .refused (by simp) fun place content leads => ?_
    rw [leads.1] at empty
    cases empty
  · rw [if_neg empty]
    dsimp only
    cases resolved : source.resolve (Path.join base reference) with
    | error fault =>
        refine .refused (by simp) fun place content leads => ?_
        rw [leads.2] at resolved
        cases resolved
    | ok place =>
        have leads : Leads source base reference place :=
          ⟨Bool.eq_false_iff.mpr empty, resolved⟩
        dsimp only [Listing.ofPlace]
        by_cases expanding : place ∈ stack
        · rw [if_pos expanding]
          exact .circular leads expanding
        · rw [if_neg expanding]
          cases reads : source.text place with
          | error fault =>
              refine .refused (by simp) fun other content leads' => ?_
              rw [leads'.unique leads, reads]
              intro same
              cases same
          | ok content => exact .opened leads reads expanding

theorem Opening.exists_of_circular {path : String}
    (circular : Opening source stack base reference (.error (.circular path))) :
    ∃ place, Leads source base reference place ∧ place ∈ stack := by
  generalize result : (Except.error (Fault.circular path) : Except Fault Listing) = outcome
    at circular
  cases circular with
  | circular leads expanding => exact ⟨_, leads, expanding⟩
  | refused other =>
      cases result
      exact absurd rfl (other path)
  | opened => cases result

/-! ## Expanding a reference -/

theorem expandItems_path (text : String) (items : List Item) :
    expandItems source stack base (.path text :: items) =
      (expandItems source stack base items).map (text :: ·) := by
  rw [expandItems]
  cases expandItems source stack base items <;> rfl

theorem expandItems_refused {fault : Fault}
    (refuses : Listing.ofReference source stack base reference = .error fault)
    (items : List Item) :
    expandItems source stack base (.reference reference :: items) = .error fault := by
  rw [expandItems]
  split
  · rename_i refuses'
    rw [refuses] at refuses'
    cases refuses'
    rfl
  · rename_i opens
    rw [refuses] at opens
    cases opens

theorem expandItems_opened {listing : Listing}
    (opens : Listing.ofReference source stack base reference = .ok listing) (items : List Item) :
    expandItems source stack base (.reference reference :: items) =
      (do
        let listed ← expandItems source (listing.place :: stack)
          (Listing.directory listing.place) listing.items
        let others ← expandItems source stack base items
        return listed ++ others) := by
  rw [expandItems]
  split
  · rename_i refuses
    rw [opens] at refuses
    cases refuses
  · rename_i opens'
    rw [opens] at opens'
    cases opens'
    rfl

/-! ## Sources that agree -/

/-- A file that may be looked at when items are expanded: one that they refer to, or one that such a
file refers to in turn. -/
def Consulted (source : TextSource) (base : String) (items : List Item) (place : List String) :
    Prop :=
  ∃ first, Mentions source base items first ∧ Relation.ReflTransGen (Refers source) first place

theorem Consulted.of_subset {items others : List Item} {place : List String}
    (consulted : Consulted source base items place) (subset : items ⊆ others) :
    Consulted source base others place := by
  obtain ⟨first, ⟨reference, member, leads⟩, chain⟩ := consulted
  exact ⟨first, ⟨reference, subset member, leads⟩, chain⟩

theorem Leads.consulted {place : List String} (leads : Leads source base reference place)
    (items : List Item) : Consulted source base (.reference reference :: items) place :=
  ⟨place, ⟨reference, List.mem_cons_self, leads⟩, .refl⟩

theorem Leads.consulted_below {place other : List String} {content : String}
    (leads : Leads source base reference place) (reads : source.text place = .ok content)
    (items : List Item)
    (below : Consulted source (Listing.directory place)
      (Item.ofFile (Listing.directory place) content) other) :
    Consulted source base (.reference reference :: items) other := by
  obtain ⟨first, mentions, chain⟩ := below
  exact ⟨place, ⟨reference, List.mem_cons_self, leads⟩, .head ⟨content, reads, mentions⟩ chain⟩

/-- A reference is treated alike by sources that resolve paths alike and have the same text at the
place that it leads to. -/
theorem ofReference_eq_of_agree {other : TextSource} (resolve : other.resolve = source.resolve)
    (stack : List (List String))
    (text : ∀ place, Leads source base reference place → other.text place = source.text place) :
    Listing.ofReference other stack base reference =
      Listing.ofReference source stack base reference := by
  rw [Listing.ofReference, Listing.ofReference, resolve]
  by_cases empty : reference.isEmpty = true
  · rw [if_pos empty, if_pos empty]
  · rw [if_neg empty, if_neg empty]
    dsimp only
    cases resolved : source.resolve (Path.join base reference) with
    | error fault => rfl
    | ok place =>
        have same := text place ⟨Bool.eq_false_iff.mpr empty, resolved⟩
        dsimp only [Listing.ofPlace]
        rw [same]

/-- Sources that resolve paths alike and have the same texts where they are consulted give the same
expansion. -/
theorem expandItems_eq_of_agree {other : TextSource} (resolve : other.resolve = source.resolve)
    (stack : List (List String)) (items : List Item)
    (text : ∀ place, Consulted source base items place → other.text place = source.text place) :
    expandItems other stack base items = expandItems source stack base items := by
  induction stack, base, items using expandItems.induct source with
  | case1 stack base => rw [expandItems, expandItems]
  | case2 stack base path items ih =>
      have rest := ih fun place consulted =>
        text place (consulted.of_subset (List.subset_cons_self _ _))
      rw [expandItems_path, expandItems_path, rest]
  | case3 stack base reference items fault refuses =>
      have same := ofReference_eq_of_agree resolve stack
        fun place leads => text place (leads.consulted items)
      rw [expandItems_refused (same.trans refuses), expandItems_refused refuses]
  | case4 stack base reference items listing opens nested rest =>
      have same := ofReference_eq_of_agree resolve stack
        fun place leads => text place (leads.consulted items)
      cases opening opens with
      | opened leads reads fresh =>
          rw [expandItems_opened (same.trans opens), expandItems_opened opens,
            nested fun place below => text place (leads.consulted_below reads items below),
            rest fun place consulted =>
              text place (consulted.of_subset (List.subset_cons_self _ _))]

end GrantSurvey.ArgumentFile
