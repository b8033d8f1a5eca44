import GrantSurvey.Ordered
import Mathlib.Data.List.Sort

/-!
# Ascending lists

Insertion adds one element and keeps the order strictly ascending, and so do the operations that
are built from it. An ascending list is determined by its elements.
-/

namespace GrantSurvey.Ordered

variable {α : Type} [Ord α]

/-! ## Elements -/

section Elements

variable [Std.LawfulEqOrd α] {element other : α}

@[simp]
theorem mem_insert {set : List α} :
    other ∈ insert element set ↔ other = element ∨ other ∈ set := by
  fun_induction insert element set with
  | case1 => simp
  | case2 => simp
  | case3 first others same =>
      rw [Std.LawfulEqOrd.eq_of_compare same, List.mem_cons]
      simp
  | case4 first others _ ih =>
      rw [List.mem_cons, ih, List.mem_cons]
      exact or_left_comm

@[simp]
theorem mem_union {set elements : List α} :
    other ∈ union set elements ↔ other ∈ set ∨ other ∈ elements := by
  unfold union
  induction elements generalizing set with
  | nil => simp
  | cons element elements ih =>
      rw [List.foldl_cons, ih, mem_insert, List.mem_cons]
      exact or_assoc.trans or_left_comm

@[simp]
theorem mem_ofList {elements : List α} : other ∈ ofList elements ↔ other ∈ elements :=
  mem_union.trans (by simp)

end Elements

/-! ## Order -/

/-- The elements come in strictly ascending order, so none comes twice. -/
def Ascending (set : List α) : Prop :=
  set.Pairwise fun first second => compare first second = .lt

section Order

variable [Std.TransOrd α]

/-- Two ascending lists with the same elements are equal. -/
theorem Ascending.eq_of_mem_iff {first second : List α} (ascending : Ascending first)
    (otherAscending : Ascending second) (same : ∀ element, element ∈ first ↔ element ∈ second) :
    first = second := by
  have irreflexive : Std.Irrefl fun first second : α => compare first second = .lt :=
    ⟨fun _ less => Std.OrientedCmp.not_lt_of_lt less less⟩
  have antisymmetric : Std.Antisymm fun first second : α => compare first second = .lt :=
    ⟨fun _ _ less greater => (Std.OrientedCmp.not_lt_of_lt less greater).elim⟩
  exact List.Pairwise.eq_of_mem_iff ascending otherAscending same

theorem Ascending.nodup {set : List α} (ascending : Ascending set) : set.Nodup := by
  refine ascending.imp ?_
  rintro first _ less rfl
  exact Std.OrientedCmp.not_lt_of_lt less less

variable [Std.LawfulEqOrd α]

theorem Ascending.insert {set : List α} (ascending : Ascending set) (element : α) :
    Ascending (insert element set) := by
  fun_induction Ordered.insert element set with
  | case1 => exact List.pairwise_singleton _ _
  | case2 first others less =>
      refine .cons ?_ ascending
      intro other member
      rcases List.mem_cons.mp member with rfl | member
      · exact less
      · exact Std.TransCmp.lt_trans less (List.rel_of_pairwise_cons ascending member)
  | case3 => exact ascending
  | case4 first others greater ih =>
      obtain ⟨before, ascending⟩ := List.pairwise_cons.mp ascending
      refine .cons ?_ (ih ascending)
      intro other member
      rcases mem_insert.mp member with rfl | member
      · exact Std.OrientedCmp.lt_of_gt greater
      · exact before other member

theorem Ascending.union {set : List α} (ascending : Ascending set) (elements : List α) :
    Ascending (union set elements) := by
  unfold Ordered.union
  induction elements generalizing set with
  | nil => exact ascending
  | cons element elements ih => exact ih (ascending.insert element)

theorem ascending_ofList (elements : List α) : Ascending (ofList elements) :=
  Ascending.union .nil elements

end Order

/-- For texts, ascending is ascending by characters. -/
theorem Ascending.pairwise_lt {set : List String} (ascending : Ascending set) :
    set.Pairwise (· < ·) :=
  ascending.imp fun less => compareOfLessAndEq_eq_lt.mp less

theorem Ascending.of_pairwise_lt {set : List String} (ascending : set.Pairwise (· < ·)) :
    Ascending set :=
  ascending.imp fun less => compareOfLessAndEq_eq_lt.mpr less

end GrantSurvey.Ordered
