import GrantSurvey.ClassFile.Instruction
import GrantSurvey.Finding
import Mathlib.Data.List.Perm.Basic

/-!
# Stable orders

A list put into ascending order of some rank, in which elements of equal rank keep their order.
There is only one such rearrangement, and sorting finds it: for the entries of a line table, which
are ranked by their offset, and for findings, which are ranked by their line.
-/

namespace GrantSurvey

structure IsRanking {κ : Type} (le : κ → κ → Bool) : Prop where
  trans : ∀ first second third, le first second = true → le second third = true →
    le first third = true
  total : ∀ first second, (le first second || le second first) = true
  antisymm : ∀ first second, le first second = true → le second first = true → first = second

variable {α κ : Type} {le : κ → κ → Bool} {rank : α → κ}

theorem IsRanking.refl (ranking : IsRanking le) (key : κ) : le key key = true := by
  simpa using ranking.total key key

/-- No element ranks below the head of an ascending list. -/
theorem IsRanking.head_le (ranking : IsRanking le) {head : α} {tail : List α}
    (ascending : (head :: tail).Pairwise fun first second => le (rank first) (rank second) = true)
    {element : α} (member : element ∈ head :: tail) : le (rank head) (rank element) = true := by
  rcases List.mem_cons.mp member with rfl | member
  · exact ranking.refl _
  · exact List.rel_of_pairwise_cons ascending member

variable [DecidableEq κ]

/-- `ordered` has the elements of `list` in ascending order of their rank. Those of one rank come
in the order in which they stand in `list`. -/
structure StablyOrdered (le : κ → κ → Bool) (rank : α → κ) (list ordered : List α) : Prop where
  perm : ordered.Perm list
  ascending : ordered.Pairwise fun first second => le (rank first) (rank second) = true
  keeps : ∀ key, ordered.filter (rank · = key) = list.filter (rank · = key)

/-- Sorting orders stably. -/
theorem stablyOrdered_mergeSort (ranking : IsRanking le) (rank : α → κ) (list : List α) :
    StablyOrdered le rank list
      (list.mergeSort fun first second => le (rank first) (rank second)) := by
  have trans (first second third : α) := ranking.trans (rank first) (rank second) (rank third)
  have total (first second : α) := ranking.total (rank first) (rank second)
  have perm := list.mergeSort_perm fun first second => le (rank first) (rank second)
  refine ⟨perm, List.pairwise_mergeSort trans total list, fun key => ?_⟩
  -- Elements of one rank are in order already, so sorting keeps them as a sublist; since it loses
  -- none, it keeps them as they are.
  have equal : (list.filter (rank · = key)).Pairwise fun first second =>
      le (rank first) (rank second) = true := by
    refine List.pairwise_of_forall_mem_list fun first firstMember second secondMember => ?_
    have firstKey := of_decide_eq_true (List.mem_filter.mp firstMember).2
    have secondKey := of_decide_eq_true (List.mem_filter.mp secondMember).2
    rw [firstKey, secondKey]
    exact ranking.refl key
  have kept := (List.sublist_mergeSort trans total equal List.filter_sublist).filter (rank · = key)
  rw [List.filter_filter] at kept
  simp only [Bool.and_self] at kept
  exact (kept.eq_of_length (perm.filter _).length_eq.symm).symm

/-! ## There is one stable order -/

theorem mem_iff_of_filter_eq {first second : List α}
    (same : ∀ key, first.filter (rank · = key) = second.filter (rank · = key)) (element : α) :
    element ∈ first ↔ element ∈ second := by
  have inside (list : List α) :
      element ∈ list.filter (rank · = rank element) ↔ element ∈ list := by
    simp
  rw [← inside, same, inside]

/-- A list in ascending order is determined by its parts of equal rank. -/
theorem eq_of_filter_eq (ranking : IsRanking le) {first second : List α}
    (ascending : first.Pairwise fun first second => le (rank first) (rank second) = true)
    (otherAscending : second.Pairwise fun first second => le (rank first) (rank second) = true)
    (same : ∀ key, first.filter (rank · = key) = second.filter (rank · = key)) :
    first = second := by
  have members := mem_iff_of_filter_eq same
  induction first generalizing second with
  | nil => exact (List.eq_nil_iff_forall_not_mem.mpr fun element => by simp [← members]).symm
  | cons head tail ih =>
      cases second with
      | nil => exact absurd ((members head).mp List.mem_cons_self) List.not_mem_nil
      | cons otherHead otherTail =>
          have below := ranking.head_le ascending ((members otherHead).mpr List.mem_cons_self)
          have above := ranking.head_le otherAscending ((members head).mp List.mem_cons_self)
          have ranks := ranking.antisymm _ _ below above
          have heads := same (rank head)
          simp only [List.filter_cons, decide_true, if_true, ← ranks, List.cons.injEq] at heads
          obtain ⟨rfl, _⟩ := heads
          have tails (key : κ) : tail.filter (rank · = key) = otherTail.filter (rank · = key) := by
            have parts := same key
            simp only [List.filter_cons] at parts
            split at parts
            · exact (List.cons.inj parts).2
            · exact parts
          rw [ih ascending.of_cons otherAscending.of_cons tails (mem_iff_of_filter_eq tails)]

/-- A list has one stable order only. -/
theorem StablyOrdered.unique (ranking : IsRanking le) {list ordered other : List α}
    (stable : StablyOrdered le rank list ordered) (otherStable : StablyOrdered le rank list other) :
    other = ordered :=
  eq_of_filter_eq ranking otherStable.ascending stable.ascending fun key =>
    (otherStable.keeps key).trans (stable.keeps key).symm

/-! ## Line tables -/

namespace ClassFile

/-- Offsets in their order. -/
theorem isRanking_offset : IsRanking fun first second : Nat => decide (first ≤ second) where
  trans first second third := by simpa using Nat.le_trans
  total first second := by simpa using Nat.le_total first second
  antisymm first second := by simpa using Nat.le_antisymm

/-- Sorting a line table orders it stably by offset. -/
theorem stablyOrdered_sortLines (lines : List LineNumber) :
    StablyOrdered (fun first second => decide (first ≤ second)) LineNumber.start lines
      (sortLines lines) :=
  stablyOrdered_mergeSort isRanking_offset LineNumber.start lines

end ClassFile

/-! ## Findings -/

namespace Finding

/-- Lines in their order, after the unknown one. -/
theorem isRanking_line : IsRanking lineLe where
  trans := by
    rintro (_ | first) (_ | second) (_ | third) <;> simp only [lineLe] <;> grind
  total := by
    rintro (_ | first) (_ | second) <;> simp only [lineLe] <;> grind
  antisymm := by
    rintro (_ | first) (_ | second) <;> simp only [lineLe] <;> grind

/-- Ordering findings by line orders them stably. -/
theorem stablyOrdered_orderByLine (findings : List Finding) :
    StablyOrdered lineLe Finding.line findings (orderByLine findings) :=
  stablyOrdered_mergeSort isRanking_line Finding.line findings

end Finding

end GrantSurvey
