/-!
# Ascending lists

Finite sets as lists in strictly ascending order.
-/

namespace GrantSurvey.Ordered

variable {α : Type} [Ord α]

/-- Puts an element at its place, unless it is there already. -/
def insert (element : α) : List α → List α
  | [] => [element]
  | first :: others =>
      match compare element first with
      | .lt => element :: first :: others
      | .eq => first :: others
      | .gt => first :: insert element others

/-- The elements of a list in ascending order, each once. -/
def ofList (elements : List α) : List α :=
  elements.foldl (fun set element => insert element set) []

/-- The elements of either list, for an ascending first list. -/
def union (set elements : List α) : List α :=
  elements.foldl (fun set element => insert element set) set

end GrantSurvey.Ordered
