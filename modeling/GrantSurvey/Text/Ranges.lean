/-!
# Ranges of code points

Properties of characters are kept as lists of ranges, ends included.
-/

namespace GrantSurvey.Text

def listed (ranges : List (Nat × Nat)) (code : Nat) : Bool :=
  ranges.any fun (first, last) => first ≤ code && code ≤ last

end GrantSurvey.Text
