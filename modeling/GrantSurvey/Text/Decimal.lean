/-!
# Decimal numbers in texts

Unsigned numbers as they are written by hand: digits after an optional plus sign. The value has to
fit into 64 bits.
-/

namespace GrantSurvey.Text

def digitsValue (digits : List Char) : Nat :=
  digits.foldl (fun value digit => value * 10 + (digit.toNat - '0'.toNat)) 0

def unsigned? (text : List Char) : Option Nat :=
  let digits :=
    match text with
    | '+' :: digits => digits
    | digits => digits
  if digits.isEmpty || !digits.all Char.isDigit then none
  else
    let value := digitsValue digits
    if value < 18446744073709551616 then some value else none

end GrantSurvey.Text
