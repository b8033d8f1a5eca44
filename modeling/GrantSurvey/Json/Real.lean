/-!
# Binary real numbers

Real numbers with a mantissa of 53 bits and a bounded exponent, in exact arithmetic: rounding of
quotients to the nearest such number, ties to the even mantissa, and the shortest decimal that
reads back as the same number.
-/

namespace GrantSurvey.Json

structure Real where
  mantissa : Nat
  exponent : Int
  deriving DecidableEq, Repr

namespace Real

def minExponent : Int := -1074

def maxExponent : Int := 971

def zero : Real := ⟨0, minExponent⟩

/-- Scales a quotient by a power of two: numerator and denominator. -/
def scaled (numerator denominator : Nat) (power : Int) : Nat × Nat :=
  if 0 ≤ power then (numerator * Nat.pow 2 power.toNat, denominator)
  else (numerator, denominator * Nat.pow 2 (-power).toNat)

/-- A quotient rounded to the nearest whole number, ties to the even one. -/
def roundQuotient (numerator denominator : Nat) : Nat :=
  let whole := numerator / denominator
  let twice := 2 * (numerator % denominator)
  if twice < denominator then whole
  else if denominator < twice then whole + 1
  else whole + whole % 2

/-- The exponent at which a quotient has a mantissa of 53 bits, if that is not too small. -/
def fittingExponent (numerator denominator : Nat) : Int :=
  let guess := (numerator.log2 : Int) - denominator.log2 - 52
  let (n, d) := scaled numerator denominator (-guess)
  max minExponent <|
    if n < d * Nat.pow 2 52 then guess - 1
    else if n < d * Nat.pow 2 53 then guess
    else guess + 1

/-- The nearest number to a quotient; `none` if it is out of range. -/
def ofQuotient? (numerator denominator : Nat) : Option Real :=
  if numerator = 0 then some zero
  else
    let exponent := fittingExponent numerator denominator
    let (n, d) := scaled numerator denominator (-exponent)
    let mantissa := roundQuotient n d
    let rounded : Real :=
      if mantissa = Nat.pow 2 53 then ⟨Nat.pow 2 52, exponent + 1⟩ else ⟨mantissa, exponent⟩
    if maxExponent < rounded.exponent then none else some rounded

def quotient (real : Real) : Nat × Nat :=
  scaled real.mantissa 1 real.exponent

def mul? (first second : Real) : Option Real :=
  let (a, b) := first.quotient
  let (c, d) := second.quotient
  ofQuotient? (a * c) (b * d)

def div? (first second : Real) : Option Real :=
  let (a, b) := first.quotient
  let (c, d) := second.quotient
  ofQuotient? (a * d) (b * c)

/-! ## The shortest decimal -/

/-- The numbers that read back as `real` lie between two quotients over one denominator, which is
also that of the number itself: lower end, number, upper end, denominator. -/
def neighbourhood (real : Real) : Nat × Nat × Nat × Nat :=
  let (n, d) := scaled (4 * real.mantissa) 1 real.exponent
  let unit := (scaled 1 1 real.exponent).1
  -- Just below a power of two, numbers stand twice as close.
  let isPower := real.mantissa = Nat.pow 2 52 ∧ minExponent < real.exponent
  let below := if isPower then unit else 2 * unit
  (n - below, n, n + 2 * unit, 4 * d)

def decimalExponent (numerator denominator : Nat) : Int :=
  let digits (n : Nat) : Int := (Nat.toDigits 10 n).length
  let guess := digits numerator - digits denominator
  let reached :=
    if 0 ≤ guess then denominator * Nat.pow 10 guess.toNat ≤ numerator
    else denominator ≤ numerator * Nat.pow 10 (-guess).toNat
  if reached then guess else guess - 1

/-- The decimal `digits * 10 ^ exponent` with a number of digits that reads back as the number and
is nearest to it. -/
def decimalOf? (real : Real) (count : Nat) : Option (Nat × Int) :=
  let (low, value, high, unit) := real.neighbourhood
  let exponent := decimalExponent value unit - count + 1
  let up := Nat.pow 10 (-exponent).toNat
  let down := Nat.pow 10 exponent.toNat
  -- Ties go to the even mantissa, so the ends read back as the number if its own is even.
  let closed := real.mantissa % 2 = 0
  let inside (digits : Nat) : Bool :=
    let point := digits * down * unit
    if closed then low * up ≤ point && point ≤ high * up
    else low * up < point && point < high * up
  let floor := value * up / (down * unit)
  let distance (digits : Nat) : Int :=
    ((digits * down * unit : Nat) - (value * up : Nat) : Int).natAbs
  let candidates := [floor, floor + 1].filter inside
  match candidates with
  | [first, second] =>
      some (if distance first < distance second
          || distance first = distance second && first % 2 = 0 then first else second, exponent)
  | [only] => some (only, exponent)
  | _ => none

def shortest (real : Real) : Nat × Int :=
  ((List.range 17).findSome? fun count => real.decimalOf? (count + 1)).getD (0, 0)

/-- The decimal text of a number: positional for moderate exponents, otherwise scientific with the
sign of the exponent. -/
def text (real : Real) : String :=
  if real.mantissa = 0 then "0.0"
  else
    let (value, exponent) := real.shortest
    let padded := Nat.toDigits 10 value
    let digits := (padded.reverse.dropWhile (· == '0')).reverse
    let exponent := exponent + (padded.length - digits.length : Nat)
    let point := (digits.length : Int) + exponent
    let zeros (count : Int) := List.replicate count.toNat '0'
    if 0 ≤ exponent ∧ point ≤ 16 then
      String.ofList (digits ++ zeros exponent) ++ ".0"
    else if 0 < point ∧ point ≤ 16 then
      String.ofList (digits.take point.toNat ++ '.' :: digits.drop point.toNat)
    else if -5 < point ∧ point ≤ 0 then
      "0." ++ String.ofList (zeros (-point) ++ digits)
    else
      let fraction := digits.drop 1
      String.ofList (digits.take 1 ++ (if fraction.isEmpty then [] else '.' :: fraction))
        ++ (if 0 < point then "e+" else "e") ++ toString (point - 1)

end Real

end GrantSurvey.Json
