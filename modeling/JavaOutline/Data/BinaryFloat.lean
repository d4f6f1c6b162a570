/-!
# Double-precision numbers

A number with a fraction arrives as a double: a sign, a significand and a power of two. Two
things are asked of it: the whole number that it is, if it is one, and its text. The text has the
fewest decimal digits that lie closer to the number than to any other double, and the digits
nearest to the number among those. They are found on the coarsest power of ten that has a multiple
in the interval of reals that round to the number.
-/

namespace JavaOutline.Data

/-- A double-precision number. A finite one is its significand times a power of two, the
significand below `2 ^ 53` and the exponent at least `-1074`. -/
inductive BinaryFloat where
  | finite (negative : Bool) (significand : Nat) (exponent : Int)
  | infinite (negative : Bool)
  | notANumber
deriving DecidableEq, Repr

/-- How texts of numbers are laid out. -/
structure FloatFormat where
  /-- The least place of the decimal point at which no exponent is written. -/
  leastPoint : Int
  /-- The greatest place of the decimal point at which no exponent is written. -/
  greatestPoint : Int
  /-- The least number of digits in an exponent. -/
  exponentDigits : Nat

/-- Numbers from a ten-thousandth up to below ten to the sixteenth are written without an exponent,
which otherwise has a sign and at least two digits. -/
def floatFormat : FloatFormat :=
  ⟨-3, 16, 2⟩

namespace BinaryFloat

/-- A power with an integer exponent, as numerator and denominator. -/
def powerParts (base : Nat) (exponent : Int) : Nat × Nat :=
  (base.pow exponent.toNat, base.pow (-exponent).toNat)

/-- The whole number that a double is, if it is one. -/
def toInt? : BinaryFloat → Option Int
  | finite negative significand exponent =>
    let (up, down) := powerParts 2 exponent
    if significand * up % down = 0 then
      let n : Int := (significand * up / down : Nat)
      some (if negative then -n else n)
    else none
  | _ => none

/-- The whole number that a double is, if it lies strictly between the ends of the 64-bit words. -/
def toWord? (x : BinaryFloat) : Option Int :=
  x.toInt?.filter fun n => -(Int.pow 2 63) < n && n < Int.pow 2 63

/-- Whether a double is a number, rather than an infinity or an undefined result. -/
def isFinite : BinaryFloat → Bool
  | finite .. => true
  | _ => false

/-- The multiple of `10 ^ power` nearest to a number, if one rounds to the number; of two that are
equally near, the even one. The four ends and multiples are compared as whole numbers, after both
sides are cleared of denominators. -/
def nearestMultiple? (significand : Nat) (exponent power : Int) : Option Nat :=
  let (tenUp, tenDown) := powerParts 10 power
  let (twoUp, twoDown) := powerParts 2 (exponent - 2)
  let unit := tenUp * twoDown
  let scale := twoUp * tenDown
  let value := 4 * significand * scale
  let low :=
    (4 * significand - if significand = Nat.pow 2 52 ∧ -1074 < exponent then 1 else 2) * scale
  let high := (4 * significand + 2) * scale
  let reads := fun (n : Nat) =>
    0 < n && (if significand % 2 = 0 then low ≤ n * unit && n * unit ≤ high
      else low < n * unit && n * unit < high)
  let below := value / unit
  let above := below + 1
  match reads below, reads above with
  | true, true =>
    let down := value - below * unit
    let up := above * unit - value
    if down < up ∨ (down = up ∧ below % 2 = 0) then some below else some above
  | true, false => some below
  | false, true => some above
  | false, false => none

/-- Looks for digits on ever finer powers of ten, from `10 ^ (steps - 345)` down. -/
def searchDigits (significand : Nat) (exponent : Int) : Nat → Nat × Int
  | 0 => (significand, exponent)
  | steps + 1 =>
    let power : Int := (steps : Int) - 345
    match nearestMultiple? significand exponent power with
    | some n => (n, power)
    | none => searchDigits significand exponent steps

/-- Zeros in front of a text up to a width. -/
def padZeros (width : Nat) (cs : List Char) : List Char :=
  List.replicate (width - cs.length) '0' ++ cs

/-- Lays out decimal digits whose decimal point stands after `point` of them. -/
def layOut (format : FloatFormat) (digits : List Char) (point : Int) : List Char :=
  if format.leastPoint ≤ point ∧ point ≤ format.greatestPoint then
    if point ≤ 0 then
      '0' :: '.' :: List.replicate (-point).toNat '0' ++ digits
    else if digits.length ≤ point.toNat then
      digits ++ List.replicate (point.toNat - digits.length) '0' ++ ['.', '0']
    else digits.take point.toNat ++ '.' :: digits.drop point.toNat
  else
    let exponent := point - 1
    let mark := if exponent < 0 then '-' else '+'
    let fraction := match digits.drop 1 with
      | [] => []
      | rest => '.' :: rest
    digits.take 1 ++ fraction ++ 'e' :: mark ::
      padZeros format.exponentDigits (Nat.toDigits 10 exponent.natAbs)

/-- The text of a finite number that is not negative. -/
def magnitudeText (significand : Nat) (exponent : Int) : List Char :=
  if significand = 0 then ['0', '.', '0']
  else
    let (n, power) := searchDigits significand exponent 660
    let digits := Nat.toDigits 10 n
    layOut floatFormat digits (digits.length + power)

/-- The text of a double. -/
def text : BinaryFloat → String
  | finite negative significand exponent =>
    String.ofList ((if negative then ['-'] else []) ++ magnitudeText significand exponent)
  | infinite negative => if negative then "-inf" else "inf"
  | notANumber => "nan"

end BinaryFloat

end JavaOutline.Data
