/-!
# The shortest decimal of a floating point number

A finite number is written with the fewest digits that read back as the same
number, and of those with the digits nearest to it.  The number is an integer
times a power of two, so all comparisons are exact ones of natural numbers.
-/

namespace ShaderFamilies

namespace Decimal

/-- A positive number `significand * 2 ^ exponent`. -/
structure Binary where
  significand : Nat
  exponent : Int
  /-- Whether the gap below the number is half of the gap above it. -/
  narrowBelow : Bool

def Binary.ofBits (bits : UInt64) : Binary :=
  let fraction : Nat := bits.toNat % Nat.pow 2 52
  let scale : Nat := bits.toNat / Nat.pow 2 52 % Nat.pow 2 11
  if scale = 0 then
    { significand := fraction, exponent := -1074, narrowBelow := false }
  else
    { significand := fraction + Nat.pow 2 52
      exponent := (scale : Int) - 1075
      narrowBelow := fraction = 0 && 1 < scale }

/-- Digits and the power of ten that they count. -/
structure Digits where
  digits : Nat
  exponent : Int

/-- Quarters of the unit in the last place of a binary number, as a fraction. -/
def Binary.quarter (number : Binary) : Nat × Nat :=
  if 2 ≤ number.exponent then (Nat.pow 2 (number.exponent - 2).toNat, 1)
  else (1, Nat.pow 2 (2 - number.exponent).toNat)

/-- The multiple of a power of ten next to the number that reads back as it,
if there is one.  Of two, the nearer one counts, and of two equally near ones
the even one. -/
def Binary.nearest? (number : Binary) (exponent : Int) : Option Nat :=
  let unit := number.quarter.1 * Nat.pow 10 (-exponent).toNat
  let grid := number.quarter.2 * Nat.pow 10 exponent.toNat
  let value := 4 * number.significand * unit
  let above := value + 2 * unit
  let below := value - (if number.narrowBelow then unit else 2 * unit)
  let even := number.significand % 2 = 0
  let readsBack (candidate : Nat) : Bool :=
    (below < candidate * grid && candidate * grid < above) ||
      (even && (candidate * grid = below || candidate * grid = above))
  let lower := value / grid
  let upper := lower + 1
  match readsBack lower, readsBack upper with
  | true, false => some lower
  | false, true => some upper
  | false, false => none
  | true, true =>
      let down := value - lower * grid
      let up := upper * grid - value
      if down < up ∨ down = up ∧ lower % 2 = 0 then some lower else some upper

/-- The coarsest power of ten, at most the given one, at which some multiple
reads back. -/
def Binary.search (number : Binary) : Nat → Int → Digits
  | 0, exponent => ⟨0, exponent⟩
  | fuel + 1, exponent =>
      match number.nearest? exponent with
      | some digits => ⟨digits, exponent⟩
      | none => number.search fuel (exponent - 1)

/-- The digits of a positive finite number.  No such number reaches the power
of ten at which the search starts, and each has at most 17 digits, the last of
them no further than the end of the search. -/
def Binary.digits (number : Binary) : Digits :=
  number.search 660 309

def longestWhole : Int := 16

def leastPosition : Int := -5

def zeros (count : Int) : List Char :=
  List.replicate count.toNat '0'

/-- Positional notation with a point for the moderate numbers, and otherwise
one digit before the point and a power of ten. -/
def Digits.text (number : Digits) : List Char :=
  let digits := Nat.toDigits 10 number.digits
  let position := digits.length + number.exponent
  if 0 ≤ number.exponent ∧ position ≤ longestWhole then
    digits ++ zeros number.exponent ++ ['.', '0']
  else if 0 < position ∧ position ≤ longestWhole then
    digits.take position.toNat ++ '.' :: digits.drop position.toNat
  else if leastPosition < position ∧ position ≤ 0 then
    '0' :: '.' :: zeros (-position) ++ digits
  else
    digits.take 1 ++ (if digits.length = 1 then [] else '.' :: digits.drop 1) ++
      'e' :: (toString (position - 1)).toList

def text (value : Float) : String :=
  let bits := value.toBits
  let sign := if bits.toNat / Nat.pow 2 63 = 1 then ['-'] else []
  let binary := Binary.ofBits bits
  String.ofList <| sign ++
    if binary.significand = 0 then ['0', '.', '0'] else binary.digits.text

end Decimal

end ShaderFamilies
