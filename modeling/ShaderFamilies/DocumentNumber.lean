import ShaderFamilies.DocumentScan

/-!
# Numbers in a document

A number without point and exponent is an integer when it fits into 64 bits,
signed if it is negative.  Every other number is a floating point number: a
significand of at most 64 bits, scaled by a power of ten.  A number beyond the
floating point range is refused where it is first known to be.
-/

namespace ShaderFamilies

namespace Document

inductive Number
  | integer (value : Int)
  | real (value : Float)

def Number.found : Number → Found
  | .integer value => .integer value
  | .real value => .real value

def significandLimit : Nat := Nat.pow 2 64

/-- The least absolute value without a negative integer. -/
def negativeLimit : Nat := Nat.pow 2 63

/-- The greatest exponent that is read digit by digit. -/
def exponentLimit : Nat := Nat.pow 2 31 - 1

def greatestPower : Nat := 308

def powerOfTen (exponent : Nat) : Float :=
  Float.ofScientific 1 false exponent

def divided (value : Float) (exponent : Nat) : Float :=
  if exponent ≤ greatestPower then value / powerOfTen exponent
  else if value == 0 then value
  else divided (value / powerOfTen greatestPower) (exponent - greatestPower)
termination_by exponent
decreasing_by
  have : greatestPower = 308 := rfl
  omega

/-- A significand scaled by a power of ten, if it stays in the range. -/
def scaled? (significand : Nat) (exponent : Int) : Option Float :=
  let value := significand.toUInt64.toFloat
  if exponent < 0 then some (divided value exponent.natAbs)
  else if exponent.natAbs ≤ greatestPower then
    let product := value * powerOfTen exponent.natAbs
    if product.isInf then none else some product
  else if value == 0 then some value
  else none

def finish (negative : Bool) (significand : Nat) (exponent : Int) (rest : Bytes) :
    Except Failure (Number × Bytes) :=
  match scaled? significand exponent with
  | some value => .ok (.real (if negative then -value else value), rest)
  | none => failHere .numberRange rest

def isExponentMark (byte : UInt8) : Bool :=
  byte == 0x65 || byte == 0x45

/-- The digits of an exponent after the first one.  `shift` is the power of
ten that the significand has so far, and `down` the sign of the exponent. -/
def readExponentDigits (negative : Bool) (significand : Nat) (shift : Int)
    (down : Bool) (exponent : Nat) : Bytes → Except Failure (Number × Bytes)
  | [] =>
      finish negative significand (if down then shift - exponent else shift + exponent) []
  | byte :: rest =>
      if isDigit byte then
        if exponentLimit < exponent * 10 + digitValue byte then
          if significand = 0 ∨ down then
            .ok (.real (if negative then -0.0 else 0.0), rest.dropWhile isDigit)
          else failHere .numberRange rest
        else
          readExponentDigits negative significand shift down
            (exponent * 10 + digitValue byte) rest
      else
        finish negative significand
          (if down then shift - exponent else shift + exponent) (byte :: rest)

def readExponentValue (negative : Bool) (significand : Nat) (shift : Int)
    (down : Bool) : Bytes → Except Failure (Number × Bytes)
  | [] => failHere .endInValue []
  | byte :: rest =>
      if isDigit byte then
        readExponentDigits negative significand shift down (digitValue byte) rest
      else failHere .invalidNumber rest

def readExponent (negative : Bool) (significand : Nat) (shift : Int) :
    Bytes → Except Failure (Number × Bytes)
  | [] => readExponentValue negative significand shift false []
  | byte :: rest =>
      if byte = plusSign then readExponentValue negative significand shift false rest
      else if byte = minusSign then
        readExponentValue negative significand shift true rest
      else readExponentValue negative significand shift false (byte :: rest)

def readScale (negative : Bool) (significand : Nat) (shift : Int) :
    Bytes → Except Failure (Number × Bytes)
  | [] => finish negative significand shift []
  | byte :: rest =>
      if isExponentMark byte then readExponent negative significand shift rest
      else finish negative significand shift (byte :: rest)

/-- The digits after the point, of which `count` were read.  Digits beyond the
significand are dropped. -/
def readFraction (negative : Bool) (significand : Nat) (shift : Int) (count : Nat) :
    Bytes → Except Failure (Number × Bytes)
  | [] =>
      if count = 0 then failNext .endInValue []
      else readScale negative significand (shift - count) []
  | byte :: rest =>
      if isDigit byte then
        if significandLimit ≤ significand * 10 + digitValue byte then
          readScale negative significand (shift - count) (rest.dropWhile isDigit)
        else
          readFraction negative (significand * 10 + digitValue byte) shift
            (count + 1) rest
      else if count = 0 then failNext .invalidNumber (byte :: rest)
      else readScale negative significand (shift - count) (byte :: rest)

/-- The digits before the point that do not fit into the significand: each one
counts as a power of ten. -/
def readLongInteger (negative : Bool) (significand count : Nat) :
    Bytes → Except Failure (Number × Bytes)
  | [] => finish negative significand count []
  | byte :: rest =>
      if isDigit byte then readLongInteger negative significand (count + 1) rest
      else if byte = point then readFraction negative significand count 0 rest
      else if isExponentMark byte then readExponent negative significand count rest
      else finish negative significand count (byte :: rest)

/-- An integer.  Negative zero and integers below the signed range are
floating point numbers. -/
def wholeNumber (negative : Bool) (significand : Nat) : Number :=
  if negative then
    if significand = 0 ∨ negativeLimit < significand then
      .real (-significand.toUInt64.toFloat)
    else .integer (-significand)
  else .integer significand

def readAfterInteger (negative : Bool) (significand : Nat) :
    Bytes → Except Failure (Number × Bytes)
  | [] => .ok (wholeNumber negative significand, [])
  | byte :: rest =>
      if byte = point then readFraction negative significand 0 0 rest
      else if isExponentMark byte then readExponent negative significand 0 rest
      else .ok (wholeNumber negative significand, byte :: rest)

def readIntegerDigits (negative : Bool) (significand : Nat) :
    Bytes → Except Failure (Number × Bytes)
  | [] => readAfterInteger negative significand []
  | byte :: rest =>
      if isDigit byte then
        if significandLimit ≤ significand * 10 + digitValue byte then
          readLongInteger negative significand 1 rest
        else
          readIntegerDigits negative (significand * 10 + digitValue byte) rest
      else readAfterInteger negative significand (byte :: rest)

/-- A number after its sign.  A leading zero stands alone. -/
def readMagnitude (negative : Bool) : Bytes → Except Failure (Number × Bytes)
  | [] => failHere .endInValue []
  | byte :: rest =>
      if byte = digitZero then
        if rest.head?.any isDigit then failNext .invalidNumber rest
        else readAfterInteger negative 0 rest
      else if isDigit byte then readIntegerDigits negative (digitValue byte) rest
      else failHere .invalidNumber rest

def readNumber : Bytes → Except Failure (Number × Bytes)
  | [] => readMagnitude false []
  | byte :: rest =>
      if byte = minusSign then readMagnitude true rest
      else readMagnitude false (byte :: rest)

/-! ## Numbers leave fewer bytes -/

section

variable {negative down : Bool} {significand count exponent : Nat} {shift : Int}
  {text rest : Bytes} {byte : UInt8} {value : Number}

theorem length_le_of_finish
    (hfinish : finish negative significand shift text = .ok (value, rest)) :
    rest.length ≤ text.length := by
  unfold finish at hfinish
  split at hfinish
  · simp only [Except.ok.injEq, Prod.mk.injEq] at hfinish
    simp [← hfinish.2]
  · simp [failHere] at hfinish

theorem length_dropWhile_le (text : Bytes) :
    (text.dropWhile isDigit).length ≤ text.length :=
  (List.dropWhile_sublist isDigit).length_le

theorem length_le_of_readExponentDigits
    (hread : readExponentDigits negative significand shift down exponent text =
      .ok (value, rest)) :
    rest.length ≤ text.length := by
  induction text generalizing exponent with
  | nil => exact length_le_of_finish hread
  | cons byte text ih =>
      simp only [readExponentDigits] at hread
      split at hread
      · split at hread
        · split at hread
          · simp only [Except.ok.injEq, Prod.mk.injEq] at hread
            have := length_dropWhile_le text
            simp only [← hread.2, List.length_cons]
            omega
          · simp [failHere] at hread
        · exact Nat.le_succ_of_le (ih hread)
      · exact length_le_of_finish hread

theorem length_le_of_readExponentValue
    (hread : readExponentValue negative significand shift down text =
      .ok (value, rest)) :
    rest.length ≤ text.length := by
  unfold readExponentValue at hread
  split at hread
  · simp [failHere] at hread
  · split at hread
    · exact Nat.le_succ_of_le (length_le_of_readExponentDigits hread)
    · simp [failHere] at hread

theorem length_le_of_readExponent
    (hread : readExponent negative significand shift text = .ok (value, rest)) :
    rest.length ≤ text.length := by
  unfold readExponent at hread
  split at hread
  · exact length_le_of_readExponentValue hread
  · split at hread
    · exact Nat.le_succ_of_le (length_le_of_readExponentValue hread)
    · split at hread
      · exact Nat.le_succ_of_le (length_le_of_readExponentValue hread)
      · exact length_le_of_readExponentValue hread

theorem length_le_of_readScale
    (hread : readScale negative significand shift text = .ok (value, rest)) :
    rest.length ≤ text.length := by
  unfold readScale at hread
  split at hread
  · exact length_le_of_finish hread
  · split at hread
    · exact Nat.le_succ_of_le (length_le_of_readExponent hread)
    · exact length_le_of_finish hread

theorem length_le_of_readFraction
    (hread : readFraction negative significand shift count text = .ok (value, rest)) :
    rest.length ≤ text.length := by
  induction text generalizing significand count with
  | nil =>
      simp only [readFraction] at hread
      split at hread
      · simp [failNext] at hread
      · exact length_le_of_readScale hread
  | cons byte text ih =>
      simp only [readFraction] at hread
      split at hread
      · split at hread
        · have hscale := length_le_of_readScale hread
          have := length_dropWhile_le text
          simp only [List.length_cons]
          omega
        · exact Nat.le_succ_of_le (ih hread)
      · split at hread
        · simp [failNext] at hread
        · exact length_le_of_readScale hread

theorem length_le_of_readLongInteger
    (hread : readLongInteger negative significand count text = .ok (value, rest)) :
    rest.length ≤ text.length := by
  induction text generalizing count with
  | nil => exact length_le_of_finish hread
  | cons byte text ih =>
      simp only [readLongInteger] at hread
      split at hread
      · exact Nat.le_succ_of_le (ih hread)
      · split at hread
        · exact Nat.le_succ_of_le (length_le_of_readFraction hread)
        · split at hread
          · exact Nat.le_succ_of_le (length_le_of_readExponent hread)
          · exact length_le_of_finish hread

theorem length_le_of_readAfterInteger
    (hread : readAfterInteger negative significand text = .ok (value, rest)) :
    rest.length ≤ text.length := by
  unfold readAfterInteger at hread
  split at hread
  · simp only [Except.ok.injEq, Prod.mk.injEq] at hread
    simp [← hread.2]
  · split at hread
    · exact Nat.le_succ_of_le (length_le_of_readFraction hread)
    · split at hread
      · exact Nat.le_succ_of_le (length_le_of_readExponent hread)
      · simp only [Except.ok.injEq, Prod.mk.injEq] at hread
        simp [← hread.2]

theorem length_le_of_readIntegerDigits
    (hread : readIntegerDigits negative significand text = .ok (value, rest)) :
    rest.length ≤ text.length := by
  induction text generalizing significand with
  | nil => exact length_le_of_readAfterInteger hread
  | cons byte text ih =>
      simp only [readIntegerDigits] at hread
      split at hread
      · split at hread
        · exact Nat.le_succ_of_le (length_le_of_readLongInteger hread)
        · exact Nat.le_succ_of_le (ih hread)
      · exact length_le_of_readAfterInteger hread

theorem length_lt_of_readMagnitude
    (hread : readMagnitude negative text = .ok (value, rest)) :
    rest.length < text.length := by
  unfold readMagnitude at hread
  split at hread
  · simp [failHere] at hread
  · split at hread
    · split at hread
      · simp [failNext] at hread
      · exact Nat.lt_succ_of_le (length_le_of_readAfterInteger hread)
    · split at hread
      · exact Nat.lt_succ_of_le (length_le_of_readIntegerDigits hread)
      · simp [failHere] at hread

theorem length_lt_of_readNumber (hread : readNumber text = .ok (value, rest)) :
    rest.length < text.length := by
  unfold readNumber at hread
  split at hread
  · exact length_lt_of_readMagnitude hread
  · split at hread
    · exact Nat.lt_succ_of_lt (length_lt_of_readMagnitude hread)
    · exact length_lt_of_readMagnitude hread

end

end Document

end ShaderFamilies
