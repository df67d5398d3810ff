import Mathlib.Tactic.IntervalCases
import ShaderFamilies.DocumentSkip
import ShaderFamilies.Proofs.DocumentGrammar

/-!
# Reading the digits of a number

The digits of a number are read back as the number, and passed over, up to a
byte that does not continue them.
-/

namespace ShaderFamilies

namespace Document

/-! ## Digits -/

/-- The value of digits behind a number. -/
def valueAfter (significand : Nat) (digits : Bytes) : Nat :=
  digits.foldl (fun value digit => value * 10 + digitValue digit) significand

theorem le_valueAfter (significand : Nat) (digits : Bytes) :
    significand ≤ valueAfter significand digits := by
  induction digits generalizing significand with
  | nil => exact Nat.le_refl significand
  | cons digit digits ih =>
      have hnext := ih (significand * 10 + digitValue digit)
      change significand ≤ valueAfter (significand * 10 + digitValue digit) digits
      omega

def digitByte (digit : Nat) : UInt8 :=
  UInt8.ofNat (0x30 + digit)

theorem digitByte_spec {digit : Nat} (hdigit : digit < 10) :
    isDigit (digitByte digit) = true ∧ digitValue (digitByte digit) = digit := by
  interval_cases digit <;> decide

theorem numeral_of_lt {magnitude : Nat} (hlt : magnitude < 10) :
    numeral magnitude = [digitByte magnitude] := by
  interval_cases magnitude <;> decide

theorem numeral_of_le {magnitude : Nat} (hle : 10 ≤ magnitude) :
    numeral magnitude = numeral (magnitude / 10) ++ [digitByte (magnitude % 10)] := by
  have hlast : String.utf8EncodeChar (magnitude % 10).digitChar =
      [digitByte (magnitude % 10)] := by
    have hdigit : magnitude % 10 < 10 := Nat.mod_lt _ (by decide)
    generalize magnitude % 10 = digit at hdigit
    interval_cases digit <;> decide
  unfold numeral Utf8.encode
  rw [Nat.toString_eq_ofList_toDigits, Nat.toString_eq_ofList_toDigits, String.toList_ofList,
    String.toList_ofList, Nat.toDigits_of_base_le (by decide) hle, List.flatMap_append,
    List.flatMap_singleton, hlast]

/-- Zero stands alone; every other number has digits that do not start with a
zero. -/
theorem numeral_digits (magnitude : Nat) :
    (magnitude = 0 ∧ numeral magnitude = [digitZero]) ∨
      ∃ first others, numeral magnitude = first :: others ∧ first ≠ digitZero ∧
        isDigit first = true ∧ (∀ digit ∈ others, isDigit digit = true) ∧
        valueAfter (digitValue first) others = magnitude := by
  induction magnitude using Nat.strongRecOn with
  | ind magnitude ih =>
      by_cases hlt : magnitude < 10
      · by_cases hzero : magnitude = 0
        · subst hzero
          exact Or.inl ⟨rfl, by decide⟩
        · obtain ⟨hdigit, hvalue⟩ := digitByte_spec hlt
          refine Or.inr ⟨digitByte magnitude, [], numeral_of_lt hlt, ?_, hdigit, ?_, hvalue⟩
          · intro hfirst
            rw [hfirst] at hvalue
            exact hzero hvalue.symm
          · intro digit hmem
            cases hmem
      · have hmod : magnitude % 10 < 10 := Nat.mod_lt _ (by decide)
        obtain ⟨hdigit, hvalue⟩ := digitByte_spec hmod
        rcases ih (magnitude / 10) (by omega) with
          ⟨hzero, _⟩ | ⟨first, others, hdigits, hfirst, hfirstDigit, hothers, hquotient⟩
        · omega
        · refine Or.inr ⟨first, others ++ [digitByte (magnitude % 10)], ?_, hfirst,
            hfirstDigit, ?_, ?_⟩
          · rw [numeral_of_le (by omega), hdigits, List.cons_append]
          · intro digit hmem
            rcases List.mem_append.mp hmem with hmem | hmem
            · exact hothers digit hmem
            · rw [List.mem_singleton.mp hmem]
              exact hdigit
          · unfold valueAfter at hquotient ⊢
            rw [List.foldl_append, hquotient, List.foldl_cons, List.foldl_nil, hvalue]
            omega

/-! ## What follows a value -/

/-- What may follow a value inside of an object or at the end of a text. -/
def Ends (rest : Bytes) : Prop :=
  ∀ byte ∈ rest.head?, isBlank byte = true ∨ byte = comma ∨ byte = closeBrace

theorem Ends.apart {byte : UInt8} {rest : Bytes} (hends : Ends (byte :: rest)) :
    isDigit byte = false ∧ byte ≠ point ∧ isExponentMark byte = false := by
  have hbyte := hends byte rfl
  simp only [isBlank, Bool.or_eq_true, beq_iff_eq] at hbyte
  rcases hbyte with (((hbyte | hbyte) | hbyte) | hbyte) | hbyte | hbyte <;>
    rw [hbyte] <;> decide

theorem Ends.not_digit {rest : Bytes} (hends : Ends rest) :
    rest.head?.any isDigit = false := by
  cases rest with
  | nil => rfl
  | cons byte rest => exact hends.apart.1

/-! ## Reading -/

section

variable {rest : Bytes} {negative : Bool}

theorem readAfterInteger_ends (hends : Ends rest) (significand : Nat) :
    readAfterInteger negative significand rest =
      .ok (wholeNumber negative significand, rest) := by
  cases rest with
  | nil => rfl
  | cons byte rest =>
      obtain ⟨_, hpoint, hmark⟩ := hends.apart
      rw [readAfterInteger, if_neg hpoint, hmark]
      rfl

theorem readIntegerDigits_append (hends : Ends rest) {digits : Bytes}
    (hdigits : ∀ digit ∈ digits, isDigit digit = true) {significand : Nat}
    (hlimit : valueAfter significand digits < significandLimit) :
    readIntegerDigits negative significand (digits ++ rest) =
      .ok (wholeNumber negative (valueAfter significand digits), rest) := by
  induction digits generalizing significand with
  | nil =>
      rw [List.nil_append]
      cases rest with
      | nil => exact readAfterInteger_ends hends significand
      | cons byte rest =>
          rw [readIntegerDigits, hends.apart.1]
          exact readAfterInteger_ends hends significand
  | cons digit digits ih =>
      have hdigit := hdigits digit List.mem_cons_self
      have hvalue := le_valueAfter (significand * 10 + digitValue digit) digits
      change valueAfter (significand * 10 + digitValue digit) digits < _ at hlimit
      rw [List.cons_append, readIntegerDigits, if_pos hdigit, if_neg (by omega)]
      exact ih (fun other hmem => hdigits other (List.mem_cons_of_mem digit hmem)) hlimit

theorem readMagnitude_append (hends : Ends rest) {magnitude : Nat}
    (hlimit : magnitude < significandLimit) :
    readMagnitude negative (numeral magnitude ++ rest) =
      .ok (wholeNumber negative magnitude, rest) := by
  rcases numeral_digits magnitude with
    ⟨hzero, hdigits⟩ | ⟨first, others, hdigits, hfirst, hfirstDigit, hothers, hvalue⟩
  · rw [hdigits, hzero, List.singleton_append, readMagnitude, if_pos rfl, hends.not_digit]
    exact readAfterInteger_ends hends 0
  · rw [hdigits, List.cons_append, readMagnitude, if_neg hfirst, if_pos hfirstDigit]
    rw [← hvalue] at hlimit
    rw [readIntegerDigits_append hends hothers hlimit, hvalue]

theorem dropWhile_digits_append (hends : Ends rest) {digits : Bytes}
    (hdigits : ∀ digit ∈ digits, isDigit digit = true) :
    (digits ++ rest).dropWhile isDigit = rest := by
  rw [List.dropWhile_append_of_pos hdigits]
  cases rest with
  | nil => rfl
  | cons byte rest => rw [List.dropWhile_cons, hends.apart.1]; rfl

theorem skipAfterInteger_ends (hends : Ends rest) : skipAfterInteger rest = .ok rest := by
  cases rest with
  | nil => rfl
  | cons byte rest =>
      obtain ⟨_, hpoint, hmark⟩ := hends.apart
      rw [skipAfterInteger, if_neg hpoint, skipScale, hmark]
      rfl

theorem skipMagnitude_append (hends : Ends rest) (magnitude : Nat) :
    skipMagnitude (numeral magnitude ++ rest) = .ok rest := by
  rcases numeral_digits magnitude with
    ⟨_, hdigits⟩ | ⟨first, others, hdigits, hfirst, hfirstDigit, hothers, _⟩
  · rw [hdigits, List.singleton_append, skipMagnitude, if_pos rfl, hends.not_digit]
    exact skipAfterInteger_ends hends
  · rw [hdigits, List.cons_append, skipMagnitude, if_neg hfirst, if_pos hfirstDigit,
      dropWhile_digits_append hends hothers]
    exact skipAfterInteger_ends hends

end

end Document

end ShaderFamilies
