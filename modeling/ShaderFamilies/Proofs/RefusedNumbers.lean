import ShaderFamilies.Proofs.PlainReading

/-!
# Numbers that are not words

A word has no sign and at most 32 bits.  Any other number is refused where a
word is expected, however many digits it has: the digits that do not fit into
the significand are counted and not added, so that none is lost and the number
is not taken for a smaller one.
-/

namespace ShaderFamilies

namespace Document

/-! ## Long numbers -/

section

variable {rest digits : Bytes} {negative : Bool}

theorem readLongInteger_append (hends : Ends rest)
    (hdigits : ∀ digit ∈ digits, isDigit digit = true) (kept count : Nat) :
    readLongInteger negative kept count (digits ++ rest) =
      finish negative kept ((count + digits.length : Nat) : Int) rest := by
  induction digits generalizing count with
  | nil =>
      rw [List.nil_append]
      cases rest with
      | nil => rfl
      | cons byte rest =>
          obtain ⟨hdigit, hpoint, hmark⟩ := hends.apart
          rw [readLongInteger, hdigit, if_neg hpoint, hmark]
          rfl
  | cons digit digits ih =>
      rw [List.cons_append, readLongInteger, if_pos (hdigits digit List.mem_cons_self),
        ih (fun other hmem => hdigits other (List.mem_cons_of_mem digit hmem)),
        List.length_cons, Nat.add_right_comm, Nat.add_assoc]

theorem readIntegerDigits_long (hends : Ends rest)
    (hdigits : ∀ digit ∈ digits, isDigit digit = true) {significand : Nat}
    (hstart : significand < significandLimit)
    (hlong : significandLimit ≤ valueAfter significand digits) :
    ∃ kept dropped : Nat, readIntegerDigits negative significand (digits ++ rest) =
      finish negative kept dropped rest := by
  induction digits generalizing significand with
  | nil => exact absurd hlong (Nat.not_le_of_lt hstart)
  | cons digit digits ih =>
      have hothers : ∀ other ∈ digits, isDigit other = true :=
        fun other hmem => hdigits other (List.mem_cons_of_mem digit hmem)
      rw [List.cons_append, readIntegerDigits, if_pos (hdigits digit List.mem_cons_self)]
      -- the first digit that does not fit is dropped, and all that follow it
      split
      · exact ⟨significand, 1 + digits.length, readLongInteger_append hends hothers _ _⟩
      · next hfits => exact ih hothers (Nat.lt_of_not_le hfits) hlong

theorem readMagnitude_long (hends : Ends rest) {magnitude : Nat}
    (hlong : significandLimit ≤ magnitude) :
    ∃ kept dropped : Nat, readMagnitude negative (numeral magnitude ++ rest) =
      finish negative kept dropped rest := by
  rcases numeral_digits magnitude with
    ⟨hzero, _⟩ | ⟨first, others, hdigits, hfirst, hfirstDigit, hothers, hvalue⟩
  · rw [hzero] at hlong
    exact absurd hlong (by decide)
  · rw [hdigits, List.cons_append, readMagnitude, if_neg hfirst, if_pos hfirstDigit]
    rw [← hvalue] at hlong
    have hbyte : digitValue first < significandLimit :=
      Nat.lt_of_le_of_lt (Nat.sub_le _ _) (Nat.lt_trans first.toNat_lt (by decide))
    exact readIntegerDigits_long hends hothers hbyte hlong

end

/-! ## Refusing them -/

/-- Wherever the text stands, the reader fails for such a cause. -/
def Reader.Rejects {α : Type} (reader : Reader α) (text : Bytes) (why : Cause → Prop) : Prop :=
  ∀ blanks rest, Blanks blanks → Ends rest →
    ∃ failure, reader.read (blanks ++ (text ++ rest)) = .error failure ∧ why failure.cause

theorem Reader.Rejects.map {α β : Type} {reader : Reader α} {text : Bytes}
    {why : Cause → Prop} (hrejects : reader.Rejects text why) (change : α → β) :
    (reader.map change).Rejects text why := by
  intro blanks rest hblanks hends
  obtain ⟨failure, hread, hwhy⟩ := hrejects blanks rest hblanks hends
  refine ⟨failure, ?_, hwhy⟩
  simp only [Reader.map]
  rw [hread]

/-- Whether a number is read as an integer.  There is no integer for zero with a
sign. -/
def IsInteger (negative : Bool) (magnitude : Nat) : Prop :=
  if negative then magnitude ≠ 0 ∧ magnitude ≤ negativeLimit
  else magnitude < significandLimit

/-- Why a number is refused: the number itself if it is an integer, or else a
floating point number, or none if there is none so large. -/
inductive RefusesNumber (negative : Bool) (magnitude : Nat) : Cause → Prop
  | integer (hinteger : IsInteger negative magnitude) : RefusesNumber negative magnitude
      (.value (.integer (if negative then -magnitude else magnitude)) wordName)
  | real (hinteger : ¬ IsInteger negative magnitude) (value : Float) :
      RefusesNumber negative magnitude (.kind (.real value) wordName)
  | range (hinteger : ¬ IsInteger negative magnitude) :
      RefusesNumber negative magnitude .numberRange

section

variable {negative : Bool} {magnitude : Nat} {text rest : Bytes}

/-- A word that was read as a number. -/
def wordOfRead : Except Failure (Number × Bytes) → Except Failure (UInt32 × Bytes)
  | .ok (number, rest) => wordOf number rest
  | .error failure => .error failure

theorem wordOf_wholeNumber_of_refused (hlimit : magnitude < significandLimit)
    (hrefused : negative = true ∨ UInt32.size ≤ magnitude) :
    ∃ failure, wordOf (wholeNumber negative magnitude) rest = .error failure ∧
      RefusesNumber negative magnitude failure.cause := by
  cases negative with
  | false =>
      have hsize : ¬ magnitude < UInt32.size := Nat.not_lt_of_le (hrefused.resolve_left nofun)
      exact ⟨_, if_neg fun hword => hsize hword.2, .integer hlimit⟩
  | true =>
      unfold wholeNumber
      rw [if_pos rfl]
      split
      · next hbeyond =>
          refine ⟨_, rfl, .real (fun hinteger => ?_) _⟩
          obtain ⟨hzero, hfits⟩ := hinteger
          exact hbeyond.elim hzero (Nat.not_lt_of_le hfits)
      · next hfits =>
          obtain ⟨hzero, hlimit⟩ := not_or.mp hfits
          refine ⟨_, if_neg fun hword => ?_, .integer ⟨hzero, Nat.le_of_not_lt hlimit⟩⟩
          omega

theorem wordOfRead_finish (hlong : significandLimit ≤ magnitude) (kept : Nat)
    (dropped : Int) :
    ∃ failure, wordOfRead (finish negative kept dropped rest) = .error failure ∧
      RefusesNumber negative magnitude failure.cause := by
  have hinteger : ¬ IsInteger negative magnitude := by
    cases negative with
    | false => exact Nat.not_lt_of_le hlong
    | true =>
        have hlimit : negativeLimit < significandLimit := by decide
        exact fun hinteger => absurd hinteger.2 (Nat.not_le_of_lt (Nat.lt_of_lt_of_le hlimit hlong))
  unfold finish
  split
  · exact ⟨_, rfl, .real hinteger _⟩
  · exact ⟨_, rfl, .range hinteger⟩

theorem wordOfRead_magnitude (hends : Ends rest)
    (hrefused : negative = true ∨ UInt32.size ≤ magnitude) :
    ∃ failure, wordOfRead (readMagnitude negative (numeral magnitude ++ rest)) =
        .error failure ∧ RefusesNumber negative magnitude failure.cause := by
  by_cases hlimit : magnitude < significandLimit
  · rw [readMagnitude_append hends hlimit]
    exact wordOf_wholeNumber_of_refused hlimit hrefused
  · have hlong := Nat.le_of_not_lt hlimit
    obtain ⟨kept, dropped, hread⟩ : ∃ kept dropped : Nat,
        readMagnitude negative (numeral magnitude ++ rest) =
          finish negative kept dropped rest := readMagnitude_long hends hlong
    rw [hread]
    exact wordOfRead_finish hlong kept dropped

/-- The reader of words reads the digits of a number behind its sign. -/
theorem readWord_integer (htext : PlainText (.integer negative magnitude) text)
    {blanks : Bytes} (hblanks : Blanks blanks) :
    readWord (blanks ++ (text ++ rest)) =
      wordOfRead (readMagnitude negative (numeral magnitude ++ rest)) := by
  cases htext with
  | natural =>
      obtain ⟨first, others, hdigits, hdigit⟩ := numeral_eq_cons magnitude
      obtain ⟨hblank, _, _, hminus⟩ := apart_of_isDigit hdigit
      rw [hdigits, List.cons_append, readWord, skipBlank_append_cons hblanks hblank]
      dsimp only
      rw [if_pos (Or.inr hdigit), readNumber, if_neg hminus]
      rfl
  | negative =>
      rw [List.cons_append, readWord, skipBlank_append_cons hblanks (by decide)]
      rfl

/-- A number with a sign or with more than 32 bits is refused. -/
theorem wordReader_rejects (htext : PlainText (.integer negative magnitude) text)
    (hrefused : negative = true ∨ UInt32.size ≤ magnitude) :
    wordReader.Rejects text (RefusesNumber negative magnitude) := by
  intro blanks rest hblanks hends
  change ∃ failure, readWord _ = _ ∧ _
  rw [readWord_integer htext hblanks]
  exact wordOfRead_magnitude hends hrefused

end

end Document

end ShaderFamilies
