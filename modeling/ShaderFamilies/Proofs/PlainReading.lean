import ShaderFamilies.DocumentReader
import ShaderFamilies.Proofs.NumeralReading
import ShaderFamilies.Proofs.TextScanning

/-!
# Reading plain values

A reader of truth values, of numbers or of labels reads each text of a value of
its kind, and every plain value is passed over.
-/

namespace ShaderFamilies

namespace Document

/-! ## Passing over a value -/

/-- The first byte of the text opens nothing, and what is behind it is passed
over. -/
def Skips (text : Bytes) : Prop :=
  ∃ byte inside, text = byte :: inside ∧ isBlank byte = false ∧
    byte ≠ openBracket ∧ byte ≠ openBrace ∧
    ∀ rest, Ends rest → skipPlain byte (inside ++ rest) = .ok rest

theorem exists_digitByte {byte : UInt8} (hdigit : isDigit byte = true) :
    ∃ digit < 10, byte = digitByte digit := by
  simp only [isDigit, Bool.and_eq_true, decide_eq_true_eq, UInt8.le_iff_toNat_le,
    UInt8.reduceToNat] at hdigit
  refine ⟨byte.toNat - 0x30, by omega, UInt8.toNat_inj.mp ?_⟩
  rw [digitByte, UInt8.toNat_ofNat']
  omega

theorem apart_of_isDigit {byte : UInt8} (hdigit : isDigit byte = true) :
    isBlank byte = false ∧ byte ≠ openBracket ∧ byte ≠ openBrace ∧ byte ≠ minusSign := by
  obtain ⟨digit, hlt, hbyte⟩ := exists_digitByte hdigit
  subst hbyte
  interval_cases digit <;> decide

theorem numeral_eq_cons (magnitude : Nat) :
    ∃ first others, numeral magnitude = first :: others ∧ isDigit first = true := by
  rcases numeral_digits magnitude with ⟨_, hdigits⟩ | ⟨first, others, hdigits, _, hdigit, _⟩
  · exact ⟨digitZero, [], hdigits, by decide⟩
  · exact ⟨first, others, hdigits, hdigit⟩

theorem skipPlain_digit {byte : UInt8} (hdigit : isDigit byte = true) (rest : Bytes) :
    skipPlain byte rest = skipMagnitude (byte :: rest) := by
  obtain ⟨digit, hlt, hbyte⟩ := exists_digitByte hdigit
  subst hbyte
  interval_cases digit <;> rfl

theorem skipPlain_minusSign (rest : Bytes) : skipPlain minusSign rest = skipMagnitude rest :=
  rfl

theorem PlainText.skips {value : Plain} {text : Bytes} (htext : PlainText value text) :
    Skips text := by
  cases htext with
  | null =>
      refine ⟨letterN, afterN, by decide, by decide, by decide, by decide, ?_⟩
      intro rest _
      exact expectWord_append afterN rest
  | truth value =>
      cases value with
      | true =>
          refine ⟨letterT, afterT, by decide, by decide, by decide, by decide, ?_⟩
          intro rest _
          exact expectWord_append afterT rest
      | false =>
          refine ⟨letterF, afterF, by decide, by decide, by decide, by decide, ?_⟩
          intro rest _
          exact expectWord_append afterF rest
  | natural magnitude =>
      obtain ⟨first, others, hdigits, hdigit⟩ := numeral_eq_cons magnitude
      obtain ⟨hblank, hbracket, hbrace, _⟩ := apart_of_isDigit hdigit
      refine ⟨first, others, hdigits, hblank, hbracket, hbrace, ?_⟩
      intro rest hends
      rw [skipPlain_digit hdigit, ← List.cons_append, ← hdigits]
      exact skipMagnitude_append hends magnitude
  | negative magnitude =>
      refine ⟨minusSign, numeral magnitude, rfl, by decide, by decide, by decide, ?_⟩
      intro rest hends
      rw [skipPlain_minusSign]
      exact skipMagnitude_append hends magnitude
  | text htext =>
      cases htext with
      | @quoted inside hcontent =>
          refine ⟨quoteMark, inside ++ [quoteMark], rfl, by decide, by decide, by decide, ?_⟩
          intro rest _
          rw [List.append_assoc]
          exact skipString_append hcontent rest

theorem Skips.skipValue {text blanks rest : Bytes} (hskips : Skips text)
    (hblanks : Blanks blanks) (hends : Ends rest) :
    skipValue (blanks ++ (text ++ rest)) = .ok rest := by
  obtain ⟨byte, inside, htext, hblank, hbracket, hbrace, hplain⟩ := hskips
  have hstart : skipBlank (blanks ++ (text ++ rest)) = byte :: (inside ++ rest) := by
    rw [htext]
    exact skipBlank_append_cons hblanks hblank _
  have hrest := hplain rest hends
  unfold Document.skipValue
  rw [skip]
  split
  · next hnone =>
      rw [hstart] at hnone
      cases hnone
  · next found after hsome =>
      rw [hstart] at hsome
      cases hsome
      rw [if_neg hbracket, if_neg hbrace]
      split
      · next left hleft =>
          rw [hrest] at hleft
          cases hleft
          rw [skip]
      · next failure hleft =>
          rw [hrest] at hleft
          cases hleft

/-! ## Reading a value -/

/-- Wherever the text stands, the reader takes it for the value. -/
def Reader.Takes {α : Type} (reader : Reader α) (text : Bytes) (value : α) : Prop :=
  ∀ blanks rest, Blanks blanks → Ends rest →
    reader.read (blanks ++ (text ++ rest)) = .ok (value, rest)

theorem Reader.Takes.map {α β : Type} {reader : Reader α} {text : Bytes} {value : α}
    (htakes : reader.Takes text value) (change : α → β) :
    (reader.map change).Takes text (change value) := by
  intro blanks rest hblanks hends
  simp only [Reader.map]
  rw [htakes blanks rest hblanks hends]

theorem truthReader_takes (value : Bool) :
    truthReader.Takes (Utf8.encode (toString value)) value := by
  intro blanks rest hblanks _
  change readTruth _ = _
  unfold readTruth
  cases value with
  | true =>
      rw [show Utf8.encode (toString true) = letterT :: afterT by decide, List.cons_append,
        skipBlank_append_cons hblanks (by decide)]
      change truthAfter true (expectWord afterT (afterT ++ rest)) = _
      rw [expectWord_append]
      rfl
  | false =>
      rw [show Utf8.encode (toString false) = letterF :: afterF by decide, List.cons_append,
        skipBlank_append_cons hblanks (by decide)]
      change truthAfter false (expectWord afterF (afterF ++ rest)) = _
      rw [expectWord_append]
      rfl

theorem choiceReader_takes {α : Type} [Choice α] {label : String} {text : Bytes} {value : α}
    (htext : StringText label text) (hvalue : Choice.find? α label = some value) :
    (choiceReader α).Takes text value := by
  intro blanks rest hblanks _
  obtain ⟨inside, hinside, hread⟩ := readString_append htext rest
  change readChoice _ = _
  unfold readChoice
  rw [hinside, List.cons_append, skipBlank_append_cons hblanks (by decide)]
  change readLabel (inside ++ rest) = _
  rw [readLabel, hread]
  change choiceOf label rest = _
  rw [choiceOf, hvalue]

theorem wordReader_takes {magnitude : Nat} (hmagnitude : magnitude < UInt32.size) :
    wordReader.Takes (numeral magnitude) (UInt32.ofNat magnitude) := by
  intro blanks rest hblanks hends
  have hlimit : magnitude < significandLimit :=
    Nat.lt_trans hmagnitude (by decide)
  have hread : readMagnitude false (numeral magnitude ++ rest) =
      .ok (.integer magnitude, rest) :=
    readMagnitude_append hends hlimit
  obtain ⟨first, others, hdigits, hdigit⟩ := numeral_eq_cons magnitude
  obtain ⟨hblank, _, _, hminus⟩ := apart_of_isDigit hdigit
  rw [hdigits, List.cons_append] at hread ⊢
  change readWord _ = _
  rw [readWord, skipBlank_append_cons hblanks hblank]
  dsimp only
  rw [if_pos (Or.inr hdigit), readNumber, if_neg hminus, hread]
  change wordOf (.integer magnitude) rest = _
  rw [wordOf, if_pos ⟨Int.natCast_nonneg magnitude, hmagnitude⟩]
  rfl

end Document

end ShaderFamilies
