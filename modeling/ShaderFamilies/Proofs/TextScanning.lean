import Mathlib.Tactic.SplitIfs
import ShaderFamilies.DocumentSkip
import ShaderFamilies.Proofs.DocumentGrammar
import ShaderFamilies.Proofs.EncodedText

/-!
# Scanning blanks and strings

Each scanner takes exactly the text that it is for and leaves what follows.
-/

namespace ShaderFamilies

namespace Document

/-! ## Blanks -/

theorem skipBlank_append {blanks : Bytes} (hblanks : Blanks blanks) (text : Bytes) :
    skipBlank (blanks ++ text) = skipBlank text :=
  List.dropWhile_append_of_pos hblanks

theorem skipBlank_cons {byte : UInt8} (hbyte : isBlank byte = false) (rest : Bytes) :
    skipBlank (byte :: rest) = byte :: rest :=
  List.dropWhile_cons_of_neg (by simp [hbyte])

theorem skipBlank_blanks {blanks : Bytes} (hblanks : Blanks blanks) : skipBlank blanks = [] := by
  simpa [skipBlank] using skipBlank_append hblanks []

theorem skipBlank_append_cons {blanks : Bytes} (hblanks : Blanks blanks) {byte : UInt8}
    (hbyte : isBlank byte = false) (rest : Bytes) :
    skipBlank (blanks ++ byte :: rest) = byte :: rest := by
  rw [skipBlank_append hblanks, skipBlank_cons hbyte]

/-! ## Words -/

theorem expectWord_append (word rest : Bytes) : expectWord word (word ++ rest) = .ok rest := by
  induction word with
  | nil => cases rest <;> rfl
  | cons byte word ih => simpa [expectWord] using ih

/-! ## Strings -/

section

variable {byte : UInt8} {text after rest content : Bytes}

theorem readContent_quote (rest : Bytes) :
    readContent (quoteMark :: rest) = .ok ([], rest) := by
  rw [readContent, if_pos rfl]

theorem readContent_escape (hescape : readEscape text = .ok (content, after)) :
    readContent (backslash :: text) = prepend content (readContent after) := by
  rw [readContent, if_neg (by decide), if_pos rfl]
  split
  · next found rest hfound =>
      rw [hescape] at hfound
      cases hfound
      rfl
  · next failure hfound =>
      rw [hescape] at hfound
      cases hfound

theorem readContent_plain (hquote : byte ≠ quoteMark) (hslash : byte ≠ backslash)
    (hcontrol : ¬ byte < 0x20) (rest : Bytes) :
    readContent (byte :: rest) = prepend [byte] (readContent rest) := by
  rw [readContent, if_neg hquote, if_neg hslash, if_neg hcontrol]

theorem skipString_quote (rest : Bytes) : skipString (quoteMark :: rest) = .ok rest := by
  rw [skipString, if_pos rfl]

theorem skipString_escape (hescape : skipEscape text = .ok after) :
    skipString (backslash :: text) = skipString after := by
  rw [skipString, if_neg (by decide), if_pos rfl]
  split
  · next rest hfound =>
      rw [hescape] at hfound
      cases hfound
      rfl
  · next failure hfound =>
      rw [hescape] at hfound
      cases hfound

theorem skipString_plain (hquote : byte ≠ quoteMark) (hslash : byte ≠ backslash)
    (hcontrol : ¬ byte < 0x20) (rest : Bytes) :
    skipString (byte :: rest) = skipString rest := by
  rw [skipString, if_neg hquote, if_neg hslash, if_neg hcontrol]

end

theorem prepend_append (first second : Bytes) (parsed : Except Failure (Bytes × Bytes)) :
    prepend first (prepend second parsed) = prepend (first ++ second) parsed := by
  cases parsed with
  | error failure => rfl
  | ok pair => simp [prepend]

/-- Whether a byte stands for itself in a string. -/
def PlainByte (byte : UInt8) : Prop :=
  byte ≠ quoteMark ∧ byte ≠ backslash ∧ ¬ byte < 0x20

theorem readContent_plain_append {text : Bytes} (hplain : ∀ byte ∈ text, PlainByte byte)
    (rest : Bytes) :
    readContent (text ++ rest) = prepend text (readContent rest) := by
  induction text with
  | nil =>
      rw [List.nil_append]
      cases readContent rest <;> rfl
  | cons byte text ih =>
      obtain ⟨hquote, hslash, hcontrol⟩ := hplain byte List.mem_cons_self
      rw [List.cons_append, readContent_plain hquote hslash hcontrol,
        ih fun other hmem => hplain other (List.mem_cons_of_mem byte hmem), prepend_append]
      rfl

theorem skipString_plain_append {text : Bytes} (hplain : ∀ byte ∈ text, PlainByte byte)
    (rest : Bytes) :
    skipString (text ++ rest) = skipString rest := by
  induction text with
  | nil => rfl
  | cons byte text ih =>
      obtain ⟨hquote, hslash, hcontrol⟩ := hplain byte List.mem_cons_self
      rw [List.cons_append, skipString_plain hquote hslash hcontrol,
        ih fun other hmem => hplain other (List.mem_cons_of_mem byte hmem)]

theorem plainByte_of_le {byte : UInt8} (hbyte : 0x80 ≤ byte.toNat) : PlainByte byte := by
  refine ⟨?_, ?_, ?_⟩
  · intro hquote
    rw [hquote] at hbyte
    exact absurd hbyte (by decide)
  · intro hslash
    rw [hslash] at hbyte
    exact absurd hbyte (by decide)
  · rw [UInt8.lt_iff_toNat_lt]
    change ¬ byte.toNat < 0x20
    omega

theorem plainByte_of_mem_character {character : Char} (hcontrol : 0x20 ≤ character.toNat)
    (hquote : character ≠ '\"') (hslash : character ≠ '\\') :
    ∀ byte ∈ String.utf8EncodeChar character, PlainByte byte := by
  change 0x20 ≤ character.val.toNat at hcontrol
  simp only [String.utf8EncodeChar]
  split_ifs with hone
  · intro byte hmem
    have hbyte : byte.toNat = character.val.toNat := by
      rw [List.mem_singleton.mp hmem, UInt8.toNat_ofNat']
      omega
    refine ⟨?_, ?_, ?_⟩
    · intro hfound
      apply hquote
      rw [hfound] at hbyte
      exact Char.ext (UInt32.toNat_inj.mp hbyte.symm)
    · intro hfound
      apply hslash
      rw [hfound] at hbyte
      exact Char.ext (UInt32.toNat_inj.mp hbyte.symm)
    · rw [UInt8.lt_iff_toNat_lt, hbyte]
      change ¬ character.val.toNat < 0x20
      omega
  -- every byte of a longer sequence has its highest bit set
  all_goals
    intro byte hmem
    apply plainByte_of_le
    revert byte
    simp only [List.forall_mem_cons, List.not_mem_nil, false_implies, implies_true,
      and_true, UInt8.toNat_ofNat']
    omega

/-! ## Escapes -/

theorem hexValue?_of_hexDigit {byte : UInt8} {value : Nat} (hdigit : HexDigit byte value) :
    hexValue? byte = some value := by
  unfold hexValue?
  simp only [UInt8.le_iff_toNat_le, UInt8.reduceToNat]
  rcases hdigit with ⟨hvalue, hbyte⟩ | ⟨hten, hvalue, hupper | hlower⟩
  · rw [if_pos (by omega), hbyte, Nat.add_sub_cancel_left]
  · rw [if_neg (by omega), if_pos (by omega), hupper, Nat.add_sub_cancel_left]
  · rw [if_neg (by omega), if_neg (by omega), if_pos (by omega), hlower,
      Nat.add_sub_cancel_left]

theorem readUnit_append {unit : Nat} {digits : Bytes} (hunit : UnitText unit digits)
    (rest : Bytes) :
    readUnit (digits ++ rest) = .ok (unit, rest) := by
  cases hunit with
  | digits hfirst hsecond hthird hfourth =>
      simp only [List.cons_append, List.nil_append, readUnit,
        hexValue?_of_hexDigit hfirst, hexValue?_of_hexDigit hsecond,
        hexValue?_of_hexDigit hthird, hexValue?_of_hexDigit hfourth]

theorem escapedByte?_of_mem {letter : UInt8} {character : Char}
    (hmem : (letter, character) ∈ shortEscapes) :
    letter ≠ letterU ∧ ∃ escaped, escapedByte? letter = some escaped ∧
      String.utf8EncodeChar character = [escaped] := by
  have hall : ∀ escape ∈ shortEscapes, escape.1 ≠ letterU ∧
      (escapedByte? escape.1).map (fun escaped => [escaped]) =
        some (String.utf8EncodeChar escape.2) := by
    decide
  obtain ⟨hletter, hescaped⟩ := hall _ hmem
  obtain ⟨escaped, hbyte, hbytes⟩ := Option.map_eq_some_iff.mp hescaped
  exact ⟨hletter, escaped, hbyte, hbytes.symm⟩

theorem readCode_unit {character : Char} {digits : Bytes}
    (hunit : UnitText character.toNat digits) (rest : Bytes) :
    readCode (digits ++ rest) = .ok (String.utf8EncodeChar character, rest) := by
  have hvalid := character.valid
  simp only [UInt32.isValidChar, Nat.isValidChar] at hvalid
  change character.toNat < 0xd800 ∨ 0xdfff < character.toNat ∧ character.toNat < 0x110000
    at hvalid
  have hlow : ¬ (lowSurrogate ≤ character.toNat ∧ character.toNat < surrogateLimit) := by
    simp only [lowSurrogate, surrogateLimit]
    omega
  have hhigh : ¬ (highSurrogate ≤ character.toNat ∧ character.toNat < lowSurrogate) := by
    simp only [highSurrogate, lowSurrogate]
    omega
  unfold readCode
  rw [readUnit_append hunit]
  change (if _ then _ else if _ then _ else _) = _
  rw [if_neg hlow, if_neg hhigh, Char.ofNat_toNat]
  rfl

theorem readCode_pair {character : Char} {high low : Nat} {first second : Bytes}
    (hfirst : UnitText high first) (hsecond : UnitText low second)
    (hhigh : 0xD800 ≤ high ∧ high < 0xDC00) (hlow : 0xDC00 ≤ low ∧ low < 0xE000)
    (hcharacter : character.toNat = 0x10000 + (high - 0xD800) * 0x400 + (low - 0xDC00))
    (rest : Bytes) :
    readCode (first ++ backslash :: letterU :: (second ++ rest)) =
      .ok (String.utf8EncodeChar character, rest) := by
  have hnotLow : ¬ (lowSurrogate ≤ high ∧ high < surrogateLimit) := by
    simp only [lowSurrogate, surrogateLimit]
    omega
  unfold readCode
  rw [readUnit_append hfirst]
  change (if _ then _ else if _ then _ else _) = _
  rw [if_neg hnotLow, if_pos (show highSurrogate ≤ high ∧ high < lowSurrogate from hhigh)]
  rw [show expectLowHalf (backslash :: letterU :: (second ++ rest)) = .ok (second ++ rest)
    from rfl]
  change (readUnit (second ++ rest) >>= _) = _
  rw [readUnit_append hsecond]
  change (if _ then _ else _) = _
  rw [if_pos (show lowSurrogate ≤ low ∧ low < surrogateLimit from hlow)]
  have hscalar : Char.ofNat (0x10000 + (high - highSurrogate) * 0x400 +
      (low - lowSurrogate)) = character := by
    rw [highSurrogate, lowSurrogate, ← hcharacter, Char.ofNat_toNat]
  rw [hscalar]
  rfl

theorem readContent_character {character : Char} {text : Bytes}
    (htext : CharacterText character text) (rest : Bytes) :
    readContent (text ++ rest) =
      prepend (String.utf8EncodeChar character) (readContent rest) := by
  cases htext with
  | plain hcontrol hquote hslash =>
      exact readContent_plain_append (plainByte_of_mem_character hcontrol hquote hslash) rest
  | @short letter _ hmem =>
      obtain ⟨hletter, escaped, hescaped, hbytes⟩ := escapedByte?_of_mem hmem
      have hescape : readEscape (letter :: rest) = .ok ([escaped], rest) := by
        rw [readEscape, if_neg hletter, hescaped]
      rw [hbytes]
      exact readContent_escape hescape
  | code hunit =>
      exact readContent_escape (readCode_unit hunit rest)
  | @pair _ high low first second hfirst hsecond hhigh hhighEnd hlow hlowEnd hcharacter =>
      have hcode := readCode_pair hfirst hsecond ⟨hhigh, hhighEnd⟩ ⟨hlow, hlowEnd⟩
        hcharacter rest
      have hescape : readEscape (letterU :: (first ++ backslash :: letterU :: (second ++ rest))) =
          .ok (String.utf8EncodeChar character, rest) := hcode
      simpa using readContent_escape hescape

theorem readContent_append {content : List Char} {inside : Bytes}
    (hcontent : ContentText content inside) (rest : Bytes) :
    readContent (inside ++ quoteMark :: rest) =
      .ok (content.flatMap String.utf8EncodeChar, rest) := by
  induction hcontent with
  | nil => exact readContent_quote rest
  | cons hcharacter hlater ih =>
      rw [List.append_assoc, readContent_character hcharacter, ih]
      rfl

theorem readString_append {content : String} {text : Bytes}
    (htext : StringText content text) (rest : Bytes) :
    ∃ inside, text = quoteMark :: inside ∧ readString (inside ++ rest) = .ok (content, rest) := by
  cases htext with
  | @quoted inside hcontent =>
      refine ⟨inside ++ [quoteMark], rfl, ?_⟩
      unfold readString
      rw [List.append_assoc, List.singleton_append, readContent_append hcontent]
      exact congrArg (fun found => Except.ok (found, rest)) (Utf8.lenient_encode content)

/-! ## Passing over strings -/

theorem skipEscape_unit {unit : Nat} {digits : Bytes} (hunit : UnitText unit digits)
    (rest : Bytes) :
    skipEscape (letterU :: (digits ++ rest)) = .ok rest := by
  rw [skipEscape, if_pos rfl, readUnit_append hunit]
  rfl

theorem skipString_character {character : Char} {text : Bytes}
    (htext : CharacterText character text) (rest : Bytes) :
    skipString (text ++ rest) = skipString rest := by
  cases htext with
  | plain hcontrol hquote hslash =>
      exact skipString_plain_append (plainByte_of_mem_character hcontrol hquote hslash) rest
  | @short letter _ hmem =>
      obtain ⟨hletter, escaped, hescaped, _⟩ := escapedByte?_of_mem hmem
      have hescape : skipEscape (letter :: rest) = .ok rest := by
        rw [skipEscape, if_neg hletter, hescaped]
        rfl
      exact skipString_escape hescape
  | code hunit => exact skipString_escape (skipEscape_unit hunit rest)
  | @pair _ high low first second hfirst hsecond =>
      have hlow := skipString_escape (skipEscape_unit hsecond rest)
      have hhigh := skipString_escape
        (skipEscape_unit hfirst (backslash :: letterU :: (second ++ rest)))
      simpa using hhigh.trans hlow

theorem skipString_append {content : List Char} {inside : Bytes}
    (hcontent : ContentText content inside) (rest : Bytes) :
    skipString (inside ++ quoteMark :: rest) = .ok rest := by
  induction hcontent with
  | nil => exact skipString_quote rest
  | cons hcharacter hlater ih => rw [List.append_assoc, skipString_character hcharacter, ih]

end Document

end ShaderFamilies
