import ShaderFamilies.DocumentFault

/-!
# The small parts of a document

Blanks, words and strings.  Each function takes the unread bytes and gives
back those that it leaves; the lemmas say that it leaves fewer, so that the
loops of the larger parts end.
-/

namespace ShaderFamilies

namespace Document

/-! ## Bytes with a meaning -/

@[match_pattern] abbrev quoteMark : UInt8 := 0x22
@[match_pattern] abbrev plusSign : UInt8 := 0x2B
@[match_pattern] abbrev comma : UInt8 := 0x2C
@[match_pattern] abbrev minusSign : UInt8 := 0x2D
@[match_pattern] abbrev point : UInt8 := 0x2E
@[match_pattern] abbrev digitZero : UInt8 := 0x30
@[match_pattern] abbrev colon : UInt8 := 0x3A
@[match_pattern] abbrev openBracket : UInt8 := 0x5B
@[match_pattern] abbrev backslash : UInt8 := 0x5C
@[match_pattern] abbrev closeBracket : UInt8 := 0x5D
@[match_pattern] abbrev letterF : UInt8 := 0x66
@[match_pattern] abbrev letterN : UInt8 := 0x6E
@[match_pattern] abbrev letterT : UInt8 := 0x74
@[match_pattern] abbrev letterU : UInt8 := 0x75
@[match_pattern] abbrev openBrace : UInt8 := 0x7B
@[match_pattern] abbrev closeBrace : UInt8 := 0x7D

def isBlank (byte : UInt8) : Bool :=
  byte == 0x20 || byte == 0x09 || byte == 0x0A || byte == 0x0D

def isDigit (byte : UInt8) : Bool :=
  0x30 ≤ byte && byte ≤ 0x39

def digitValue (byte : UInt8) : Nat :=
  byte.toNat - 0x30

def hexValue? (byte : UInt8) : Option Nat :=
  if 0x30 ≤ byte ∧ byte ≤ 0x39 then some (byte.toNat - 0x30)
  else if 0x41 ≤ byte ∧ byte ≤ 0x46 then some (byte.toNat - 0x37)
  else if 0x61 ≤ byte ∧ byte ≤ 0x66 then some (byte.toNat - 0x57)
  else none

/-! ## Blanks and words -/

def skipBlank (text : Bytes) : Bytes :=
  text.dropWhile isBlank

theorem length_skipBlank_le (text : Bytes) :
    (skipBlank text).length ≤ text.length :=
  (List.dropWhile_sublist isBlank).length_le

theorem length_lt_of_skipBlank {text rest : Bytes} {byte : UInt8}
    (hblank : skipBlank text = byte :: rest) :
    rest.length < text.length := by
  have hle := length_skipBlank_le text
  rw [hblank] at hle
  exact hle

/-- What follows the first letter of `null`, of `true` and of `false`. -/
def afterN : Bytes := [0x75, 0x6C, 0x6C]

def afterT : Bytes := [0x72, 0x75, 0x65]

def afterF : Bytes := [0x61, 0x6C, 0x73, 0x65]

def expectWord : Bytes → Bytes → Except Failure Bytes
  | [], text => .ok text
  | _ :: _, [] => failHere .endInValue []
  | expected :: word, byte :: text =>
      if byte = expected then expectWord word text
      else failHere .wordExpected text

theorem length_le_of_expectWord {word text rest : Bytes}
    (hword : expectWord word text = .ok rest) :
    rest.length ≤ text.length := by
  induction word generalizing text with
  | nil =>
      simp only [expectWord, Except.ok.injEq] at hword
      simp [hword]
  | cons expected word ih =>
      cases text with
      | nil => simp [expectWord, failHere] at hword
      | cons byte text =>
          simp only [expectWord] at hword
          split at hword
          · exact Nat.le_succ_of_le (ih hword)
          · simp [failHere] at hword

/-! ## Strings -/

def readUnit : Bytes → Except Failure (Nat × Bytes)
  | first :: second :: third :: fourth :: rest =>
      match hexValue? first, hexValue? second, hexValue? third, hexValue? fourth with
      | some first, some second, some third, some fourth =>
          .ok (((first * 16 + second) * 16 + third) * 16 + fourth, rest)
      | _, _, _, _ => failHere .invalidEscape rest
  | _ => failHere .endInString []

theorem length_lt_of_readUnit {text rest : Bytes} {unit : Nat}
    (hunit : readUnit text = .ok (unit, rest)) :
    rest.length < text.length := by
  unfold readUnit at hunit
  split at hunit
  · split at hunit
    · simp only [Except.ok.injEq, Prod.mk.injEq] at hunit
      simp only [← hunit.2, List.length_cons]
      omega
    · simp [failHere] at hunit
  · simp [failHere] at hunit

/-- The start of the second escape of a surrogate pair. -/
def expectLowHalf : Bytes → Except Failure Bytes
  | [] => failHere .endInString []
  | first :: rest =>
      if first = backslash then
        match rest with
        | [] => failHere .endInString []
        | second :: rest =>
            if second = letterU then .ok rest else failHere .surrogateEnd rest
      else failHere .surrogateEnd rest

theorem length_lt_of_expectLowHalf {text rest : Bytes}
    (hhalf : expectLowHalf text = .ok rest) :
    rest.length < text.length := by
  unfold expectLowHalf at hhalf
  split at hhalf
  · simp [failHere] at hhalf
  · split at hhalf
    · split at hhalf
      · simp [failHere] at hhalf
      · split at hhalf
        · simp only [Except.ok.injEq] at hhalf
          simp only [← hhalf, List.length_cons]
          omega
        · simp [failHere] at hhalf
    · simp [failHere] at hhalf

/-- The first value of a surrogate pair, and the first one after its range. -/
def highSurrogate : Nat := 0xD800

def lowSurrogate : Nat := 0xDC00

def surrogateLimit : Nat := 0xE000

def readCode (text : Bytes) : Except Failure (Bytes × Bytes) := do
  let (unit, rest) ← readUnit text
  if lowSurrogate ≤ unit ∧ unit < surrogateLimit then failHere .loneSurrogate rest
  else if highSurrogate ≤ unit ∧ unit < lowSurrogate then
    let rest ← expectLowHalf rest
    let (low, rest) ← readUnit rest
    if lowSurrogate ≤ low ∧ low < surrogateLimit then
      let scalar :=
        0x10000 + (unit - highSurrogate) * 0x400 + (low - lowSurrogate)
      return (String.utf8EncodeChar (Char.ofNat scalar), rest)
    else failHere .loneSurrogate rest
  else return (String.utf8EncodeChar (Char.ofNat unit), rest)

theorem length_lt_of_readCode {text content rest : Bytes}
    (hcode : readCode text = .ok (content, rest)) :
    rest.length < text.length := by
  unfold readCode at hcode
  cases hunit : readUnit text with
  | error failure => simp [hunit, bind, Except.bind] at hcode
  | ok parsed =>
      obtain ⟨unit, middle⟩ := parsed
      have hmiddle := length_lt_of_readUnit hunit
      simp only [hunit, bind, Except.bind] at hcode
      split at hcode
      · simp [failHere] at hcode
      · split at hcode
        · cases hhalf : expectLowHalf middle with
          | error failure => simp [hhalf] at hcode
          | ok second =>
              have hsecond := length_lt_of_expectLowHalf hhalf
              simp only [hhalf] at hcode
              cases hlow : readUnit second with
              | error failure => simp [hlow] at hcode
              | ok parsed =>
                  obtain ⟨low, last⟩ := parsed
                  have hlast := length_lt_of_readUnit hlow
                  simp only [hlow] at hcode
                  split at hcode
                  · simp only [pure, Except.pure, Except.ok.injEq,
                      Prod.mk.injEq] at hcode
                    obtain ⟨-, rfl⟩ := hcode
                    omega
                  · simp [failHere] at hcode
        · simp only [pure, Except.pure, Except.ok.injEq, Prod.mk.injEq] at hcode
          obtain ⟨-, rfl⟩ := hcode
          exact hmiddle

def escapedByte? (byte : UInt8) : Option UInt8 :=
  match byte with
  | 0x22 => some 0x22
  | 0x5C => some 0x5C
  | 0x2F => some 0x2F
  | 0x62 => some 0x08
  | 0x66 => some 0x0C
  | 0x6E => some 0x0A
  | 0x72 => some 0x0D
  | 0x74 => some 0x09
  | _ => none

/-- What an escape stands for.  The text starts after the backslash. -/
def readEscape : Bytes → Except Failure (Bytes × Bytes)
  | [] => failHere .endInString []
  | byte :: rest =>
      if byte = letterU then readCode rest
      else
        match escapedByte? byte with
        | some escaped => .ok ([escaped], rest)
        | none => failHere .invalidEscape rest

theorem length_lt_of_readEscape {text content rest : Bytes}
    (hescape : readEscape text = .ok (content, rest)) :
    rest.length < text.length := by
  unfold readEscape at hescape
  split at hescape
  · simp [failHere] at hescape
  · split at hescape
    · have := length_lt_of_readCode hescape
      simp only [List.length_cons]
      omega
    · split at hescape
      · simp only [Except.ok.injEq, Prod.mk.injEq] at hescape
        simp [← hescape.2]
      · simp [failHere] at hescape

def prepend (content : Bytes) :
    Except Failure (Bytes × Bytes) → Except Failure (Bytes × Bytes)
  | .ok (more, rest) => .ok (content ++ more, rest)
  | .error failure => .error failure

/-- The content of a string as bytes.  The text starts after the quote. -/
def readContent (text : Bytes) : Except Failure (Bytes × Bytes) :=
  match text with
  | [] => failHere .endInString []
  | byte :: rest =>
      if byte = quoteMark then .ok ([], rest)
      else if byte = backslash then
        match hescape : readEscape rest with
        | .ok (content, after) =>
            have := length_lt_of_readEscape hescape
            prepend content (readContent after)
        | .error failure => .error failure
      else if byte < 0x20 then failHere .controlCharacter rest
      else prepend [byte] (readContent rest)
termination_by text.length

theorem eq_ok_of_prepend {content whole rest : Bytes}
    {parsed : Except Failure (Bytes × Bytes)}
    (hprepend : prepend content parsed = .ok (whole, rest)) :
    ∃ more, parsed = .ok (more, rest) ∧ whole = content ++ more := by
  cases parsed with
  | error failure => simp [prepend] at hprepend
  | ok pair =>
      obtain ⟨more, last⟩ := pair
      simp only [prepend, Except.ok.injEq, Prod.mk.injEq] at hprepend
      exact ⟨more, by rw [hprepend.2], hprepend.1.symm⟩

theorem length_lt_of_readContent {text content rest : Bytes}
    (hcontent : readContent text = .ok (content, rest)) :
    rest.length < text.length := by
  fun_induction readContent text generalizing content with
  | case1 => simp [failHere] at hcontent
  | case2 text =>
      simp only [Except.ok.injEq, Prod.mk.injEq] at hcontent
      simp [← hcontent.2]
  | case3 text escaped after hescape hshorter hquote ih =>
      obtain ⟨more, hread, -⟩ := eq_ok_of_prepend hcontent
      have := ih hread
      simp only [List.length_cons]
      omega
  | case4 => simp at hcontent
  | case5 => simp [failHere] at hcontent
  | case6 byte text hquote hslash hcontrol ih =>
      obtain ⟨more, hread, -⟩ := eq_ok_of_prepend hcontent
      have := ih hread
      simp only [List.length_cons]
      omega

def readString (text : Bytes) : Except Failure (String × Bytes) :=
  match readContent text with
  | .ok (content, rest) => .ok (Utf8.lenient content, rest)
  | .error failure => .error failure

theorem length_lt_of_readString {text rest : Bytes} {content : String}
    (hstring : readString text = .ok (content, rest)) :
    rest.length < text.length := by
  unfold readString at hstring
  split at hstring
  next hcontent =>
    simp only [Except.ok.injEq, Prod.mk.injEq] at hstring
    exact hstring.2 ▸ length_lt_of_readContent hcontent
  next => simp at hstring

end Document

end ShaderFamilies
