import ShaderFamilies.DocumentNumber

/-!
# Passing over values

The value of an unknown field may be anything that is well formed, to any
depth.  The open lists and objects are kept as a list, so that one loop passes
over all of them.
-/

namespace ShaderFamilies

namespace Document

/-! ## Strings and numbers -/

/-- What follows an escape.  The text starts after the backslash; the code of
a character is not checked further. -/
def skipEscape : Bytes → Except Failure Bytes
  | [] => failHere .endInString []
  | byte :: rest =>
      if byte = letterU then (readUnit rest).map (·.2)
      else if (escapedByte? byte).isSome then .ok rest
      else failHere .invalidEscape rest

theorem length_lt_of_skipEscape {text rest : Bytes}
    (hskip : skipEscape text = .ok rest) :
    rest.length < text.length := by
  unfold skipEscape at hskip
  split at hskip
  · simp [failHere] at hskip
  · split at hskip
    · next byte after hletter =>
        cases hunit : readUnit after with
        | error failure => simp [hunit, Except.map] at hskip
        | ok parsed =>
            obtain ⟨unit, last⟩ := parsed
            simp only [hunit, Except.map, Except.ok.injEq] at hskip
            exact Nat.lt_succ_of_lt (hskip ▸ length_lt_of_readUnit hunit)
    · split at hskip
      · simp only [Except.ok.injEq] at hskip
        simp [← hskip]
      · simp [failHere] at hskip

/-- What follows a string.  The text starts after the opening quote. -/
def skipString (text : Bytes) : Except Failure Bytes :=
  match text with
  | [] => failHere .endInString []
  | byte :: rest =>
      if byte = quoteMark then .ok rest
      else if byte = backslash then
        match hescape : skipEscape rest with
        | .ok after =>
            have := length_lt_of_skipEscape hescape
            skipString after
        | .error failure => .error failure
      else if byte < 0x20 then failHere .controlCharacter (byte :: rest)
      else skipString rest
termination_by text.length

theorem length_lt_of_skipString {text rest : Bytes}
    (hskip : skipString text = .ok rest) :
    rest.length < text.length := by
  fun_induction skipString text with
  | case1 => simp [failHere] at hskip
  | case2 text =>
      simp only [Except.ok.injEq] at hskip
      simp [← hskip]
  | case3 text after hescape hshorter hquote ih =>
      have := ih hskip
      simp only [List.length_cons]
      omega
  | case4 => simp at hskip
  | case5 => simp [failHere] at hskip
  | case6 byte text hquote hslash hcontrol ih =>
      exact Nat.lt_succ_of_lt (ih hskip)

def skipExponentValue : Bytes → Except Failure Bytes
  | [] => failHere .invalidNumber []
  | byte :: rest =>
      if isDigit byte then .ok (rest.dropWhile isDigit)
      else failHere .invalidNumber rest

def skipExponent : Bytes → Except Failure Bytes
  | [] => skipExponentValue []
  | byte :: rest =>
      if byte = plusSign ∨ byte = minusSign then skipExponentValue rest
      else skipExponentValue (byte :: rest)

def skipScale : Bytes → Except Failure Bytes
  | [] => .ok []
  | byte :: rest =>
      if isExponentMark byte then skipExponent rest else .ok (byte :: rest)

def skipFraction (text : Bytes) : Except Failure Bytes :=
  if text.head?.any isDigit then skipScale (text.dropWhile isDigit)
  else failNext .invalidNumber text

def skipAfterInteger : Bytes → Except Failure Bytes
  | [] => .ok []
  | byte :: rest =>
      if byte = point then skipFraction rest else skipScale (byte :: rest)

def skipMagnitude : Bytes → Except Failure Bytes
  | [] => failHere .invalidNumber []
  | byte :: rest =>
      if byte = digitZero then
        if rest.head?.any isDigit then failNext .invalidNumber rest
        else skipAfterInteger rest
      else if isDigit byte then skipAfterInteger (rest.dropWhile isDigit)
      else failHere .invalidNumber rest

theorem length_le_of_skipExponentValue {text rest : Bytes}
    (hskip : skipExponentValue text = .ok rest) :
    rest.length ≤ text.length := by
  unfold skipExponentValue at hskip
  split at hskip
  · simp [failHere] at hskip
  · split at hskip
    · simp only [Except.ok.injEq] at hskip
      exact Nat.le_succ_of_le (hskip ▸ length_dropWhile_le _)
    · simp [failHere] at hskip

theorem length_le_of_skipExponent {text rest : Bytes}
    (hskip : skipExponent text = .ok rest) :
    rest.length ≤ text.length := by
  unfold skipExponent at hskip
  split at hskip
  · exact length_le_of_skipExponentValue hskip
  · split at hskip
    · exact Nat.le_succ_of_le (length_le_of_skipExponentValue hskip)
    · exact length_le_of_skipExponentValue hskip

theorem length_le_of_skipScale {text rest : Bytes}
    (hskip : skipScale text = .ok rest) :
    rest.length ≤ text.length := by
  unfold skipScale at hskip
  split at hskip
  · simp_all
  · split at hskip
    · exact Nat.le_succ_of_le (length_le_of_skipExponent hskip)
    · simp only [Except.ok.injEq] at hskip
      simp [← hskip]

theorem length_le_of_skipFraction {text rest : Bytes}
    (hskip : skipFraction text = .ok rest) :
    rest.length ≤ text.length := by
  unfold skipFraction at hskip
  split at hskip
  · exact Nat.le_trans (length_le_of_skipScale hskip) (length_dropWhile_le text)
  · simp [failNext] at hskip

theorem length_le_of_skipAfterInteger {text rest : Bytes}
    (hskip : skipAfterInteger text = .ok rest) :
    rest.length ≤ text.length := by
  unfold skipAfterInteger at hskip
  split at hskip
  · simp_all
  · split at hskip
    · exact Nat.le_succ_of_le (length_le_of_skipFraction hskip)
    · exact length_le_of_skipScale hskip

theorem length_lt_of_skipMagnitude {text rest : Bytes}
    (hskip : skipMagnitude text = .ok rest) :
    rest.length < text.length := by
  unfold skipMagnitude at hskip
  split at hskip
  · simp [failHere] at hskip
  · split at hskip
    · split at hskip
      · simp [failNext] at hskip
      · exact Nat.lt_succ_of_le (length_le_of_skipAfterInteger hskip)
    · split at hskip
      · exact Nat.lt_succ_of_le
          (Nat.le_trans (length_le_of_skipAfterInteger hskip) (length_dropWhile_le _))
      · simp [failHere] at hskip

/-! ## Values -/

/-- A list or an object whose end is not reached yet. -/
inductive Enclosure
  | list
  | object

/-- What must come next. -/
inductive Awaited
  | value
  | key
  | separator

/-- What follows a value that opens nothing and starts with the given byte. -/
def skipPlain (byte : UInt8) (rest : Bytes) : Except Failure Bytes :=
  if byte = letterN then expectWord afterN rest
  else if byte = letterT then expectWord afterT rest
  else if byte = letterF then expectWord afterF rest
  else if byte = quoteMark then skipString rest
  else if byte = minusSign then skipMagnitude rest
  else if isDigit byte then skipMagnitude (byte :: rest)
  else failNext .valueExpected (byte :: rest)

theorem length_le_of_skipPlain {text rest : Bytes} {byte : UInt8}
    (hskip : skipPlain byte text = .ok rest) :
    rest.length ≤ text.length := by
  unfold skipPlain at hskip
  split at hskip
  · exact length_le_of_expectWord hskip
  · split at hskip
    · exact length_le_of_expectWord hskip
    · split at hskip
      · exact length_le_of_expectWord hskip
      · split at hskip
        · exact Nat.le_of_lt (length_lt_of_skipString hskip)
        · split at hskip
          · exact Nat.le_of_lt (length_lt_of_skipMagnitude hskip)
          · split at hskip
            · exact Nat.le_of_lt_succ (length_lt_of_skipMagnitude hskip)
            · simp [failNext] at hskip

def expectColon (text : Bytes) : Except Failure Bytes :=
  match skipBlank text with
  | [] => failNext .endInObject []
  | byte :: rest =>
      if byte = colon then .ok rest else failNext .colonExpected (byte :: rest)

theorem length_lt_of_expectColon {text rest : Bytes}
    (hcolon : expectColon text = .ok rest) :
    rest.length < text.length := by
  unfold expectColon at hcolon
  split at hcolon
  · simp [failNext] at hcolon
  · next hblank =>
      split at hcolon
      · simp only [Except.ok.injEq] at hcolon
        exact hcolon ▸ length_lt_of_skipBlank hblank
      · simp [failNext] at hcolon

/-- What follows a value and the ends of all that is open around it. -/
def skip (enclosures : List Enclosure) (awaited : Awaited) (text : Bytes) :
    Except Failure Bytes :=
  match awaited with
  | .value =>
      match hblank : skipBlank text with
      | [] => failNext .endInValue []
      | byte :: rest =>
          have := length_lt_of_skipBlank hblank
          if byte = openBracket then
            match hfirst : skipBlank rest with
            | [] => failNext .endInList []
            | first :: after =>
                have := length_lt_of_skipBlank hfirst
                if first = closeBracket then skip enclosures .separator after
                else skip (.list :: enclosures) .value rest
          else if byte = openBrace then
            match hfirst : skipBlank rest with
            | [] => failNext .endInObject []
            | first :: after =>
                have := length_lt_of_skipBlank hfirst
                if first = closeBrace then skip enclosures .separator after
                else skip (.object :: enclosures) .key rest
          else
            match hplain : skipPlain byte rest with
            | .ok after =>
                have := length_le_of_skipPlain hplain
                skip enclosures .separator after
            | .error failure => .error failure
  | .key =>
      match hblank : skipBlank text with
      | [] => failNext .endInObject []
      | byte :: rest =>
          have := length_lt_of_skipBlank hblank
          if byte = quoteMark then
            match hstring : skipString rest with
            | .ok after =>
                have := length_lt_of_skipString hstring
                match hcolon : expectColon after with
                | .ok value =>
                    have := length_lt_of_expectColon hcolon
                    skip enclosures .value value
                | .error failure => .error failure
            | .error failure => .error failure
          else failNext .keyNotString (byte :: rest)
  | .separator =>
      match enclosures with
      | [] => .ok text
      | .list :: outer =>
          match hblank : skipBlank text with
          | [] => failNext .endInList []
          | byte :: rest =>
              have := length_lt_of_skipBlank hblank
              if byte = comma then skip (.list :: outer) .value rest
              else if byte = closeBracket then skip outer .separator rest
              else failNext .listEndExpected (byte :: rest)
      | .object :: outer =>
          match hblank : skipBlank text with
          | [] => failNext .endInObject []
          | byte :: rest =>
              have := length_lt_of_skipBlank hblank
              if byte = comma then skip (.object :: outer) .key rest
              else if byte = closeBrace then skip outer .separator rest
              else failNext .objectEndExpected (byte :: rest)
termination_by text.length

theorem length_le_of_skip {enclosures : List Enclosure} {awaited : Awaited}
    {text rest : Bytes} (hskip : skip enclosures awaited text = .ok rest) :
    rest.length ≤ text.length := by
  fun_induction skip enclosures awaited text <;>
    simp_all only [failNext, reduceCtorEq, Except.ok.injEq] <;> grind

def skipValue (text : Bytes) : Except Failure Bytes :=
  skip [] .value text

theorem length_le_of_skipValue {text rest : Bytes}
    (hskip : skipValue text = .ok rest) :
    rest.length ≤ text.length :=
  length_le_of_skip hskip

end Document

end ShaderFamilies
