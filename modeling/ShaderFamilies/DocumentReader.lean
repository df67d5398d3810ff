import ShaderFamilies.DocumentSkip
import ShaderFamilies.FeatureOptions

/-!
# Readers of plain values

A reader takes a value of one kind off the front of a text.  It always takes
at least one byte.  A value of another kind is described in the failure, after
it was read as far as the description needs it.
-/

namespace ShaderFamilies

namespace Document

/-- Takes a value off the front of a text. -/
structure Reader (α : Type) where
  read : Bytes → Except Failure (α × Bytes)
  length_lt : ∀ {text rest : Bytes} {value : α},
    read text = .ok (value, rest) → rest.length < text.length

def Reader.map {α β : Type} (change : α → β) (reader : Reader α) : Reader β where
  read text :=
    match reader.read text with
    | .ok (value, rest) => .ok (change value, rest)
    | .error failure => .error failure
  length_lt := by
    intro text rest value hread
    split at hread
    · next hinner =>
        simp only [Except.ok.injEq, Prod.mk.injEq] at hread
        exact reader.length_lt (hread.2 ▸ hinner)
    · simp at hread

/-! ## Values of another kind -/

def wordMismatch (expected : String) (found : Found) :
    Except Failure Bytes → Failure
  | .ok rest => ⟨.kind found expected, rest⟩
  | .error failure => failure

def mismatch (expected : String) : Bytes → Failure
  | [] => ⟨.valueExpected, []⟩
  | byte :: rest =>
      if byte = letterN then wordMismatch expected .null (expectWord afterN rest)
      else if byte = letterT then
        wordMismatch expected (.truth true) (expectWord afterT rest)
      else if byte = letterF then
        wordMismatch expected (.truth false) (expectWord afterF rest)
      else if byte = minusSign ∨ isDigit byte then
        match readNumber (byte :: rest) with
        | .ok (number, rest) => ⟨.kind number.found expected, rest⟩
        | .error failure => failure
      else if byte = quoteMark then
        match readString rest with
        | .ok (content, rest) => ⟨.kind (.text content) expected, rest⟩
        | .error failure => failure
      else if byte = openBracket then ⟨.kind .sequence expected, byte :: rest⟩
      else if byte = openBrace then ⟨.kind .map expected, byte :: rest⟩
      else ⟨.valueExpected, rest⟩

/-! ## Numbers -/

def wordName : String := "u32"

def wordOf (number : Number) (rest : Bytes) : Except Failure (UInt32 × Bytes) :=
  match number with
  | .integer value =>
      if 0 ≤ value ∧ value.toNat < UInt32.size then
        .ok (UInt32.ofNat value.toNat, rest)
      else failHere (.value (.integer value) wordName) rest
  | .real value => failHere (.kind (.real value) wordName) rest

def readWord (text : Bytes) : Except Failure (UInt32 × Bytes) :=
  match skipBlank text with
  | [] => failNext .endInValue []
  | byte :: rest =>
      if byte = minusSign ∨ isDigit byte then
        match readNumber (byte :: rest) with
        | .ok (number, rest) => wordOf number rest
        | .error failure => .error failure
      else .error (mismatch wordName (byte :: rest))

theorem eq_of_wordOf {number : Number} {text rest : Bytes} {value : UInt32}
    (hword : wordOf number text = .ok (value, rest)) :
    rest = text := by
  unfold wordOf at hword
  split at hword
  · split at hword
    · simp_all
    · simp [failHere] at hword
  · simp [failHere] at hword

theorem length_lt_of_readWord {text rest : Bytes} {value : UInt32}
    (hread : readWord text = .ok (value, rest)) :
    rest.length < text.length := by
  have hblank := length_skipBlank_le text
  unfold readWord at hread
  split at hread
  · simp [failNext] at hread
  · next heq =>
      rw [heq] at hblank
      split at hread
      · split at hread
        · next hnumber =>
            rw [eq_of_wordOf hread]
            exact Nat.lt_of_lt_of_le (length_lt_of_readNumber hnumber) hblank
        · simp at hread
      · simp at hread

def wordReader : Reader UInt32 := ⟨readWord, length_lt_of_readWord⟩

/-! ## Truth values -/

def truthName : String := "a boolean"

def truthAfter (value : Bool) : Except Failure Bytes → Except Failure (Bool × Bytes)
  | .ok rest => .ok (value, rest)
  | .error failure => .error failure

def readTruth (text : Bytes) : Except Failure (Bool × Bytes) :=
  match skipBlank text with
  | [] => failNext .endInValue []
  | byte :: rest =>
      if byte = letterT then truthAfter true (expectWord afterT rest)
      else if byte = letterF then truthAfter false (expectWord afterF rest)
      else .error (mismatch truthName (byte :: rest))

theorem eq_ok_of_truthAfter {intended value : Bool} {rest : Bytes}
    {word : Except Failure Bytes}
    (htruth : truthAfter intended word = .ok (value, rest)) :
    word = .ok rest ∧ value = intended := by
  cases word <;> simp_all [truthAfter]

theorem length_lt_of_readTruth {text rest : Bytes} {value : Bool}
    (hread : readTruth text = .ok (value, rest)) :
    rest.length < text.length := by
  unfold readTruth at hread
  split at hread
  · simp [failNext] at hread
  · next heq =>
      have hblank := length_lt_of_skipBlank heq
      split at hread
      · have := length_le_of_expectWord (eq_ok_of_truthAfter hread).1
        omega
      · split at hread
        · have := length_le_of_expectWord (eq_ok_of_truthAfter hread).1
          omega
        · simp at hread

def truthReader : Reader Bool := ⟨readTruth, length_lt_of_readTruth⟩

/-! ## Labels -/

section

variable {α : Type} [Choice α]

def choiceOf (label : String) (rest : Bytes) : Except Failure (α × Bytes) :=
  match Choice.find? α label with
  | some value => .ok (value, rest)
  | none => failHere (.unknownLabel label (Choice.labels α)) rest

/-- An alternative by its label.  The text starts after the quote. -/
def readLabel (text : Bytes) : Except Failure (α × Bytes) :=
  match readString text with
  | .ok (label, rest) => choiceOf label rest
  | .error failure => .error failure

/-- The value of an alternative that is written as a member: nothing. -/
def readUnitValue (text : Bytes) : Except Failure Bytes :=
  match skipBlank text with
  | [] => failNext .endInValue []
  | byte :: rest =>
      if byte = letterN then expectWord afterN rest
      else .error (mismatch "unit" (byte :: rest))

def expectMemberEnd (text : Bytes) : Except Failure Bytes :=
  match skipBlank text with
  | [] => failHere .endInObject []
  | byte :: rest =>
      if byte = closeBrace then .ok rest
      else failHere .valueExpected (byte :: rest)

/-- An alternative as the only member of an object.  The text starts after
the brace. -/
def readMemberLabel (text : Bytes) : Except Failure (α × Bytes) :=
  match skipBlank text with
  | [] => failNext .endInObject []
  | byte :: rest =>
      if byte = closeBrace then failNext .valueExpected (byte :: rest)
      else if byte = quoteMark then do
        let (value, rest) ← readLabel rest
        let rest ← expectColon rest
        let rest ← readUnitValue rest
        let rest ← expectMemberEnd rest
        return (value, rest)
      else failNext .keyNotString (byte :: rest)

/-- An alternative, by its label alone or as the only member of an object. -/
def readChoice (text : Bytes) : Except Failure (α × Bytes) :=
  match skipBlank text with
  | [] => failNext .endInValue []
  | byte :: rest =>
      if byte = quoteMark then readLabel rest
      else if byte = openBrace then readMemberLabel rest
      else failNext .valueExpected (byte :: rest)

theorem eq_of_choiceOf {label : String} {text rest : Bytes} {value : α}
    (hchoice : choiceOf label text = .ok (value, rest)) :
    rest = text := by
  unfold choiceOf at hchoice
  split at hchoice
  · simp_all
  · simp [failHere] at hchoice

theorem length_lt_of_readLabel {text rest : Bytes} {value : α}
    (hread : readLabel text = .ok (value, rest)) :
    rest.length < text.length := by
  unfold readLabel at hread
  split at hread
  · next hstring =>
      rw [eq_of_choiceOf hread]
      exact length_lt_of_readString hstring
  · simp at hread

theorem length_le_of_readUnitValue {text rest : Bytes}
    (hread : readUnitValue text = .ok rest) :
    rest.length ≤ text.length := by
  unfold readUnitValue at hread
  split at hread
  · simp [failNext] at hread
  · next heq =>
      have hblank := length_lt_of_skipBlank heq
      split at hread
      · have := length_le_of_expectWord hread
        omega
      · simp at hread

theorem length_le_of_expectMemberEnd {text rest : Bytes}
    (hend : expectMemberEnd text = .ok rest) :
    rest.length ≤ text.length := by
  unfold expectMemberEnd at hend
  split at hend
  · simp [failHere] at hend
  · next heq =>
      have hblank := length_lt_of_skipBlank heq
      split at hend
      · simp only [Except.ok.injEq] at hend
        exact hend ▸ Nat.le_of_lt hblank
      · simp [failHere] at hend

theorem length_lt_of_readMemberLabel {text rest : Bytes} {value : α}
    (hread : readMemberLabel text = .ok (value, rest)) :
    rest.length < text.length := by
  unfold readMemberLabel at hread
  split at hread
  · simp [failNext] at hread
  · next byte after heq =>
      have hblank := length_lt_of_skipBlank heq
      split at hread
      · simp [failNext] at hread
      · split at hread
        · cases hlabel : readLabel (α := α) after with
          | error failure => simp [hlabel, bind, Except.bind] at hread
          | ok parsed =>
              obtain ⟨label, second⟩ := parsed
              have hsecond := length_lt_of_readLabel hlabel
              simp only [hlabel, bind, Except.bind] at hread
              cases hcolon : expectColon second with
              | error failure => simp [hcolon] at hread
              | ok third =>
                  have hthird := length_lt_of_expectColon hcolon
                  simp only [hcolon] at hread
                  cases hunit : readUnitValue third with
                  | error failure => simp [hunit] at hread
                  | ok fourth =>
                      have hfourth := length_le_of_readUnitValue hunit
                      simp only [hunit] at hread
                      cases hend : expectMemberEnd fourth with
                      | error failure => simp [hend] at hread
                      | ok last =>
                          have hlast := length_le_of_expectMemberEnd hend
                          simp only [hend, pure, Except.pure, Except.ok.injEq,
                            Prod.mk.injEq] at hread
                          obtain ⟨-, rfl⟩ := hread
                          omega
        · simp [failNext] at hread

theorem length_lt_of_readChoice {text rest : Bytes} {value : α}
    (hread : readChoice text = .ok (value, rest)) :
    rest.length < text.length := by
  unfold readChoice at hread
  split at hread
  · simp [failNext] at hread
  · next heq =>
      have hblank := length_lt_of_skipBlank heq
      split at hread
      · exact Nat.lt_trans (length_lt_of_readLabel hread) hblank
      · split at hread
        · exact Nat.lt_trans (length_lt_of_readMemberLabel hread) hblank
        · simp [failNext] at hread

def choiceReader (α : Type) [Choice α] : Reader α :=
  ⟨readChoice, length_lt_of_readChoice⟩

end

end Document

end ShaderFamilies
