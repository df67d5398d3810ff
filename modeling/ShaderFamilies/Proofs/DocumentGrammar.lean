import ShaderFamilies.DocumentScan

/-!
# The texts of documents

Which bytes write a value is said without a reader: characters of a string may
be escaped, and blanks may stand between the parts of an object.  Values here
are plain ones and objects of plain ones, which is all that a configuration is
made of; their members stand in any order.
-/

namespace ShaderFamilies

namespace Document

def Blanks (text : Bytes) : Prop :=
  ∀ byte ∈ text, isBlank byte = true

/-! ## Strings -/

def HexDigit (byte : UInt8) (value : Nat) : Prop :=
  (value < 10 ∧ byte.toNat = 0x30 + value) ∨
    (10 ≤ value ∧ value < 16 ∧
      (byte.toNat = 0x37 + value ∨ byte.toNat = 0x57 + value))

/-- Four digits. -/
inductive UnitText : Nat → Bytes → Prop
  | digits {first second third fourth : UInt8} {a b c d : Nat} :
      HexDigit first a → HexDigit second b → HexDigit third c → HexDigit fourth d →
        UnitText (((a * 16 + b) * 16 + c) * 16 + d) [first, second, third, fourth]

/-- The letters of the short escapes. -/
def shortEscapes : List (UInt8 × Char) :=
  [(0x22, '\"'), (0x5C, '\\'), (0x2F, '/'), (0x62, '\x08'), (0x66, '\x0C'),
    (0x6E, '\n'), (0x72, '\r'), (0x74, '\t')]

/-- The ways to write a character in a string. -/
inductive CharacterText : Char → Bytes → Prop
  | plain {character : Char} : 0x20 ≤ character.toNat → character ≠ '\"' →
      character ≠ '\\' → CharacterText character (String.utf8EncodeChar character)
  | short {letter : UInt8} {character : Char} : (letter, character) ∈ shortEscapes →
      CharacterText character [backslash, letter]
  | code {character : Char} {digits : Bytes} : UnitText character.toNat digits →
      CharacterText character (backslash :: letterU :: digits)
  /-- Two surrogates. -/
  | pair {character : Char} {high low : Nat} {first second : Bytes} :
      UnitText high first → UnitText low second →
      0xD800 ≤ high → high < 0xDC00 → 0xDC00 ≤ low → low < 0xE000 →
      character.toNat = 0x10000 + (high - 0xD800) * 0x400 + (low - 0xDC00) →
      CharacterText character
        (backslash :: letterU :: first ++ backslash :: letterU :: second)

inductive ContentText : List Char → Bytes → Prop
  | nil : ContentText [] []
  | cons {character : Char} {rest : List Char} {text later : Bytes} :
      CharacterText character text → ContentText rest later →
        ContentText (character :: rest) (text ++ later)

inductive StringText : String → Bytes → Prop
  | quoted {content : String} {inside : Bytes} : ContentText content.toList inside →
      StringText content (quoteMark :: (inside ++ [quoteMark]))

/-! ## Plain values -/

/-- The values that open nothing and have neither point nor exponent.  The
magnitude of an integer stands without its sign. -/
inductive Plain
  | null
  | truth (value : Bool)
  | integer (negative : Bool) (magnitude : Nat)
  | text (content : String)
  deriving DecidableEq

/-- The digits of a number, without leading zeros. -/
def numeral (magnitude : Nat) : Bytes :=
  Utf8.encode (toString magnitude)

inductive PlainText : Plain → Bytes → Prop
  | null : PlainText .null (Utf8.encode "null")
  | truth (value : Bool) : PlainText (.truth value) (Utf8.encode (toString value))
  | natural (magnitude : Nat) : PlainText (.integer false magnitude) (numeral magnitude)
  | negative (magnitude : Nat) :
      PlainText (.integer true magnitude) (minusSign :: numeral magnitude)
  | text {content : String} {text : Bytes} : StringText content text →
      PlainText (.text content) text

/-! ## Objects -/

section

variable {α : Type} (writes : α → Bytes → Prop)

inductive MemberText : String × α → Bytes → Prop
  | named {name : String} {value : α} {before middle after last text inside : Bytes} :
      Blanks before → StringText name text → Blanks middle → Blanks after →
      writes value inside → Blanks last →
        MemberText (name, value)
          (before ++ text ++ middle ++ colon :: (after ++ inside ++ last))

/-- Members with commas between them. -/
inductive MembersText : List (String × α) → Bytes → Prop
  | none {blanks : Bytes} : Blanks blanks → MembersText [] blanks
  | last {member : String × α} {text : Bytes} : MemberText writes member text →
      MembersText [member] text
  | more {member next : String × α} {rest : List (String × α)} {text later : Bytes} :
      MemberText writes member text → MembersText (next :: rest) later →
        MembersText (member :: next :: rest) (text ++ comma :: later)

inductive ObjectText : List (String × α) → Bytes → Prop
  | braced {members : List (String × α)} {inside : Bytes} :
      MembersText writes members inside →
        ObjectText members (openBrace :: (inside ++ [closeBrace]))

end

/-! ## Documents -/

inductive Value
  | plain (value : Plain)
  | record (members : List (String × Plain))
  deriving DecidableEq

inductive ValueText : Value → Bytes → Prop
  | plain {value : Plain} {text : Bytes} : PlainText value text →
      ValueText (.plain value) text
  | record {members : List (String × Plain)} {text : Bytes} :
      ObjectText PlainText members text → ValueText (.record members) text

/-- A document that is an object, with blanks around it. -/
def DocumentText (members : List (String × Value)) (document : String) : Prop :=
  ∃ before object after, Blanks before ∧ ObjectText ValueText members object ∧
    Blanks after ∧ Utf8.encode document = before ++ object ++ after

end Document

end ShaderFamilies
