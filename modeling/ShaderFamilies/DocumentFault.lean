import ShaderFamilies.QuotedText
import ShaderFamilies.ShortestDecimal
import ShaderFamilies.Utf8Text

/-!
# What can be wrong with a document

A document is read byte by byte.  A failure keeps the bytes that follow the
position where it is reported; the position itself, by line and column, is
computed once, from the whole text.
-/

namespace ShaderFamilies

namespace Document

/-- A value as messages describe it when another kind was expected. -/
inductive Found
  | null
  | truth (value : Bool)
  | integer (value : Int)
  | real (value : Float)
  | text (content : String)
  | sequence
  | map

def Found.describe : Found → String
  | .null => "null"
  | .truth true => "boolean `true`"
  | .truth false => "boolean `false`"
  | .integer value => "integer `" ++ toString value ++ "`"
  | .real value => "floating point `" ++ Decimal.text value ++ "`"
  | .text content => "string " ++ Quoted.quote content
  | .sequence => "sequence"
  | .map => "map"

inductive Cause
  | endInList
  | endInObject
  | endInString
  | endInValue
  | colonExpected
  | listEndExpected
  | objectEndExpected
  | wordExpected
  | valueExpected
  | invalidEscape
  | invalidNumber
  | numberRange
  | controlCharacter
  | keyNotString
  | loneSurrogate
  | surrogateEnd
  | trailingComma
  | trailingCharacters
  | kind (found : Found) (expected : String)
  | value (found : Found) (expected : String)
  | unknownLabel (label : String) (known : List String)
  | duplicateField (name : String)

def alternatives : List String → String
  | [] => "there are no variants"
  | [label] => "expected `" ++ label ++ "`"
  | [first, second] => "expected `" ++ first ++ "` or `" ++ second ++ "`"
  | labels =>
      "expected one of " ++
        ", ".intercalate (labels.map fun label => "`" ++ label ++ "`")

def Cause.message : Cause → String
  | .endInList => "EOF while parsing a list"
  | .endInObject => "EOF while parsing an object"
  | .endInString => "EOF while parsing a string"
  | .endInValue => "EOF while parsing a value"
  | .colonExpected => "expected `:`"
  | .listEndExpected => "expected `,` or `]`"
  | .objectEndExpected => "expected `,` or `\x7d`"
  | .wordExpected => "expected ident"
  | .valueExpected => "expected value"
  | .invalidEscape => "invalid escape"
  | .invalidNumber => "invalid number"
  | .numberRange => "number out of range"
  | .controlCharacter =>
      "control character (\\u0000-\\u001F) found while parsing a string"
  | .keyNotString => "key must be a string"
  | .loneSurrogate => "lone leading surrogate in hex escape"
  | .surrogateEnd => "unexpected end of hex escape"
  | .trailingComma => "trailing comma"
  | .trailingCharacters => "trailing characters"
  | .kind found expected =>
      "invalid type: " ++ found.describe ++ ", expected " ++ expected
  | .value found expected =>
      "invalid value: " ++ found.describe ++ ", expected " ++ expected
  | .unknownLabel label known =>
      "unknown variant `" ++ label ++ "`, " ++ alternatives known
  | .duplicateField name => "duplicate field `" ++ name ++ "`"

/-- A cause with the bytes after the position where it is reported. -/
structure Failure where
  cause : Cause
  rest : Bytes

/-- A failure before the first of the unread bytes. -/
def failHere {α : Type} (cause : Cause) (unread : Bytes) : Except Failure α :=
  .error ⟨cause, unread⟩

/-- A failure after the first of the unread bytes. -/
def failNext {α : Type} (cause : Cause) (unread : Bytes) : Except Failure α :=
  .error ⟨cause, unread.tail⟩

/-- A cause with the line and the column, in bytes, where it is reported. -/
structure Fault where
  cause : Cause
  line : Nat
  column : Nat

def lineEnd : UInt8 := 0x0A

def Failure.locate (failure : Failure) (text : Bytes) : Fault :=
  let before := text.take (text.length - failure.rest.length)
  { cause := failure.cause
    line := before.count lineEnd + 1
    column := (before.reverse.takeWhile (· != lineEnd)).length }

def Fault.message (fault : Fault) : String :=
  fault.cause.message ++ " at line " ++ toString fault.line ++
    " column " ++ toString fault.column

end Document

end ShaderFamilies
