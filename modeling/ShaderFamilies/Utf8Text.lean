/-!
# Text in bytes

Strict UTF-8: sequences of one to four bytes, each the shortest for its scalar
value, and no surrogates.  A stage file that is not valid UTF-8 as a whole is
read with one character per byte, so that a stray byte in a comment does not
refuse the file.
-/

namespace ShaderFamilies

abbrev Bytes := List UInt8

namespace Utf8

def encode (text : String) : Bytes :=
  text.toList.flatMap String.utf8EncodeChar

/-- The bits that a byte carries when it continues a sequence. -/
def continuation? (byte : UInt8) : Option Nat :=
  if 0x80 ≤ byte.toNat ∧ byte.toNat < 0xC0 then some (byte.toNat - 0x80) else none

/-- The character with a value, which must be a scalar value and not below the
least one for the length of its sequence. -/
def scalar? (least value : Nat) : Option Char :=
  if least ≤ value ∧ value.isValidChar then some (Char.ofNat value) else none

def decode? : Bytes → Option (List Char)
  | [] => some []
  | lead :: rest =>
      if lead.toNat < 0x80 then
        (decode? rest).map (Char.ofNat lead.toNat :: ·)
      else if lead.toNat < 0xC0 then none
      else
        match rest with
        | [] => none
        | second :: rest => do
            let second ← continuation? second
            if lead.toNat < 0xE0 then
              let character ← scalar? 0x80 ((lead.toNat - 0xC0) * 0x40 + second)
              (decode? rest).map (character :: ·)
            else
              match rest with
              | [] => none
              | third :: rest => do
                  let third ← continuation? third
                  if lead.toNat < 0xF0 then
                    let character ← scalar? 0x800
                      ((lead.toNat - 0xE0) * 0x1000 + second * 0x40 + third)
                    (decode? rest).map (character :: ·)
                  else
                    match rest with
                    | [] => none
                    | fourth :: rest => do
                        let fourth ← continuation? fourth
                        let character ← scalar? 0x10000
                          ((lead.toNat - 0xF0) * 0x40000 + second * 0x1000 +
                            third * 0x40 + fourth)
                        (decode? rest).map (character :: ·)

def text? (bytes : Bytes) : Option String :=
  (decode? bytes).map String.ofList

def byteCharacters (bytes : Bytes) : List Char :=
  bytes.map fun byte => Char.ofNat byte.toNat

/-- The text of the bytes, one character per byte if they are not valid. -/
def lenient (bytes : Bytes) : String :=
  String.ofList ((decode? bytes).getD (byteCharacters bytes))

end Utf8

end ShaderFamilies
