import ShaderFamilies.UnprintableCharacters

/-!
# Quoted text in messages

A text in a message stands between double quotes.  The quote and the backslash
are escaped, and characters that do not print are named by their code.
-/

namespace ShaderFamilies

namespace Quoted

def hexadecimal (value : Nat) : List Char :=
  Nat.toDigits 16 value

/-- The character as it stands between the quotes. -/
def escape (character : Char) : List Char :=
  if character = '"' then ['\\', '"']
  else if character = '\\' then ['\\', '\\']
  else if character = '\t' then ['\\', 't']
  else if character = '\n' then ['\\', 'n']
  else if character = '\r' then ['\\', 'r']
  else if character.toNat = 0 then ['\\', '0']
  else if isUnprintable character then
    '\\' :: 'u' :: '\x7b' :: hexadecimal character.toNat ++ ['\x7d']
  else [character]

def quote (text : String) : String :=
  String.ofList ('"' :: text.toList.flatMap escape ++ ['"'])

end Quoted

end ShaderFamilies
