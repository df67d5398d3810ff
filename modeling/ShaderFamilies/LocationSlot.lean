/-!
# Locations

A location is the slot of an attribute or uniform in a linked program, as the
graphics interface reported it.  Every negative value means that the program
does not have the name; the value itself is kept.
-/

namespace ShaderFamilies

/-- A slot as it was reported. -/
structure Location where
  raw : Int32
  deriving DecidableEq

namespace Location

def notFound : Location := ⟨-1⟩

def isFound (location : Location) : Bool :=
  0 ≤ location.raw

def index? (location : Location) : Option UInt32 :=
  if location.isFound then some location.raw.toUInt32 else none

/-- The location of an optional slot.  Indices beyond the signed range have no
location. -/
def ofSlot : Option UInt32 → Location
  | some slot => if slot.toNat < Nat.pow 2 31 then ⟨slot.toInt32⟩ else notFound
  | none => notFound

def sort (locations : List Location) : List Location :=
  locations.mergeSort fun first second => first.raw ≤ second.raw

def text (location : Location) : String :=
  if location.isFound then toString location.raw.toInt else "not found"

end Location

end ShaderFamilies
