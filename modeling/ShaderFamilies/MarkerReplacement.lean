import ShaderFamilies.DefineBlock

/-!
# Replacing the definitions marker

Every template stage may carry a marker.  Applying a block puts its text in
the place of the first marker; later markers, and markers inside the block
itself, are left alone, and a text without the marker stays as it is.
-/

namespace ShaderFamilies

def definitionsMarker : String := "#algdef"

/-- What stands before and after the first occurrence of a pattern. -/
def splitAtFirst {α : Type} [BEq α] (pattern : List α) :
    List α → Option (List α × List α)
  | [] => if pattern.isEmpty then some ([], []) else none
  | head :: tail =>
      match pattern.isPrefixOf? (head :: tail) with
      | some after => some ([], after)
      | none =>
          (splitAtFirst pattern tail).map fun parts =>
            (head :: parts.1, parts.2)

def replaceFirst {α : Type} [BEq α] (pattern replacement text : List α) : List α :=
  match splitAtFirst pattern text with
  | some (before, after) => before ++ replacement ++ after
  | none => text

/-- Whether a text contains a pattern.  The empty pattern is everywhere. -/
def hasText (text pattern : String) : Bool :=
  (splitAtFirst pattern.toList text.toList).isSome

def DefineBlock.apply (block : DefineBlock) (source : String) : String :=
  String.ofList
    (replaceFirst definitionsMarker.toList block.render.toList source.toList)

end ShaderFamilies
