/-!
# Options of the pipeline

Each option is a closed list of alternatives.  An alternative has a label,
which is how configuration documents name it.
-/

namespace ShaderFamilies

/-- A closed list of labelled alternatives, in their documented order. -/
class Choice (α : Type) where
  alternatives : List α
  label : α → String

def Choice.find? (α : Type) [Choice α] (label : String) : Option α :=
  (Choice.alternatives (α := α)).find? fun alternative =>
    Choice.label alternative == label

def Choice.labels (α : Type) [Choice α] : List String :=
  (Choice.alternatives (α := α)).map Choice.label

inductive Switch
  | disabled
  | enabled
  deriving DecidableEq

instance : Choice Switch where
  alternatives := [.disabled, .enabled]
  label
    | .disabled => "disabled"
    | .enabled => "enabled"

/-- A mapping that is off, on, or switched by a uniform while running. -/
inductive MappingMode
  | disabled
  | enabled
  | dual
  deriving DecidableEq

instance : Choice MappingMode where
  alternatives := [.disabled, .enabled, .dual]
  label
    | .disabled => "disabled"
    | .enabled => "enabled"
    | .dual => "dual"

/-- Shadows of the color pass; simple ones take a single sample. -/
inductive ShadowMode
  | disabled
  | simple
  | enabled
  deriving DecidableEq

instance : Choice ShadowMode where
  alternatives := [.disabled, .simple, .enabled]
  label
    | .disabled => "disabled"
    | .simple => "simple"
    | .enabled => "enabled"

inductive ShadowLight
  | point
  | directional
  deriving DecidableEq

instance : Choice ShadowLight where
  alternatives := [.point, .directional]
  label
    | .point => "point"
    | .directional => "directional"

inductive BloomBlend
  | add
  | screen
  deriving DecidableEq

instance : Choice BloomBlend where
  alternatives := [.add, .screen]
  label
    | .add => "add"
    | .screen => "screen"

/-- Where the depth of field passes take the circle of confusion from. -/
inductive DofAlgorithm
  | cinematic
  | linear
  | fromCocMap
  deriving DecidableEq

instance : Choice DofAlgorithm where
  alternatives := [.cinematic, .linear, .fromCocMap]
  label
    | .cinematic => "cinematic"
    | .linear => "linear"
    | .fromCocMap => "from_coc_map"

inductive VectorType
  | float
  | vec2
  | vec3
  | vec4
  deriving DecidableEq

def VectorType.typeName : VectorType → String
  | .float => "float"
  | .vec2 => "vec2"
  | .vec3 => "vec3"
  | .vec4 => "vec4"

instance : Choice VectorType where
  alternatives := [.float, .vec2, .vec3, .vec4]
  label := VectorType.typeName

inductive Channels
  | red
  | rg
  | rgb
  | rgba
  deriving DecidableEq

def Channels.swizzle : Channels → String
  | .red => "r"
  | .rg => "rg"
  | .rgb => "rgb"
  | .rgba => "rgba"

instance : Choice Channels where
  alternatives := [.red, .rg, .rgb, .rgba]
  label
    | .red => "red"
    | .rg => "rg"
    | .rgb => "rgb"
    | .rgba => "rgba"

inductive PositionOutput
  | none
  | cube
  | sphere
  deriving DecidableEq

instance : Choice PositionOutput where
  alternatives := [.none, .cube, .sphere]
  label
    | .none => "none"
    | .cube => "cube"
    | .sphere => "sphere"

end ShaderFamilies
