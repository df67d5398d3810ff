/-!
# Stages, their texts and their files

A shader family is written as up to three stage texts.  The vertex and the
fragment stage are always there; an empty geometry text means that the family
has no geometry stage.
-/

namespace ShaderFamilies

/-- The stages of a program, in the order in which they are compiled. -/
inductive Stage
  | vertex
  | fragment
  | geometry
  deriving DecidableEq

def Stage.name : Stage → String
  | .vertex => "vertex"
  | .fragment => "fragment"
  | .geometry => "geometry"

structure Sources where
  vertex : String := ""
  fragment : String := ""
  geometry : String := ""
  deriving DecidableEq

def Sources.hasGeometry (sources : Sources) : Bool :=
  sources.geometry != ""

def Sources.text (sources : Sources) : Stage → String
  | .vertex => sources.vertex
  | .fragment => sources.fragment
  | .geometry => sources.geometry

/-- The stages that are present, with their texts, in compilation order. -/
def Sources.stages (sources : Sources) : List (Stage × String) :=
  (.vertex, sources.vertex) :: (.fragment, sources.fragment) ::
    if sources.hasGeometry then [(.geometry, sources.geometry)] else []

structure Paths where
  vertex : String := ""
  fragment : String := ""
  geometry : Option String := none
  deriving DecidableEq

/-- The file of the geometry stage.  An empty path counts as no path. -/
def Paths.geometryPath (paths : Paths) : Option String :=
  paths.geometry.filter (· != "")

@[simp] theorem Sources.hasGeometry_iff (sources : Sources) :
    sources.hasGeometry = true ↔ sources.geometry ≠ "" := by
  simp [Sources.hasGeometry]

theorem Sources.stages_of_hasGeometry {sources : Sources}
    (hgeometry : sources.hasGeometry = true) :
    sources.stages =
      [(.vertex, sources.vertex), (.fragment, sources.fragment),
        (.geometry, sources.geometry)] := by
  simp [Sources.stages, hgeometry]

theorem Sources.stages_of_not_hasGeometry {sources : Sources}
    (hgeometry : sources.hasGeometry = false) :
    sources.stages =
      [(.vertex, sources.vertex), (.fragment, sources.fragment)] := by
  simp [Sources.stages, hgeometry]

end ShaderFamilies
