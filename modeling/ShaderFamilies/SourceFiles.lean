import ShaderFamilies.Workbench

/-!
# Templates and configurations in files

The vertex and the fragment file must be there.  A geometry file is read when
a path for it is given, and written when there is also a geometry text.
-/

namespace ShaderFamilies

variable {σ S P : Type}

def readStage (path : String) : Work σ S P String := do
  return Utf8.lenient (← Work.readFile path)

def writeStage (path : String) (text : String) : Work σ S P Unit :=
  Work.writeFile path (Utf8.encode text)

def loadSources (paths : Paths) : Work σ S P Sources := do
  let vertex ← readStage paths.vertex
  let fragment ← readStage paths.fragment
  let geometry ←
    match paths.geometryPath with
    | some path => readStage path
    | none => pure ""
  let sources : Sources := { vertex, fragment, geometry }
  Work.note (.sourcesLoaded paths sources.hasGeometry)
  return sources

def saveSources (sources : Sources) (paths : Paths) : Work σ S P Unit := do
  writeStage paths.vertex sources.vertex
  writeStage paths.fragment sources.fragment
  match paths.geometryPath with
  | some path => if sources.hasGeometry then writeStage path sources.geometry
  | none => pure ()

def loadConfiguration (path : String) : Work σ S P Configuration := do
  match Utf8.text? (← Work.readFile path) with
  | none => throw (.file path .notText)
  | some document =>
      let config ← Work.conclude (Configuration.ofDocument document)
      Work.note (.configurationLoaded path)
      return config

def saveVariants : List Sources → List Paths → Work σ S P Unit
  | sources :: variants, paths :: outputs => do
      saveSources sources paths
      saveVariants variants outputs
  | _, _ => pure ()

/-- Writes the variants of a family's templates.  There must be as many outputs
as variants; otherwise nothing is written. -/
def dumpVariants (config : Configuration) (family : Family) (paths : Paths)
    (outputs : List Paths) : Work σ S P Unit := do
  let variants := family.variants config (← loadSources paths)
  if variants.length ≠ outputs.length then
    throw (.configuration (.outputCount family variants.length outputs.length))
  saveVariants variants outputs
  Work.note (.variantsDumped variants.length family)

end ShaderFamilies
