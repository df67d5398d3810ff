import ShaderFamilies.LocationTables
import ShaderFamilies.ProgramBuild
import ShaderFamilies.SourceFiles

/-!
# Building a family

A family is built by loading its templates, specializing them, building a
program for each variant and then looking up the locations of each program.
-/

namespace ShaderFamilies

variable {σ S P : Type} (device : Device σ S P)

/-! ## Locations -/

/-- Looks up a name in a program.  A name that the program does not have is
logged. -/
def lookUp (program : P) : Slot → Work σ S P Location
  | .attribute name => do
      let location ← Work.call (device.attributeLocation program name)
      unless location.isFound do Work.note (.attributeMissing name program)
      return location
  | .uniform name => do
      let location ← Work.call (device.uniformLocation program name)
      unless location.isFound do Work.note (.uniformMissing name program)
      return location

def resolve (program : P) (kind : TableKind) : Work σ S P (Table Location) :=
  kind.slots.traverse (lookUp device program)

/-! ## Programs -/

structure LinkedProgram (P : Type) where
  program : P
  locations : Table Location

def buildVariant (release : Bool) (family : Family) (sources : Sources) :
    Work σ S P P := do
  match ← Work.attempt (buildProgram device release sources) with
  | .ok program =>
      Work.note (.familyBuilt family program)
      return program
  | .error error =>
      Work.note (.familyFailed family error)
      throw error

def buildSingle (release : Bool) (family : Family) (plan : VariantPlan)
    (kind : TableKind) (paths : Paths) : Work σ S P (LinkedProgram P) := do
  let templates ← loadSources paths
  let program ← buildVariant device release family (plan.apply templates)
  return ⟨program, ← resolve device program kind⟩

/-- Builds both halves of a separable pass.  The horizontal program is destroyed
when the vertical one fails. -/
def buildDirectional (release : Bool) (family : Family)
    (plans : DirectionalPair VariantPlan) (kind : TableKind) (paths : Paths) :
    Work σ S P (DirectionalPair (LinkedProgram P)) := do
  let templates ← loadSources paths
  let horizontal ← buildVariant device release family (plans.horizontal.apply templates)
  match ← Work.attempt
      (buildVariant device release family (plans.vertical.apply templates)) with
  | .ok vertical =>
      let horizontalLocations ← resolve device horizontal kind
      let verticalLocations ← resolve device vertical kind
      return ⟨⟨horizontal, horizontalLocations⟩, ⟨vertical, verticalLocations⟩⟩
  | .error error =>
      Work.call (device.destroyProgram horizontal)
      throw error

/-- Builds a family.  Each takes its own sections of the configuration and has
its own table of locations. -/
def buildFamily (config : Configuration) (release : Bool) (family : Family)
    (paths : Paths) : Work σ S P (List (LinkedProgram P)) := do
  match family with
  | .color =>
      return [← buildSingle device release .color
        (colorPlan config.flags config.color)
        (.color config.color.maxPointLights.toNat config.color.maxDirLights.toNat) paths]
  | .shadow =>
      return [← buildSingle device release .shadow
        (shadowPlan config.flags config.shadow) .shadow paths]
  | .dofBlur =>
      return (← buildDirectional device release .dofBlur
        (dofBlurPlans config.dofBlur) .dofBlur paths).toList
  | .dofCoc =>
      return [← buildSingle device release .dofCoc (dofCocPlan config.dofBlur) .dofCoc paths]
  | .blend =>
      return [← buildSingle device release .blend (blendPlan config.flags) .blend paths]
  | .ssr => return [← buildSingle device release .ssr ssrPlan .ssr paths]
  | .bloomSearch =>
      return [← buildSingle device release .bloomSearch bloomSearchPlan .bloomSearch paths]
  | .blur =>
      return (← buildDirectional device release .blur
        (blurPlans config.blur) .blur paths).toList
  | .cubemap =>
      return [← buildSingle device release .cubemap
        (cubemapPlan config.cubemap) .cubemap paths]

end ShaderFamilies
