import ShaderFamilies.MarkerReplacement
import ShaderFamilies.OpenGlDevice

/-!
# Scripted devices

A script says which calls fail, with which diagnostic, and where names are
found.  The objects are numbered in the order of their creation, stages and
programs apart, and are kept when they are destroyed: a destroyed stage can
still be attached and linked.  The same objects serve a direct device and an
OpenGL context.
-/

namespace ShaderFamilies

/-- Compiling fails with `log` for stages of the kind whose source contains a
text. -/
structure CompileRule where
  kind : Option Stage := none
  contains : String := ""
  log : String

/-- Linking fails with `log` for the program when an attached stage contains a
text. -/
structure LinkRule where
  program : Option Nat := none
  contains : String := ""
  log : String

/-- How a scripted device behaves.  Of the rules that fit, the first counts. -/
structure Script where
  stageFailures : List (Stage × String) := []
  programFailure : Option String := none
  compileRules : List CompileRule := []
  linkRules : List LinkRule := []
  attributes : List (String × Int32) := []
  uniforms : List (String × Int32) := []
  /-- Whether names that are not listed have slots computed from the name. -/
  auto : Bool := false
  /-- What is added to a slot for each program number. -/
  stride : Int := 0
  /-- The slot of names that are not found. -/
  missing : Int32 := -1
  /-- Whether lookups appear among the calls. -/
  showsLookups : Bool := false

namespace Script

def autoSlot (name : String) : Nat :=
  name.toList.flatMap String.utf8EncodeChar |>.foldl
    (fun slot byte => (slot * 31 + byte.toNat) % 1000003) 0

/-- What is added to the computed slots of attributes. -/
def attributeOffset : Nat := 2000000

/-- The slot of a name among those listed, in a program. -/
def slot (script : Script) (listed : List (String × Int32)) (offset program : Nat)
    (name : String) : Int32 :=
  match listed.lookup name with
  | some raw =>
      if raw < 0 then raw else Int32.ofInt (raw.toInt + script.stride * program)
  | none =>
      if script.auto then
        Int32.ofInt (autoSlot name + offset + script.stride * program)
      else script.missing

def attributeSlot (script : Script) (program : Nat) (name : String) : Int32 :=
  script.slot script.attributes attributeOffset program name

def uniformSlot (script : Script) (program : Nat) (name : String) : Int32 :=
  script.slot script.uniforms 0 program name

def compileFailure? (script : Script) (kind : Stage) (source : String) :
    Option String :=
  (script.compileRules.find? fun rule =>
    (rule.kind.isNone || rule.kind == some kind) && hasText source rule.contains).map
    (·.log)

def linkFailure? (script : Script) (program : Nat) (sources : List String) :
    Option String :=
  (script.linkRules.find? fun rule =>
    (rule.program.isNone || rule.program == some program) &&
      (rule.contains == "" || sources.any (hasText · rule.contains))).map
    (·.log)

end Script

/-! ## Objects -/

structure ScriptedStage where
  number : Nat
  kind : Stage
  source : String := ""
  failure : Option String := none
  isLive : Bool := true

structure ScriptedProgram where
  number : Nat
  attached : List Nat := []
  failure : Option String := none
  isLive : Bool := true

/-- The objects of a scripted device, in the order of their creation. -/
structure ScriptedObjects where
  script : Script := {}
  stages : List ScriptedStage := []
  programs : List ScriptedProgram := []

namespace ScriptedObjects

def stage? (objects : ScriptedObjects) (number : Nat) : Option ScriptedStage :=
  objects.stages.find? (·.number == number)

def program? (objects : ScriptedObjects) (number : Nat) : Option ScriptedProgram :=
  objects.programs.find? (·.number == number)

def liveStages (objects : ScriptedObjects) : List ScriptedStage :=
  objects.stages.filter (·.isLive)

def livePrograms (objects : ScriptedObjects) : List ScriptedProgram :=
  objects.programs.filter (·.isLive)

def updateStage (objects : ScriptedObjects) (number : Nat)
    (change : ScriptedStage → ScriptedStage) : ScriptedObjects :=
  { objects with
    stages := objects.stages.map fun stage =>
      if stage.number = number then change stage else stage }

def updateProgram (objects : ScriptedObjects) (number : Nat)
    (change : ScriptedProgram → ScriptedProgram) : ScriptedObjects :=
  { objects with
    programs := objects.programs.map fun program =>
      if program.number = number then change program else program }

def createStage (kind : Stage) : StateM ScriptedObjects (Except String Nat) :=
  fun objects =>
    match objects.script.stageFailures.lookup kind with
    | some report => (.error report, objects)
    | none =>
        let number := objects.stages.length + 1
        (.ok number, { objects with stages := objects.stages ++ [{ number, kind }] })

def setSource (number : Nat) (source : String) : StateM ScriptedObjects Unit :=
  modify fun objects => objects.updateStage number ({ · with source := source })

def compile (number : Nat) : StateM ScriptedObjects Unit :=
  modify fun objects =>
    objects.updateStage number fun stage =>
      { stage with failure := objects.script.compileFailure? stage.kind stage.source }

def compileFailure (number : Nat) : StateM ScriptedObjects (Option String) :=
  return (← get).stage? number |>.bind (·.failure)

def destroyStage (number : Nat) : StateM ScriptedObjects Unit :=
  modify fun objects => objects.updateStage number ({ · with isLive := false })

def createProgram : StateM ScriptedObjects (Except String Nat) :=
  fun objects =>
    match objects.script.programFailure with
    | some report => (.error report, objects)
    | none =>
        let number := objects.programs.length + 1
        (.ok number, { objects with programs := objects.programs ++ [{ number }] })

def attach (program stage : Nat) : StateM ScriptedObjects Unit :=
  modify fun objects =>
    objects.updateProgram program fun program =>
      { program with attached := program.attached ++ [stage] }

def attachedSources (objects : ScriptedObjects) (program : ScriptedProgram) :
    List String :=
  program.attached.filterMap fun number => (objects.stage? number).map (·.source)

def link (number : Nat) : StateM ScriptedObjects Unit :=
  modify fun objects =>
    objects.updateProgram number fun program =>
      { program with
        failure :=
          objects.script.linkFailure? number (objects.attachedSources program) }

def linkFailure (number : Nat) : StateM ScriptedObjects (Option String) :=
  return (← get).program? number |>.bind (·.failure)

def destroyProgram (number : Nat) : StateM ScriptedObjects Unit :=
  modify fun objects => objects.updateProgram number ({ · with isLive := false })

def attributeSlot (program : Nat) (name : String) : StateM ScriptedObjects Int32 :=
  return (← get).script.attributeSlot program name

def uniformSlot (program : Nat) (name : String) : StateM ScriptedObjects Int32 :=
  return (← get).script.uniformSlot program name

end ScriptedObjects

/-! ## Devices over the objects -/

def outcomeOf : Option String → Except String Unit
  | some diagnostic => .error diagnostic
  | none => .ok ()

def scriptedDevice : Device ScriptedObjects Nat Nat where
  createStage := ScriptedObjects.createStage
  compileStage stage source := do
    ScriptedObjects.setSource stage source
    ScriptedObjects.compile stage
    return outcomeOf (← ScriptedObjects.compileFailure stage)
  destroyStage := ScriptedObjects.destroyStage
  createProgram := ScriptedObjects.createProgram
  attachStage := ScriptedObjects.attach
  linkProgram program := do
    ScriptedObjects.link program
    return outcomeOf (← ScriptedObjects.linkFailure program)
  destroyProgram := ScriptedObjects.destroyProgram
  attributeLocation program name :=
    return ⟨← ScriptedObjects.attributeSlot program name⟩
  uniformLocation program name :=
    return ⟨← ScriptedObjects.uniformSlot program name⟩

/-- The kind of stage that OpenGL has for a number: GL_VERTEX_SHADER, GL_FRAGMENT_SHADER
and GL_GEOMETRY_SHADER. -/
def Stage.ofShaderType? (type : UInt32) : Option Stage :=
  if type = 0x8B31 then some .vertex
  else if type = 0x8B30 then some .fragment
  else if type = 0x8DD9 then some .geometry
  else none

def scriptedOpenGl : OpenGl ScriptedObjects Nat Nat where
  createShader type :=
    match Stage.ofShaderType? type with
    | some kind => ScriptedObjects.createStage kind
    | none => return .error "no such type of shader"
  shaderSource := ScriptedObjects.setSource
  compileShader := ScriptedObjects.compile
  shaderCompiled shader := return (← ScriptedObjects.compileFailure shader).isNone
  shaderLog shader := return (← ScriptedObjects.compileFailure shader).getD ""
  deleteShader := ScriptedObjects.destroyStage
  createProgram := ScriptedObjects.createProgram
  attachShader := ScriptedObjects.attach
  linkProgram := ScriptedObjects.link
  programLinked program := return (← ScriptedObjects.linkFailure program).isNone
  programLog program := return (← ScriptedObjects.linkFailure program).getD ""
  deleteProgram := ScriptedObjects.destroyProgram
  attributeSlot := ScriptedObjects.attributeSlot
  uniformSlot := ScriptedObjects.uniformSlot

end ShaderFamilies
