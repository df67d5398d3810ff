import ShaderFamilies.GraphicsDevice

/-!
# Devices over OpenGL

The functions of OpenGL that concern shaders and programs, and the device that
they make.  Compiling and linking have a status that is asked for afterwards;
only a failure has a log.  A negative slot is no slot.
-/

namespace ShaderFamilies

/-- The shader and program functions of an OpenGL context with state `σ`. -/
structure OpenGl (σ S P : Type) where
  createShader : UInt32 → StateM σ (Except String S)
  shaderSource : S → String → StateM σ Unit
  compileShader : S → StateM σ Unit
  shaderCompiled : S → StateM σ Bool
  shaderLog : S → StateM σ String
  deleteShader : S → StateM σ Unit
  createProgram : StateM σ (Except String P)
  attachShader : P → S → StateM σ Unit
  linkProgram : P → StateM σ Unit
  programLinked : P → StateM σ Bool
  programLog : P → StateM σ String
  deleteProgram : P → StateM σ Unit
  attributeSlot : P → String → StateM σ Int32
  uniformSlot : P → String → StateM σ Int32

def Stage.shaderType : Stage → UInt32
  | .vertex => 0x8B31
  | .fragment => 0x8B30
  | .geometry => 0x8DD9

/-- The slot that OpenGL gave, if it is one. -/
def slotOf (raw : Int32) : Option UInt32 :=
  if 0 ≤ raw then some raw.toUInt32 else none

namespace OpenGl

variable {σ S P : Type}

def device (gl : OpenGl σ S P) : Device σ S P where
  createStage kind := gl.createShader kind.shaderType
  compileStage stage source := do
    gl.shaderSource stage source
    gl.compileShader stage
    if ← gl.shaderCompiled stage then return .ok ()
    else return .error (← gl.shaderLog stage)
  destroyStage := gl.deleteShader
  createProgram := gl.createProgram
  attachStage := gl.attachShader
  linkProgram program := do
    gl.linkProgram program
    if ← gl.programLinked program then return .ok ()
    else return .error (← gl.programLog program)
  destroyProgram := gl.deleteProgram
  attributeLocation program name :=
    return .ofSlot (slotOf (← gl.attributeSlot program name))
  uniformLocation program name :=
    return .ofSlot (slotOf (← gl.uniformSlot program name))

end OpenGl

/-! ## Recorded calls -/

/-- A call of an OpenGL function.  Questions for a status or a log are not
among them; the status stands with the call that it is about. -/
inductive OpenGlCall (S P : Type)
  | createShader (type : UInt32) (result : Except String S)
  | shaderSource (shader : S) (source : String)
  | compileShader (shader : S) (compiled : Bool)
  | deleteShader (shader : S)
  | createProgram (result : Except String P)
  | attachShader (program : P) (shader : S)
  | linkProgram (program : P) (linked : Bool)
  | deleteProgram (program : P)
  | attributeSlot (program : P) (name : String) (raw : Int32)
  | uniformSlot (program : P) (name : String) (raw : Int32)

def OpenGlCall.isLookup {S P : Type} : OpenGlCall S P → Bool
  | .attributeSlot .. => true
  | .uniformSlot .. => true
  | _ => false

/-- Carries out a call that is not noted. -/
def Recorded.passOn {σ κ α : Type} (call : StateM σ α) : StateM (Recorded σ κ) α :=
  fun recorded =>
    let outcome := call recorded.state
    (outcome.1, { recorded with state := outcome.2 })

def OpenGl.recorded {σ S P : Type} (gl : OpenGl σ S P) :
    OpenGl (Recorded σ (OpenGlCall S P)) S P where
  createShader type := Recorded.carryOut (gl.createShader type) (.createShader type)
  shaderSource shader source :=
    Recorded.carryOut (gl.shaderSource shader source) fun _ =>
      .shaderSource shader source
  compileShader shader := do
    let _ ← Recorded.carryOut
      (do gl.compileShader shader; gl.shaderCompiled shader)
      (.compileShader shader)
  shaderCompiled shader := Recorded.passOn (gl.shaderCompiled shader)
  shaderLog shader := Recorded.passOn (gl.shaderLog shader)
  deleteShader shader :=
    Recorded.carryOut (gl.deleteShader shader) fun _ => .deleteShader shader
  createProgram := Recorded.carryOut gl.createProgram .createProgram
  attachShader program shader :=
    Recorded.carryOut (gl.attachShader program shader) fun _ =>
      .attachShader program shader
  linkProgram program := do
    let _ ← Recorded.carryOut
      (do gl.linkProgram program; gl.programLinked program)
      (.linkProgram program)
  programLinked program := Recorded.passOn (gl.programLinked program)
  programLog program := Recorded.passOn (gl.programLog program)
  deleteProgram program :=
    Recorded.carryOut (gl.deleteProgram program) fun _ => .deleteProgram program
  attributeSlot program name :=
    Recorded.carryOut (gl.attributeSlot program name) (.attributeSlot program name)
  uniformSlot program name :=
    Recorded.carryOut (gl.uniformSlot program name) (.uniformSlot program name)

end ShaderFamilies
