import ShaderFamilies.LocationSlot
import ShaderFamilies.StageSources

/-!
# Graphics devices

A device creates, compiles, links and destroys the objects of a graphics
interface.  It is given by its operations on a state, about which nothing is
assumed; failures are reported as the text of a diagnostic.
-/

namespace ShaderFamilies

/-- The operations of a graphics interface on a state `σ`, with stage objects
`S` and program objects `P`. -/
structure Device (σ S P : Type) where
  createStage : Stage → StateM σ (Except String S)
  compileStage : S → String → StateM σ (Except String Unit)
  destroyStage : S → StateM σ Unit
  createProgram : StateM σ (Except String P)
  attachStage : P → S → StateM σ Unit
  linkProgram : P → StateM σ (Except String Unit)
  destroyProgram : P → StateM σ Unit
  attributeLocation : P → String → StateM σ Location
  uniformLocation : P → String → StateM σ Location

/-! ## Recorded calls -/

/-- A call of a device together with what it gave. -/
inductive DeviceCall (S P : Type)
  | createStage (kind : Stage) (result : Except String S)
  | compileStage (stage : S) (source : String) (result : Except String Unit)
  | destroyStage (stage : S)
  | createProgram (result : Except String P)
  | attachStage (program : P) (stage : S)
  | linkProgram (program : P) (result : Except String Unit)
  | destroyProgram (program : P)
  | attributeLocation (program : P) (name : String) (location : Location)
  | uniformLocation (program : P) (name : String) (location : Location)

def DeviceCall.isLookup {S P : Type} : DeviceCall S P → Bool
  | .attributeLocation .. => true
  | .uniformLocation .. => true
  | _ => false

/-- A state beside the calls that led to it, oldest first. -/
structure Recorded (σ κ : Type) where
  state : σ
  calls : Array κ

namespace Recorded

variable {σ κ α : Type}

def carryOut (call : StateM σ α) (note : α → κ) : StateM (Recorded σ κ) α :=
  fun recorded =>
    let outcome := call recorded.state
    (outcome.1, ⟨outcome.2, recorded.calls.push (note outcome.1)⟩)

end Recorded

def Device.recorded {σ S P : Type} (device : Device σ S P) :
    Device (Recorded σ (DeviceCall S P)) S P where
  createStage kind :=
    Recorded.carryOut (device.createStage kind) (.createStage kind)
  compileStage stage source :=
    Recorded.carryOut (device.compileStage stage source) (.compileStage stage source)
  destroyStage stage :=
    Recorded.carryOut (device.destroyStage stage) fun _ => .destroyStage stage
  createProgram := Recorded.carryOut device.createProgram .createProgram
  attachStage program stage :=
    Recorded.carryOut (device.attachStage program stage) fun _ =>
      .attachStage program stage
  linkProgram program :=
    Recorded.carryOut (device.linkProgram program) (.linkProgram program)
  destroyProgram program :=
    Recorded.carryOut (device.destroyProgram program) fun _ => .destroyProgram program
  attributeLocation program name :=
    Recorded.carryOut (device.attributeLocation program name)
      (.attributeLocation program name)
  uniformLocation program name :=
    Recorded.carryOut (device.uniformLocation program name)
      (.uniformLocation program name)

end ShaderFamilies
