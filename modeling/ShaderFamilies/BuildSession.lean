import ShaderFamilies.FamilyBuild
import ShaderFamilies.ScriptedDevice

/-!
# Sessions

A session is a sequence of steps over one working directory, one scripted
device, one configuration, and one choice whether builds release their stages.
Each step is reported with the calls that it made, the objects that are live
after it, and what it logged.
-/

namespace ShaderFamilies

/-! ## Backends -/

/-- A device over scripted objects whose calls are of kind `κ`. -/
structure Backend (κ : Type) where
  device : Device (Recorded ScriptedObjects κ) Nat Nat
  isLookup : κ → Bool
  showStage : Nat → String
  showProgram : Nat → String

def directBackend : Backend (DeviceCall Nat Nat) where
  device := scriptedDevice.recorded
  isLookup := DeviceCall.isLookup
  showStage number := toString number
  showProgram number := toString number

def openGlBackend : Backend (OpenGlCall Nat Nat) where
  device := scriptedOpenGl.recorded.device
  isLookup := OpenGlCall.isLookup
  showStage number := "NativeShader(" ++ toString number ++ ")"
  showProgram number := "NativeProgram(" ++ toString number ++ ")"

/-! ## Steps -/

inductive SessionStep
  | write (path : String) (node : FileNode)
  | remove (path : String)
  | files
  | script (script : Script)
  | release (value : Bool)
  | configure (document : Option String)
  | loadConfiguration (path : String)
  | validate
  | load (paths : Paths)
  | save (sources : Sources) (paths : Paths)
  | specialize (family : Family) (templates : Sources)
  | dump (family : Family) (paths : Paths) (outputs : List Paths)
  | build (family : Family) (paths : Paths)
  | compile (sources : Sources)
  | link (stages : List Nat)
  | linkReleasing (stages : List Nat)
  | buildProgram (release : Bool) (sources : Sources)
  | resolve (kind : TableKind) (program : Nat)

inductive StepResult
  | done
  | listing (entries : List (String × FileNode))
  | configuration (config : Configuration)
  | loaded (sources : Sources)
  | variants (variants : List Sources)
  | built (family : Family) (programs : List (LinkedProgram Nat))
  | stages (stages : List Nat)
  | program (program : Nat)
  | table (table : Table Location)

structure Session (κ : Type) where
  bench : Workbench (Recorded ScriptedObjects κ) Nat Nat
  config : Configuration
  release : Bool := true

structure StepReport (κ : Type) where
  result : Except ShaderError StepResult
  calls : List κ
  liveStages : Nat
  livePrograms : Nat
  log : List (LogEvent Nat Nat)

/-- The configuration of a document, or the default one without a document. -/
def Configuration.ofDocument? : Option String → Except ShaderError Configuration
  | some document => Configuration.ofDocument document
  | none => .ok {}

namespace Session

variable {κ : Type}

def start (files : FileTree) (script : Script) (config : Configuration) : Session κ where
  bench :=
    { files := files, device := ⟨{ script := script }, #[]⟩, log := #[] }
  config := config

def changeFiles (session : Session κ) (change : FileTree → FileTree) : Session κ :=
  { session with
    bench := { session.bench with files := change session.bench.files } }

/-- The session with a new script.  Its objects stay. -/
def changeScript (session : Session κ) (script : Script) : Session κ :=
  let recorded := session.bench.device
  { session with
    bench :=
      { session.bench with
        device := { recorded with state := { recorded.state with script := script } } } }

def changeConfiguration (session : Session κ) :
    Except ShaderError Configuration → Except ShaderError StepResult × Session κ
  | .ok config => (.ok (.configuration config), { session with config := config })
  | .error error => (.error error, session)

def carryOut {α : Type} (session : Session κ)
    (work : Work (Recorded ScriptedObjects κ) Nat Nat α) :
    Except ShaderError α × Session κ :=
  let outcome := work.run session.bench
  (outcome.1, { session with bench := outcome.2 })

def report {α : Type} (session : Session κ) (result : α → StepResult)
    (work : Work (Recorded ScriptedObjects κ) Nat Nat α) :
    Except ShaderError StepResult × Session κ :=
  let outcome := session.carryOut work
  (outcome.1.map result, outcome.2)

def step (backend : Backend κ) (session : Session κ) :
    SessionStep → Except ShaderError StepResult × Session κ
  | .write path node => (.ok .done, session.changeFiles (·.lay path node))
  | .remove path => (.ok .done, session.changeFiles (·.remove path))
  | .files => (.ok (.listing session.bench.files.listing), session)
  | .script script => (.ok .done, session.changeScript script)
  | .release value => (.ok .done, { session with release := value })
  | .configure document =>
      session.changeConfiguration (Configuration.ofDocument? document)
  | .loadConfiguration path =>
      let outcome := session.carryOut (ShaderFamilies.loadConfiguration path)
      outcome.2.changeConfiguration outcome.1
  | .validate => (session.config.validate.map fun _ => .done, session)
  | .load paths => session.report .loaded (loadSources paths)
  | .save sources paths => session.report (fun _ => .done) (saveSources sources paths)
  | .specialize family templates =>
      (.ok (.variants (family.variants session.config templates)), session)
  | .dump family paths outputs =>
      session.report (fun _ => .done) (dumpVariants session.config family paths outputs)
  | .build family paths =>
      session.report (.built family)
        (buildFamily backend.device session.config session.release family paths)
  | .compile sources => session.report .stages (compileStages backend.device sources)
  | .link stages => session.report .program (linkProgram backend.device stages)
  | .linkReleasing stages =>
      session.report .program (linkProgramReleasing backend.device stages)
  | .buildProgram release sources =>
      session.report .program
        (ShaderFamilies.buildProgram backend.device release sources)
  | .resolve kind program =>
      session.report .table (ShaderFamilies.resolve backend.device program kind)

def cleared (session : Session κ) : Session κ :=
  { session with
    bench :=
      { session.bench with
        device := { session.bench.device with calls := #[] }
        log := #[] } }

def perform (backend : Backend κ) (session : Session κ) (step : SessionStep) :
    StepReport κ × Session κ :=
  let outcome := session.cleared.step backend step
  let bench := outcome.2.bench
  let objects := bench.device.state
  ({ result := outcome.1
     calls :=
       bench.device.calls.toList.filter fun call =>
         objects.script.showsLookups || ! backend.isLookup call
     liveStages := objects.liveStages.length
     livePrograms := objects.livePrograms.length
     log := bench.log.toList },
    outcome.2)

def performAll (backend : Backend κ) (session : Session κ) :
    List SessionStep → List (StepReport κ)
  | [] => []
  | step :: rest =>
      let outcome := session.perform backend step
      outcome.1 :: outcome.2.performAll backend rest

end Session

end ShaderFamilies
