import ShaderFamilies.BuildSession
import ShaderFamilies.Proofs.MirroredWork

/-!
# Both backends do the same

A direct device and an OpenGL context over the same scripted objects answer
alike, and each call of the device is one or two calls of the context.
-/

namespace ShaderFamilies

variable {σ S P α β : Type}

/-! ## Calls -/

/-- The numbers that OpenGL has for the kinds of stages: GL_VERTEX_SHADER,
GL_FRAGMENT_SHADER and GL_GEOMETRY_SHADER. -/
def Stage.openGlNumber : Stage → UInt32
  | .vertex => 0x8B31
  | .fragment => 0x8B30
  | .geometry => 0x8DD9

/-- The calls of OpenGL functions that a call of a device amounts to. -/
def DeviceCall.overOpenGl : DeviceCall S P → List (OpenGlCall S P)
  | .createStage kind result => [.createShader kind.openGlNumber result]
  | .compileStage stage source result =>
      [.shaderSource stage source, .compileShader stage result.toBool]
  | .destroyStage stage => [.deleteShader stage]
  | .createProgram result => [.createProgram result]
  | .attachStage program stage => [.attachShader program stage]
  | .linkProgram program result => [.linkProgram program result.toBool]
  | .destroyProgram program => [.deleteProgram program]
  | .attributeLocation program name location => [.attributeSlot program name location.raw]
  | .uniformLocation program name location => [.uniformSlot program name location.raw]

theorem DeviceCall.isLookup_overOpenGl (call : DeviceCall S P) :
    ∀ image ∈ call.overOpenGl, image.isLookup = call.isLookup := by
  cases call <;> simp [overOpenGl, OpenGlCall.isLookup, DeviceCall.isLookup]

def Recorded.overOpenGl (recorded : Recorded σ (DeviceCall S P)) :
    Recorded σ (OpenGlCall S P) where
  state := recorded.state
  calls := (recorded.calls.toList.flatMap DeviceCall.overOpenGl).toArray

/-! ## Operations -/

theorem carryOut_mirrored (operation : StateM σ α) (note : α → DeviceCall S P)
    (imageNote : α → OpenGlCall S P)
    (hnote : ∀ answer, (note answer).overOpenGl = [imageNote answer]) :
    Mirrors Recorded.overOpenGl id (Recorded.carryOut operation note)
      (Recorded.carryOut operation imageNote) := by
  intro recorded
  simp [Recorded.carryOut, Recorded.overOpenGl, hnote]

theorem toBool_outcomeOf (failure : Option String) :
    (outcomeOf failure).toBool = failure.isNone := by
  cases failure <;> rfl

/-- A status, and a log that is asked for after a failure, give the outcome. -/
theorem outcomeOf_status {τ : Type} {log : StateM τ String} {state : τ}
    {failure : Option String} (hlog : log state = (failure.getD "", state)) :
    (if failure.isNone then return .ok () else return .error (← log) :
      StateM τ (Except String Unit)) state = (outcomeOf failure, state) := by
  cases failure with
  | none => rfl
  | some diagnostic =>
      change (Except.error (log state).1, (log state).2) = _
      rw [hlog]
      rfl

/-- The objects after the stage was given its source and compiled. -/
def ScriptedObjects.compiled (objects : ScriptedObjects) (stage : Nat) (source : String) :
    ScriptedObjects :=
  (compile stage (setSource stage source objects).2).2

theorem compileStage_mirrored (stage : Nat) (source : String) :
    Mirrors Recorded.overOpenGl id (scriptedDevice.recorded.compileStage stage source)
      (scriptedOpenGl.recorded.device.compileStage stage source) := by
  intro recorded
  let after := recorded.state.compiled stage source
  let failure := (after.stage? stage).bind (·.failure)
  let calls := (recorded.overOpenGl.calls.push (.shaderSource stage source)).push
    (.compileShader stage failure.isNone)
  have hdirect : scriptedDevice.recorded.compileStage stage source recorded =
      (outcomeOf failure,
        ⟨after, recorded.calls.push (.compileStage stage source (outcomeOf failure))⟩) :=
    rfl
  have hlog : scriptedOpenGl.recorded.shaderLog stage ⟨after, calls⟩ =
      (failure.getD "", ⟨after, calls⟩) :=
    rfl
  have himage : scriptedOpenGl.recorded.device.compileStage stage source
      recorded.overOpenGl = (outcomeOf failure, ⟨after, calls⟩) :=
    outcomeOf_status hlog
  rw [hdirect, himage]
  simp [Recorded.overOpenGl, DeviceCall.overOpenGl, toBool_outcomeOf, calls]

theorem linkProgram_recorded_mirrored (program : Nat) :
    Mirrors Recorded.overOpenGl id (scriptedDevice.recorded.linkProgram program)
      (scriptedOpenGl.recorded.device.linkProgram program) := by
  intro recorded
  let after := (ScriptedObjects.link program recorded.state).2
  let failure := (after.program? program).bind (·.failure)
  let calls := recorded.overOpenGl.calls.push (.linkProgram program failure.isNone)
  have hdirect : scriptedDevice.recorded.linkProgram program recorded =
      (outcomeOf failure,
        ⟨after, recorded.calls.push (.linkProgram program (outcomeOf failure))⟩) :=
    rfl
  have hlog : scriptedOpenGl.recorded.programLog program ⟨after, calls⟩ =
      (failure.getD "", ⟨after, calls⟩) :=
    rfl
  have himage : scriptedOpenGl.recorded.device.linkProgram program recorded.overOpenGl =
      (outcomeOf failure, ⟨after, calls⟩) :=
    outcomeOf_status hlog
  rw [hdirect, himage]
  simp [Recorded.overOpenGl, DeviceCall.overOpenGl, toBool_outcomeOf, calls]

/-- A slot that OpenGL gave is the location that the device gives, but for the
value of those that are not found. -/
theorem ofSlot_slotOf (raw : Int32) :
    Location.ofSlot (slotOf raw) = Location.standard ⟨raw⟩ := by
  unfold slotOf Location.standard Location.isFound
  by_cases hraw : 0 ≤ raw
  · have hbound : raw.toUInt32.toNat < Nat.pow 2 31 := by
      rw [Int32.toNat_toUInt32_of_le hraw]
      have hsigned := raw.toInt_lt
      change raw.toInt.toNat < 2147483648
      omega
    simp only [hraw, if_true, decide_true, Location.ofSlot, if_pos hbound,
      Int32.toInt32_toUInt32]
  · simp [hraw, Location.ofSlot]

/-- Looking up a name, which changes no object. -/
theorem slot_mirrored (slot : ScriptedObjects → Int32) (note : Location → DeviceCall S P)
    (imageNote : Int32 → OpenGlCall S P)
    (hnote : ∀ raw, (note ⟨raw⟩).overOpenGl = [imageNote raw]) :
    Mirrors Recorded.overOpenGl Location.standard
      (Recorded.carryOut (fun objects => (⟨slot objects⟩, objects)) note)
      (do return .ofSlot (slotOf
        (← Recorded.carryOut (fun objects => (slot objects, objects)) imageNote))) := by
  intro recorded
  change (Location.ofSlot (slotOf (slot recorded.state)), _) = _
  rw [ofSlot_slotOf]
  simp [Recorded.carryOut, Recorded.overOpenGl, hnote]

theorem createShader_shaderType (kind : Stage) :
    scriptedOpenGl.createShader kind.shaderType = scriptedDevice.createStage kind := by
  cases kind <;> rfl

theorem createStage_mirrored (kind : Stage) :
    Mirrors Recorded.overOpenGl id (scriptedDevice.recorded.createStage kind)
      (scriptedOpenGl.recorded.device.createStage kind) := by
  have himage : scriptedOpenGl.recorded.device.createStage kind =
      Recorded.carryOut (scriptedDevice.createStage kind) (.createShader kind.shaderType) := by
    rw [← createShader_shaderType]
    rfl
  rw [himage]
  apply carryOut_mirrored
  intro answer
  cases kind <;> rfl

/-- The backend over OpenGL mirrors the direct one. -/
theorem directBackend_mirrored :
    directBackend.device.MirroredBy Recorded.overOpenGl openGlBackend.device where
  createStage := createStage_mirrored
  compileStage := compileStage_mirrored
  destroyStage stage :=
    carryOut_mirrored (scriptedDevice.destroyStage stage) (fun _ => .destroyStage stage)
      (fun _ => .deleteShader stage) fun _ => rfl
  createProgram :=
    carryOut_mirrored scriptedDevice.createProgram .createProgram .createProgram
      fun _ => rfl
  attachStage program stage :=
    carryOut_mirrored (scriptedDevice.attachStage program stage)
      (fun _ => .attachStage program stage) (fun _ => .attachShader program stage)
      fun _ => rfl
  linkProgram := linkProgram_recorded_mirrored
  destroyProgram program :=
    carryOut_mirrored (scriptedDevice.destroyProgram program)
      (fun _ => .destroyProgram program) (fun _ => .deleteProgram program) fun _ => rfl
  attributeLocation program name :=
    slot_mirrored (·.script.attributeSlot program name) (.attributeLocation program name)
      (.attributeSlot program name) fun _ => rfl
  uniformLocation program name :=
    slot_mirrored (·.script.uniformSlot program name) (.uniformLocation program name)
      (.uniformSlot program name) fun _ => rfl

/-! ## Sessions -/

/-- The result with standard locations where a name is not found. -/
def StepResult.standard : StepResult → StepResult
  | .built family programs => .built family (programs.map (·.standard))
  | .table found => .table found.standard
  | result => result

/-- The session over OpenGL. -/
def Session.overOpenGl (session : Session (DeviceCall Nat Nat)) :
    Session (OpenGlCall Nat Nat) where
  bench := session.bench.mapDevice Recorded.overOpenGl
  config := session.config
  release := session.release

/-- The report of the same step over OpenGL. -/
def StepReport.overOpenGl (report : StepReport (DeviceCall Nat Nat)) :
    StepReport (OpenGlCall Nat Nat) where
  result := report.result.map StepResult.standard
  calls := report.calls.flatMap DeviceCall.overOpenGl
  liveStages := report.liveStages
  livePrograms := report.livePrograms
  log := report.log

section

variable {original : Work (Recorded ScriptedObjects (DeviceCall Nat Nat)) Nat Nat α}
  {image : Work (Recorded ScriptedObjects (OpenGlCall Nat Nat)) Nat Nat β} {view : α → β}

theorem Session.carryOut_mirrored
    (hwork : original.MirroredBy Recorded.overOpenGl view image)
    (session : Session (DeviceCall Nat Nat)) :
    session.overOpenGl.carryOut image =
      ((session.carryOut original).1.map view, (session.carryOut original).2.overOpenGl) := by
  simp only [carryOut]
  rw [show session.overOpenGl.bench = session.bench.mapDevice Recorded.overOpenGl from rfl,
    hwork session.bench]
  rfl

theorem Session.report_mirrored
    (hwork : original.MirroredBy Recorded.overOpenGl view image)
    {result : α → StepResult} {imageResult : β → StepResult}
    (hresult : ∀ value, imageResult (view value) = (result value).standard)
    (session : Session (DeviceCall Nat Nat)) :
    session.overOpenGl.report imageResult image =
      ((session.report result original).1.map StepResult.standard,
        (session.report result original).2.overOpenGl) := by
  simp only [report]
  rw [Session.carryOut_mirrored hwork]
  cases (session.carryOut original).1 with
  | error error => rfl
  | ok value => exact congrArg (fun shown => (Except.ok shown, _)) (hresult value)

end

theorem Session.step_mirrored (session : Session (DeviceCall Nat Nat)) (step : SessionStep) :
    session.overOpenGl.step openGlBackend step =
      ((session.step directBackend step).1.map StepResult.standard,
        (session.step directBackend step).2.overOpenGl) := by
  have hdevices := directBackend_mirrored
  cases step with
  | write path node => rfl
  | remove path => rfl
  | files => rfl
  | script script => rfl
  | release value => rfl
  | configure document =>
      simp only [Session.step]
      cases Configuration.ofDocument? document <;> rfl
  | loadConfiguration path =>
      simp only [Session.step]
      rw [Session.carryOut_mirrored (loadConfiguration_mirrored path)]
      rw [Except.map_id]
      cases (session.carryOut (ShaderFamilies.loadConfiguration path)).1 <;> rfl
  | validate =>
      simp only [Session.step]
      change (session.config.validate.map _, _) = _
      cases session.config.validate <;> rfl
  | load paths => exact session.report_mirrored (loadSources_mirrored paths) fun _ => rfl
  | save sources paths =>
      exact session.report_mirrored (saveSources_mirrored sources paths) fun _ => rfl
  | specialize family templates => rfl
  | dump family paths outputs =>
      exact session.report_mirrored (dumpVariants_mirrored session.config family paths outputs)
        fun _ => rfl
  | build family paths =>
      exact session.report_mirrored
        (buildFamily_mirrored hdevices session.config session.release family paths)
        fun _ => rfl
  | compile sources =>
      exact session.report_mirrored (compileStages_mirrored hdevices sources) fun _ => rfl
  | link stages =>
      exact session.report_mirrored (linkProgram_mirrored hdevices stages) fun _ => rfl
  | linkReleasing stages =>
      exact session.report_mirrored (linkProgramReleasing_mirrored hdevices stages)
        fun _ => rfl
  | buildProgram release sources =>
      exact session.report_mirrored (buildProgram_mirrored hdevices release sources)
        fun _ => rfl
  | resolve kind program =>
      exact session.report_mirrored (resolve_mirrored hdevices program kind) fun _ => rfl

theorem filter_flatMap_overOpenGl (shows : Bool) (calls : List (DeviceCall S P)) :
    (calls.flatMap DeviceCall.overOpenGl).filter (fun call => shows || ! call.isLookup) =
      (calls.filter fun call => shows || ! call.isLookup).flatMap DeviceCall.overOpenGl := by
  induction calls with
  | nil => rfl
  | cons call rest ih =>
      have himage : ∀ image ∈ call.overOpenGl,
          (shows || ! image.isLookup) = (shows || ! call.isLookup) := by
        intro image hmem
        rw [call.isLookup_overOpenGl image hmem]
      rw [List.flatMap_cons, List.filter_append, ih, List.filter_cons,
        List.filter_congr himage]
      cases shows || ! call.isLookup with
      | true => simp
      | false => simp

theorem Session.perform_mirrored (session : Session (DeviceCall Nat Nat))
    (step : SessionStep) :
    session.overOpenGl.perform openGlBackend step =
      ((session.perform directBackend step).1.overOpenGl,
        (session.perform directBackend step).2.overOpenGl) := by
  have hcleared : session.overOpenGl.cleared = session.cleared.overOpenGl := rfl
  unfold Session.perform
  rw [hcleared, session.cleared.step_mirrored step]
  refine Prod.ext ?_ rfl
  simp only [StepReport.overOpenGl, StepReport.mk.injEq, true_and]
  let after := (session.cleared.step directBackend step).2.bench.device
  have hcalls :=
    filter_flatMap_overOpenGl after.state.script.showsLookups after.calls.toList
  exact ⟨hcalls, rfl, rfl, rfl⟩

theorem Session.performAll_mirrored (session : Session (DeviceCall Nat Nat))
    (steps : List SessionStep) :
    session.overOpenGl.performAll openGlBackend steps =
      (session.performAll directBackend steps).map StepReport.overOpenGl := by
  induction steps generalizing session with
  | nil => rfl
  | cons step rest ih =>
      rw [Session.performAll, session.perform_mirrored step, ih]
      rfl

/-- Step by step a session over OpenGL reports what the session over the direct
device reports, but for the value of a location that is not found.  The calls
are those that the calls of the device amount to. -/
theorem performAll_overOpenGl (files : FileTree) (script : Script) (config : Configuration)
    (steps : List SessionStep) :
    (Session.start files script config).performAll openGlBackend steps =
      ((Session.start files script config).performAll directBackend steps).map
        StepReport.overOpenGl := by
  rw [← Session.performAll_mirrored]
  rfl

end ShaderFamilies
