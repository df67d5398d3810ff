import ShaderFamilies.Proofs.FirstFailure
import ShaderFamilies.Proofs.TableFilling

/-!
# What the log of a build tells

The log of a build follows from its calls and its result.  Each stage that is
compiled and each program that is linked has its lines, and so has a failure:
one where a text was refused, and one for the family unless a file could not be
read.  Names that a program does not have are told last.
-/

namespace ShaderFamilies

variable {σ S P α : Type}

/-! ## Events that follow from calls -/

/-- What the events of a call depend on: the kind of the stage that was created
last, and how many stages were attached since a program was created. -/
structure Course where
  kind : Stage := .vertex
  attached : Nat := 0

namespace Course

def after (course : Course) : DeviceCall S P → Course
  | .createStage kind _ => { course with kind }
  | .createProgram _ => { course with attached := 0 }
  | .attachStage .. => { course with attached := course.attached + 1 }
  | _ => course

/-- The events that a call gives rise to. -/
def events (family : Family) (course : Course) : DeviceCall S P → List (LogEvent S P)
  | .compileStage stage _ (.ok _) => [.stageCompiled course.kind stage]
  | .compileStage _ _ (.error diagnostic) => [.stageFailed course.kind diagnostic]
  | .linkProgram program (.ok _) =>
      [.programLinked program course.attached, .familyBuilt family program]
  | .linkProgram _ (.error diagnostic) => [.programFailed diagnostic]
  | _ => []

end Course

/-- The events that calls give rise to, one call after the other. -/
def toldBy (family : Family) (course : Course) : List (DeviceCall S P) → List (LogEvent S P)
  | [] => []
  | call :: rest => course.events family call ++ toldBy family (course.after call) rest

namespace ShaderError

/-- Whether the error is the failure of a call of the device. -/
def OfDevice : ShaderError → Prop
  | .compile .. | .link _ | .device _ => True
  | .file .. | .configuration _ => False

/-- The event of what the device refused. -/
def refusal : ShaderError → List (LogEvent S P)
  | .compile kind diagnostic => [.stageFailed kind diagnostic]
  | .link diagnostic => [.programFailed diagnostic]
  | _ => []

/-- The event of a family that failed.  There is none if a file could not be read. -/
def failure (family : Family) : ShaderError → List (LogEvent S P)
  | .file .. => []
  | error => [.familyFailed family error]

theorem OfDevice.failure_eq {error : ShaderError} (hdevice : error.OfDevice)
    (family : Family) :
    error.failure family = [(.familyFailed family error : LogEvent S P)] := by
  cases error with
  | file => exact hdevice.elim
  | compile | link | device | configuration => rfl

end ShaderError

/-- What is logged for the error with which a build ends. -/
def onError (events : ShaderError → List (LogEvent S P)) :
    Except ShaderError α → List (LogEvent S P)
  | .ok _ => []
  | .error error => events error

section

variable {family : Family} {course : Course}

theorem toldBy_append (first second : List (DeviceCall S P)) :
    toldBy family course (first ++ second) =
      toldBy family course first ++
        toldBy family (first.foldl Course.after course) second := by
  induction first generalizing course with
  | nil => rfl
  | cons call rest ih =>
      rw [List.cons_append, toldBy, toldBy, ih, List.append_assoc]
      rfl

theorem toldBy_eq_nil {calls : List (DeviceCall S P)}
    (hcalls : ∀ call ∈ calls, call.isCleanUp = true ∨ call.isLookup = true) :
    toldBy family course calls = [] := by
  induction calls generalizing course with
  | nil => rfl
  | cons call rest ih =>
      have hevents : course.events family call = [] := by
        cases call <;> first | rfl | simp [DeviceCall.isCleanUp, DeviceCall.isLookup] at hcalls
      rw [toldBy, hevents, List.nil_append]
      exact ih fun other hmem => hcalls other (List.mem_cons_of_mem call hmem)

theorem toldBy_map_cleanUp {H : Type} {make : H → DeviceCall S P}
    (hmake : ∀ handle, (make handle).isCleanUp = true) (handles : List H) :
    toldBy family course (handles.map make) = [] := by
  apply toldBy_eq_nil
  intro call hmem
  obtain ⟨handle, _, hcall⟩ := List.mem_map.mp hmem
  rw [← hcall]
  exact Or.inl (hmake handle)

theorem toldBy_destroyStages (stages : List S) :
    toldBy family course (stages.map .destroyStage : List (DeviceCall S P)) = [] :=
  toldBy_map_cleanUp (fun _ => rfl) stages

theorem toldBy_destroyPrograms (programs : List P) :
    toldBy family course (programs.map .destroyProgram : List (DeviceCall S P)) = [] :=
  toldBy_map_cleanUp (fun _ => rfl) programs

theorem toldBy_attachStages (program : P) (stages : List S) (rest : List (DeviceCall S P)) :
    toldBy family course (stages.map (.attachStage program) ++ rest) =
      toldBy family { course with attached := course.attached + stages.length } rest := by
  induction stages generalizing course with
  | nil => rfl
  | cons stage stages ih =>
      rw [List.map_cons, List.cons_append, toldBy]
      change toldBy family { course with attached := course.attached + 1 } _ = _
      rw [ih, List.length_cons, Nat.add_assoc, Nat.add_comm 1]

end

/-! ## The events of each part of a build -/

section

variable {family : Family} {deeds : List (Deed S P)}

theorem Compiles.toldBy_calls {done : List S} {remaining : List (Stage × String)}
    {result : Except ShaderError (List S)} (hrun : Compiles done remaining deeds result)
    (course : Course) : toldBy family course (callsOf deeds) = notesOf deeds := by
  induction hrun generalizing course with
  | finished done => rfl
  | notCreated done kind text rest reason =>
      simp only [callsOf_call, callsOf_destroyStageDeeds, toldBy, toldBy_destroyStages,
        notesOf_call, notesOf_destroyStageDeeds]
      rfl
  | notCompiled done kind text rest stage diagnostic =>
      simp only [callsOf_call, callsOf_note, callsOf_destroyStageDeeds, toldBy,
        toldBy_destroyStages, notesOf_call, notesOf_note, notesOf_destroyStageDeeds]
      rfl
  | compiled kind text stage hrest ih =>
      simp only [callsOf_call, callsOf_note, toldBy, ih, notesOf_call, notesOf_note]
      rfl

/-- The event of a program that was built. -/
def builtEvents (family : Family) : Except ShaderError P → List (LogEvent S P)
  | .ok program => [.familyBuilt family program]
  | .error _ => []

theorem Links.toldBy_calls {stages : List S} {result : Except ShaderError P}
    (hrun : Links stages deeds result) (course : Course) :
    toldBy family course (callsOf deeds) = notesOf deeds ++ builtEvents family result := by
  cases hrun with
  | notCreated reason => rfl
  | notLinked program diagnostic =>
      simp only [callsOf_call, callsOf_append, callsOf_attachDeeds, toldBy,
        toldBy_attachStages, notesOf_call, notesOf_append, notesOf_attachDeeds]
      rfl
  | linked program =>
      simp only [callsOf_call, callsOf_append, callsOf_attachDeeds, toldBy,
        toldBy_attachStages, notesOf_call, notesOf_append, notesOf_attachDeeds]
      change [LogEvent.programLinked program (0 + stages.length), .familyBuilt family program] = _
      rw [Nat.zero_add]
      rfl

/-- Whether stages are released or not, some are destroyed and nothing else is
done. -/
theorem exists_destroyed (release : Bool) (stages : List S) :
    ∃ destroyed, (if release then destroyStageDeeds stages else [] : List (Deed S P)) =
      destroyStageDeeds destroyed := by
  cases release with
  | true => exact ⟨stages, rfl⟩
  | false => exact ⟨[], rfl⟩

theorem BuildsProgram.toldBy_calls {release : Bool} {sources : Sources}
    {result : Except ShaderError P} (hrun : BuildsProgram release sources deeds result)
    (course : Course) :
    toldBy family course (callsOf deeds) = notesOf deeds ++ builtEvents family result := by
  cases hrun with
  | notCompiled hcompile =>
      rw [hcompile.toldBy_calls]
      exact (List.append_nil _).symm
  | @compiled compiling linking stages _ hcompile hlink =>
      obtain ⟨destroyed, hdestroyed⟩ := exists_destroyed (P := P) release stages
      rw [hdestroyed]
      simp only [callsOf_append, callsOf_destroyStageDeeds, toldBy_append,
        toldBy_destroyStages, hcompile.toldBy_calls, hlink.toldBy_calls, notesOf_append,
        notesOf_destroyStageDeeds, List.append_nil, List.append_assoc]

theorem Compiles.refusal {done : List S} {remaining : List (Stage × String)}
    {result : Except ShaderError (List S)} (hrun : Compiles done remaining deeds result) :
    (notesOf deeds).filter (·.level = .error) = onError ShaderError.refusal result := by
  induction hrun with
  | finished done => rfl
  | notCreated done kind text rest reason =>
      rw [notesOf_call, notesOf_destroyStageDeeds]
      rfl
  | notCompiled done kind text rest stage diagnostic =>
      simp only [notesOf_call, notesOf_note, notesOf_destroyStageDeeds]
      rfl
  | compiled kind text stage hrest ih =>
      simp only [notesOf_call, notesOf_note]
      rw [← ih]
      rfl

theorem Links.refusal {stages : List S} {result : Except ShaderError P}
    (hrun : Links stages deeds result) :
    (notesOf deeds).filter (·.level = .error) = onError ShaderError.refusal result := by
  cases hrun with
  | notCreated reason => rfl
  | notLinked program diagnostic | linked program =>
      simp only [notesOf_call, notesOf_append, notesOf_attachDeeds]
      rfl

theorem BuildsProgram.refusal {release : Bool} {sources : Sources}
    {result : Except ShaderError P} (hrun : BuildsProgram release sources deeds result) :
    (notesOf deeds).filter (·.level = .error) = onError ShaderError.refusal result := by
  cases hrun with
  | notCompiled hcompile => exact hcompile.refusal
  | @compiled compiling linking stages _ hcompile hlink =>
      obtain ⟨destroyed, hdestroyed⟩ := exists_destroyed (P := P) release stages
      rw [hdestroyed, notesOf_append, notesOf_append, notesOf_destroyStageDeeds,
        List.append_nil, List.filter_append, hcompile.refusal, hlink.refusal]
      rfl

theorem Compiles.ofDevice {done : List S} {remaining : List (Stage × String)}
    {result : Except ShaderError (List S)} (hrun : Compiles done remaining deeds result)
    {error : ShaderError} (hresult : result = .error error) : error.OfDevice := by
  induction hrun with
  | finished done => cases hresult
  | notCreated | notCompiled =>
      cases hresult
      trivial
  | compiled kind text stage hrest ih => exact ih hresult

theorem BuildsProgram.ofDevice {release : Bool} {sources : Sources} {error : ShaderError}
    (hrun : BuildsProgram release sources deeds (.error error : Except ShaderError P)) :
    error.OfDevice := by
  cases hrun with
  | notCompiled hcompile => exact hcompile.ofDevice rfl
  | compiled hcompile hlink => cases hlink <;> trivial

theorem BuildsVariants.toldBy_calls {release : Bool} {done : List P} {remaining : List Sources}
    {result : Except ShaderError (List P)}
    (hrun : BuildsVariants release family done remaining deeds result) (course : Course) :
    notesOf deeds =
      toldBy family course (callsOf deeds) ++ onError (ShaderError.failure family) result := by
  -- the events of a program that was linked come from its calls, so only a failure adds one
  induction hrun generalizing course with
  | finished done => rfl
  | @failed done sources rest building error hbuild =>
      rw [notesOf_append, notesOf_note, notesOf_destroyProgramDeeds, callsOf_append,
        callsOf_note, callsOf_destroyProgramDeeds, toldBy_append, toldBy_destroyPrograms,
        hbuild.toldBy_calls]
      change _ = _ ++ error.failure family
      rw [hbuild.ofDevice.failure_eq]
      simp [builtEvents]
  | @built done sources rest building later program result hbuild hrest ih =>
      rw [notesOf_append, notesOf_note, callsOf_append, callsOf_note, toldBy_append,
        hbuild.toldBy_calls, ih ((callsOf building).foldl Course.after course)]
      simp [builtEvents]

theorem BuildsVariants.refusal {release : Bool} {done : List P} {remaining : List Sources}
    {result : Except ShaderError (List P)}
    (hrun : BuildsVariants release family done remaining deeds result) :
    (notesOf deeds).filter (·.level = .error) =
      onError ShaderError.refusal result ++ onError (ShaderError.failure family) result := by
  induction hrun with
  | finished done => rfl
  | @failed done sources rest building error hbuild =>
      rw [notesOf_append, notesOf_note, notesOf_destroyProgramDeeds, List.filter_append,
        hbuild.refusal]
      change _ = _ ++ error.failure family
      rw [hbuild.ofDevice.failure_eq]
      rfl
  | @built done sources rest building later program result hbuild hrest ih =>
      rw [notesOf_append, notesOf_note, List.filter_append, hbuild.refusal, ← ih]
      rfl

end

/-! ## The events of a build -/

/-- Whether the event tells that a program does not have a name. -/
def LogEvent.isMissing : LogEvent S P → Bool
  | .attributeMissing .. | .uniformMissing .. => true
  | _ => false

theorem filter_missing_eq_nil {missing : List (LogEvent S P)}
    (hmissing : ∀ event ∈ missing, event.isMissing = true) {level : LogLevel}
    (hlevel : level ≠ .trace) : missing.filter (·.level = level) = [] := by
  rw [List.filter_eq_nil_iff]
  intro event hmem
  have hevent := hmissing event hmem
  have htrace : event.level = .trace := by
    cases event <;> first | rfl | cases hevent
  simpa [htrace] using hlevel.symm

/-- The event of templates that were read. -/
def loadedEvents (files : FileTree) (paths : Paths) : List (LogEvent S P) :=
  match files.sources paths with
  | .ok templates => [.sourcesLoaded paths templates.hasGeometry]
  | .error _ => []

theorem LooksUp.isMissing {programs : List P} {deeds : List (Deed S P)}
    (hlook : LooksUp programs deeds) : ∀ event ∈ notesOf deeds, event.isMissing = true := by
  induction hlook with
  | finished => simp
  | looked hdeeds hrest ih =>
      intro event hmem
      rw [notesOf_append, List.mem_append] at hmem
      rcases hmem with hmem | hmem
      · obtain ⟨deed, hdeed, hevent⟩ := List.mem_filterMap.mp hmem
        have hlooks := hdeeds deed hdeed
        cases deed with
        | call made => cases hevent
        | note logged =>
            cases hevent
            cases event <;> first | rfl | exact hlooks.elim
      · exact ih event hmem

theorem FileTree.firstFault?_eq_none {files : FileTree} {paths : List String} :
    files.firstFault? paths = none ↔ ∀ path ∈ paths, ∃ content, files.read path = .ok content := by
  induction paths with
  | nil => simp [firstFault?]
  | cons path rest ih =>
      rw [firstFault?, List.forall_mem_cons]
      cases files.read path with
      | ok content => simp [ih]
      | error fault => simp

theorem FileTree.exists_file_of_sources {files : FileTree} {paths : Paths} {error : ShaderError}
    (hload : files.sources paths = .error error) : ∃ path fault, error = .file path fault := by
  have hsources := files.sources_of_firstFault? paths
  rw [hload] at hsources
  split at hsources
  · next path fault _ => exact ⟨path, fault, Except.error.inj hsources⟩
  · obtain ⟨templates, hok⟩ := hsources
    cases hok

section

variable {files : FileTree} {paths : Paths} {release : Bool} {family : Family}
  {plans : List VariantPlan} {deeds : List (Deed S P)}
  {result : Except ShaderError (List (LinkedProgram P))}

theorem BuildsFamily.events (hrun : BuildsFamily files paths release family plans deeds result)
    (course : Course) :
    ∃ missing, (∀ event ∈ missing, event.isMissing = true) ∧
      notesOf deeds = loadedEvents files paths ++ toldBy family course (callsOf deeds) ++
        onError (ShaderError.failure family) result ++ missing := by
  cases hrun with
  | unread hload =>
      obtain ⟨path, fault, herror⟩ := FileTree.exists_file_of_sources hload
      subst herror
      refine ⟨[], by simp, ?_⟩
      rw [loadedEvents, hload]
      rfl
  | failed hload hbuild =>
      refine ⟨[], by simp, ?_⟩
      rw [loadedEvents, hload, notesOf_note, hbuild.toldBy_calls course]
      simp [onError]
  | @built templates building later programs linked hload hbuild hlook =>
      refine ⟨notesOf later, hlook.isMissing, ?_⟩
      have hlooked : ∀ call ∈ callsOf later, call.isCleanUp = true ∨ call.isLookup = true :=
        fun call hmem => Or.inr (hlook.isLookup call hmem)
      rw [loadedEvents, hload, notesOf_note, notesOf_append, hbuild.toldBy_calls course,
        callsOf_note, callsOf_append, toldBy_append, toldBy_eq_nil hlooked]
      simp [onError]

theorem BuildsFamily.refusal
    (hrun : BuildsFamily files paths release family plans deeds result) :
    (notesOf deeds).filter (·.level = .error) =
      onError ShaderError.refusal result ++ onError (ShaderError.failure family) result := by
  cases hrun with
  | unread hload =>
      obtain ⟨path, fault, herror⟩ := FileTree.exists_file_of_sources hload
      subst herror
      rfl
  | failed hload hbuild =>
      rw [notesOf_note]
      exact hbuild.refusal
  | @built templates building later programs linked hload hbuild hlook =>
      rw [notesOf_note, notesOf_append]
      change (notesOf building ++ notesOf later).filter _ = _
      rw [List.filter_append, hbuild.refusal,
        filter_missing_eq_nil hlook.isMissing (by decide)]
      rfl

end

/-! ## What the log tells -/

/-- The program that a call linked. -/
def DeviceCall.linked? : DeviceCall S P → Option P
  | .linkProgram program (.ok _) => some program
  | _ => none

/-- The stage that a call compiled. -/
def DeviceCall.compiled? : DeviceCall S P → Option S
  | .compileStage stage _ (.ok _) => some stage
  | _ => none

/-- The stage that an event tells to be compiled. -/
def LogEvent.compiled? : LogEvent S P → Option S
  | .stageCompiled _ stage => some stage
  | _ => none

/-- Whether the event tells that templates were read. -/
def LogEvent.isLoaded : LogEvent S P → Bool
  | .sourcesLoaded .. => true
  | _ => false

section

variable (family : Family) (course : Course) (calls : List (DeviceCall S P))

/-- A view of events sees in those of calls what it sees in the events of each. -/
theorem toldBy_view {β : Type} {view : List (LogEvent S P) → List β}
    (hnil : view [] = []) (happend : ∀ first second, view (first ++ second) =
      view first ++ view second) {seen : DeviceCall S P → Option β}
    (hseen : ∀ course call, view (Course.events family course call) = (seen call).toList) :
    view (toldBy family course calls) = calls.filterMap seen := by
  induction calls generalizing course with
  | nil => exact hnil
  | cons call rest ih =>
      rw [toldBy, happend, hseen, ih, List.filterMap_cons]
      cases seen call <;> rfl

theorem toldBy_info :
    (toldBy family course calls).filter (·.level = .info) =
      (calls.filterMap DeviceCall.linked?).map (.familyBuilt family) := by
  rw [List.map_filterMap]
  refine toldBy_view family course calls rfl List.filter_append ?_
  intro course call
  cases call with
  | compileStage stage source compiled => cases compiled <;> rfl
  | linkProgram program linked => cases linked <;> rfl
  | _ => rfl

theorem toldBy_compiled :
    (toldBy family course calls).filterMap LogEvent.compiled? =
      calls.filterMap DeviceCall.compiled? := by
  refine toldBy_view family course calls rfl (fun _ _ => List.filterMap_append) ?_
  intro course call
  cases call with
  | compileStage stage source compiled => cases compiled <;> rfl
  | linkProgram program linked => cases linked <;> rfl
  | _ => rfl

theorem toldBy_loaded : (toldBy family course calls).filter LogEvent.isLoaded = [] := by
  have hnone : calls.filterMap (fun _ => (none : Option (LogEvent S P))) = [] := by simp
  rw [← hnone]
  refine toldBy_view family course calls rfl List.filter_append ?_
  intro course call
  cases call with
  | compileStage stage source compiled => cases compiled <;> rfl
  | linkProgram program linked => cases linked <;> rfl
  | _ => rfl

end

/-- The error lines of a build that ends with an error: what the device refused,
with its diagnostic as it was given, and the failure of the family. -/
def ShaderError.lines (family : Family) (error : ShaderError) : List String :=
  let built := "Failed to build " ++ family.name ++ " shader: " ++ error.message
  match error with
  | .file .. => []
  | .compile kind diagnostic =>
      ["Failed to compile " ++ kind.name ++ " shader: " ++ diagnostic, built]
  | .link diagnostic => ["Failed to link program: " ++ diagnostic, built]
  | .device _ | .configuration _ => [built]

theorem ShaderError.lines_eq (family : Family) (error : ShaderError) (showStage : S → String)
    (showProgram : P → String) :
    (error.refusal ++ error.failure family).map (LogEvent.message showStage showProgram) =
      error.lines family := by
  cases error <;> rfl

/-! ## The lines of the log -/

section

variable (showStage : S → String) (showProgram : P → String)

/-- The lines that a call gives rise to, each with its level and its wording. -/
def Course.lines (family : Family) (course : Course) :
    DeviceCall S P → List (LogLevel × String)
  | .compileStage stage _ (.ok _) =>
      [(.trace, "Compiled " ++ course.kind.name ++ " shader " ++ showStage stage)]
  | .compileStage _ _ (.error diagnostic) =>
      [(.error, "Failed to compile " ++ course.kind.name ++ " shader: " ++ diagnostic)]
  | .linkProgram program (.ok _) =>
      [(.debug, "Linked program " ++ showProgram program ++ " from " ++
          toString course.attached ++ " stages"),
        (.info, "Built " ++ family.name ++ " shader program " ++ showProgram program)]
  | .linkProgram _ (.error diagnostic) =>
      [(.error, "Failed to link program: " ++ diagnostic)]
  | _ => []

/-- The lines that calls give rise to, one call after the other. -/
def linesOf (family : Family) (course : Course) :
    List (DeviceCall S P) → List (LogLevel × String)
  | [] => []
  | call :: rest =>
      course.lines showStage showProgram family call ++ linesOf family (course.after call) rest

theorem toldBy_lines (family : Family) (course : Course) (calls : List (DeviceCall S P)) :
    (toldBy family course calls).map
        (fun event => (event.level, event.message showStage showProgram)) =
      linesOf showStage showProgram family course calls := by
  induction calls generalizing course with
  | nil => rfl
  | cons call rest ih =>
      have hcall : (course.events family call).map
          (fun event => (event.level, event.message showStage showProgram)) =
            course.lines showStage showProgram family call := by
        cases call with
        | compileStage stage source compiled => cases compiled <;> rfl
        | linkProgram program linked => cases linked <;> rfl
        | _ => rfl
      rw [toldBy, linesOf, List.map_append, hcall, ih]

/-- The line of templates that were read. -/
def loadedLines (files : FileTree) (paths : Paths) : List (LogLevel × String) :=
  match files.sources paths with
  | .ok templates =>
      [(.debug, "Loaded shader sources " ++ Quoted.quote paths.vertex ++ " / " ++
        Quoted.quote paths.fragment ++ " (geometry: " ++
        (if templates.hasGeometry then "true" else "false") ++ ")")]
  | .error _ => []

theorem loadedEvents_lines (files : FileTree) (paths : Paths) :
    (loadedEvents files paths).map
        (fun event => (event.level, event.message showStage showProgram)) =
      loadedLines files paths := by
  unfold loadedEvents loadedLines
  cases files.sources paths <;> rfl

/-- The line of a family that failed.  There is none if a file could not be read. -/
def ShaderError.failureLines (family : Family) : ShaderError → List (LogLevel × String)
  | .file .. => []
  | error => [(.error, "Failed to build " ++ family.name ++ " shader: " ++ error.message)]

theorem ShaderError.failure_lines (family : Family) (error : ShaderError) :
    (error.failure family).map
        (fun event => (event.level, event.message showStage showProgram)) =
      error.failureLines family := by
  cases error <;> rfl

theorem LogEvent.line_of_isMissing {event : LogEvent S P} (hmissing : event.isMissing = true) :
    ∃ program slot, (event.level, event.message showStage showProgram) =
      missingLine showProgram program slot := by
  cases event with
  | attributeMissing name program => exact ⟨program, .attribute name, rfl⟩
  | uniformMissing name program => exact ⟨program, .uniform name, rfl⟩
  | _ => cases hmissing

end

/-- What the log of a build tells of it. -/
structure LogTells (files : FileTree) (family : Family) (paths : Paths)
    (build : Observation σ S P (List (LinkedProgram P))) : Prop where
  /-- All events but those of missing names follow from the files, the calls and the
  result; a family is told to be built directly after its program was linked. -/
  events : ∃ missing, (∀ event ∈ missing, event.isMissing = true) ∧
    build.log = loadedEvents files paths ++ toldBy family {} build.calls ++
      onError (ShaderError.failure family) build.result ++ missing
  /-- The same line by line, with the level and the wording of each. -/
  lines : ∀ showStage showProgram, ∃ missing,
    (∀ line ∈ missing, ∃ program slot, line = missingLine showProgram program slot) ∧
      build.log.map (fun event => (event.level, event.message showStage showProgram)) =
        loadedLines files paths ++ linesOf showStage showProgram family {} build.calls ++
          (match build.result with
            | .ok _ => []
            | .error error => error.failureLines family) ++ missing
  /-- That templates were read is told just where all files could be read. -/
  loaded : (∃ event ∈ build.log, event.isLoaded = true) ↔
    ∀ path ∈ paths.files, ∃ content, files.read path = .ok content
  /-- Each stage that was compiled is told. -/
  compiled : build.log.filterMap LogEvent.compiled? =
    build.calls.filterMap DeviceCall.compiled?
  /-- For each program that was linked a family is told to be built, also if the program
  was destroyed later. -/
  built : build.log.filter (·.level = .info) =
    (build.calls.filterMap DeviceCall.linked?).map (.familyBuilt family)
  errors : ∀ showStage showProgram,
    (build.log.filter (·.level = .error)).map (LogEvent.message showStage showProgram) =
      match build.result with
      | .ok _ => []
      | .error error => error.lines family
  warnings : ∀ event ∈ build.log, event.level ≠ .warning

/-- An event beside those of calls: it tells neither that a family was built nor that
a stage was compiled. -/
def LogEvent.IsAside (event : LogEvent S P) : Prop :=
  event.level ≠ .info ∧ event.compiled? = none

section

variable {files : FileTree} {paths : Paths} {family : Family}
  {aside : List (LogEvent S P)}

theorem mem_loadedEvents {event : LogEvent S P} (hmem : event ∈ loadedEvents files paths) :
    event.isLoaded = true ∧ event.IsAside := by
  unfold loadedEvents at hmem
  split at hmem
  · rw [List.mem_singleton.mp hmem]
    exact ⟨rfl, nofun, rfl⟩
  · cases hmem

theorem mem_onError_failure {result : Except ShaderError α} {event : LogEvent S P}
    (hmem : event ∈ onError (ShaderError.failure family) result) :
    event.isLoaded = false ∧ event.IsAside := by
  cases result with
  | ok value => cases hmem
  | error error =>
      cases error with
      | file => cases hmem
      | compile | link | device | configuration =>
          rw [List.mem_singleton.mp hmem]
          exact ⟨rfl, nofun, rfl⟩

theorem LogEvent.of_isMissing {event : LogEvent S P} (hmissing : event.isMissing = true) :
    event.isLoaded = false ∧ event.IsAside := by
  cases event with
  | attributeMissing | uniformMissing => exact ⟨rfl, nofun, rfl⟩
  | _ => cases hmissing

theorem filter_info_of_aside (haside : ∀ event ∈ aside, event.IsAside) :
    aside.filter (·.level = .info) = [] := by
  rw [List.filter_eq_nil_iff]
  intro event hmem
  simpa using (haside event hmem).1

theorem filterMap_compiled_of_aside (haside : ∀ event ∈ aside, event.IsAside) :
    aside.filterMap LogEvent.compiled? = [] :=
  List.filterMap_eq_nil_iff.mpr fun event hmem => (haside event hmem).2

theorem loadedEvents_ne_nil :
    (loadedEvents files paths : List (LogEvent S P)) ≠ [] ↔
      ∀ path ∈ paths.files, ∃ content, files.read path = .ok content := by
  rw [← FileTree.firstFault?_eq_none, loadedEvents]
  have hsources := files.sources_of_firstFault? paths
  cases hfirst : files.firstFault? paths.files with
  | none =>
      rw [hfirst] at hsources
      obtain ⟨templates, hload⟩ := hsources
      simp [hload]
  | some first =>
      rw [hfirst] at hsources
      simp [hsources]

/-- The event of templates that were read stands only where it is expected. -/
theorem exists_isLoaded_iff {calls : List (DeviceCall S P)} {result : Except ShaderError α}
    (haside : ∀ event ∈ aside, event.isMissing = true) :
    (∃ event ∈ loadedEvents files paths ++ toldBy family {} calls ++
        onError (ShaderError.failure family) result ++ aside, event.isLoaded = true) ↔
      (loadedEvents files paths : List (LogEvent S P)) ≠ [] := by
  constructor
  · intro hexists hnone
    obtain ⟨event, hmem, hevent⟩ := hexists
    rw [hnone, List.nil_append, List.mem_append, List.mem_append] at hmem
    rcases hmem with (htold | hfailure) | hmissing
    · have hother := List.filter_eq_nil_iff.mp (toldBy_loaded family {} calls) event htold
      exact hother hevent
    · rw [(mem_onError_failure hfailure).1] at hevent
      cases hevent
    · rw [(LogEvent.of_isMissing (haside event hmissing)).1] at hevent
      cases hevent
  · intro hsome
    obtain ⟨event, hmem⟩ := List.exists_mem_of_ne_nil _ hsome
    refine ⟨event, ?_, (mem_loadedEvents hmem).1⟩
    simp [hmem]

end

/-- The log of every build tells what was done in it. -/
theorem observeFamily_logTells (device : Device σ S P) (config : Configuration) (release : Bool)
    (family : Family) (paths : Paths) (files : FileTree) (state : σ) :
    LogTells files family paths
      (observeFamily device config release family paths files state) := by
  obtain ⟨deeds, hrun, _, hcalls, hlog⟩ :=
    (buildFamily_behaves device files config release family paths).observed state
  rw [← observeFamily] at hrun hcalls hlog
  generalize observeFamily device config release family paths files state = build at *
  obtain ⟨missing, hmissing, hevents⟩ := hrun.events {}
  have herrors := hrun.refusal
  rw [← hlog, ← hcalls] at hevents
  rw [← hlog] at herrors
  have hloaded : ∀ event ∈ (loadedEvents files paths : List (LogEvent S P)), event.IsAside :=
    fun event hmem => (mem_loadedEvents hmem).2
  have hfailure : ∀ event ∈ onError (ShaderError.failure family) build.result,
      (event : LogEvent S P).IsAside := fun event hmem => (mem_onError_failure hmem).2
  have hlast : ∀ event ∈ missing, event.IsAside :=
    fun event hmem => (LogEvent.of_isMissing (hmissing event hmem)).2
  refine ⟨⟨missing, hmissing, hevents⟩, ?_, ?_, ?_, ?_, ?_, ?_⟩
  · intro showStage showProgram
    refine ⟨missing.map fun event => (event.level, event.message showStage showProgram), ?_, ?_⟩
    · intro line hline
      obtain ⟨event, hmem, rfl⟩ := List.mem_map.mp hline
      exact event.line_of_isMissing showStage showProgram (hmissing event hmem)
    · rw [hevents]
      simp only [List.map_append, loadedEvents_lines, toldBy_lines]
      cases build.result with
      | ok linked => rfl
      | error error => rw [onError, error.failure_lines]
  · rw [← loadedEvents_ne_nil (S := S) (P := P), hevents]
    exact exists_isLoaded_iff hmissing
  · rw [hevents]
    simp only [List.filterMap_append, toldBy_compiled, filterMap_compiled_of_aside hloaded,
      filterMap_compiled_of_aside hfailure, filterMap_compiled_of_aside hlast,
      List.nil_append, List.append_nil]
  · rw [hevents]
    simp only [List.filter_append, toldBy_info, filter_info_of_aside hloaded,
      filter_info_of_aside hfailure, filter_info_of_aside hlast,
      List.nil_append, List.append_nil]
  · intro showStage showProgram
    rw [herrors]
    cases build.result with
    | ok linked => rfl
    | error error => exact error.lines_eq family showStage showProgram
  · intro event _
    cases event <;> simp [LogEvent.level]

end ShaderFamilies
