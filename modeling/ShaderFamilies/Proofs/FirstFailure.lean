import Mathlib.Logic.Function.Basic
import ShaderFamilies.Proofs.BuildConduct

/-!
# The first failure of a build

A build takes a list of steps that can fail: it reads its files, and then, for
each variant, it creates and compiles the stages and creates and links the
program.  The calls on the device show which steps were taken and how they
ended.  A build takes its steps in order up to the first one that fails; this
one gives the error, and all that comes after it is to clean up.
-/

namespace ShaderFamilies

variable {σ S P α : Type}

/-! ## Steps -/

/-- A step on the device that can fail. -/
inductive BuildStep
  | createStage (kind : Stage)
  | compileStage (kind : Stage) (text : String)
  | createProgram
  | linkProgram
  deriving DecidableEq

/-- The error of a build that fails at the step with the given diagnostic. -/
def BuildStep.error (diagnostic : String) : BuildStep → ShaderError
  | .createStage kind =>
      .device ("failed to create " ++ kind.name ++ " shader: " ++ diagnostic)
  | .compileStage kind _ => .compile kind diagnostic
  | .createProgram => .device diagnostic
  | .linkProgram => .link diagnostic

def stageSteps (stage : Stage × String) : List BuildStep :=
  [.createStage stage.1, .compileStage stage.1 stage.2]

def linkingSteps : List BuildStep :=
  [.createProgram, .linkProgram]

/-- The steps to the program of stage texts. -/
def Sources.steps (sources : Sources) : List BuildStep :=
  sources.stages.flatMap stageSteps ++ linkingSteps

/-- The steps to the programs of a family. -/
def Family.steps (family : Family) (config : Configuration) (templates : Sources) :
    List BuildStep :=
  (family.variants config templates).flatMap Sources.steps

/-! ## Steps that were taken -/

/-- A step that was taken, with its diagnostic if it failed. -/
structure Attempt where
  step : BuildStep
  failure : Option String
  deriving DecidableEq

def Attempt.passed (step : BuildStep) : Attempt :=
  ⟨step, none⟩

def failureOf : Except String α → Option String
  | .ok _ => none
  | .error diagnostic => some diagnostic

/-- The step that a call takes, given the kinds of the stages. -/
def attemptOf (kinds : S → Stage) : DeviceCall S P → Option Attempt
  | .createStage kind result => some ⟨.createStage kind, failureOf result⟩
  | .compileStage stage text result =>
      some ⟨.compileStage (kinds stage) text, failureOf result⟩
  | .createProgram result => some ⟨.createProgram, failureOf result⟩
  | .linkProgram _ result => some ⟨.linkProgram, failureOf result⟩
  | _ => none

/-- Whether a call destroys an object. -/
def DeviceCall.isCleanUp : DeviceCall S P → Bool
  | .destroyStage _ => true
  | .destroyProgram _ => true
  | _ => false

/-- Whether a call can fail. -/
def DeviceCall.canFail : DeviceCall S P → Bool
  | .createStage .. => true
  | .compileStage .. => true
  | .createProgram .. => true
  | .linkProgram .. => true
  | _ => false

theorem canFail_of_isCleanUp {call : DeviceCall S P} (hcleanUp : call.isCleanUp = true) :
    call.canFail = false := by
  cases call <;> trivial

theorem canFail_of_isLookup {call : DeviceCall S P} (hlookup : call.isLookup = true) :
    call.canFail = false := by
  cases call <;> trivial

variable [DecidableEq S]

/-- The kinds of the stages after a call: a stage is of the kind with which it
was created last. -/
def kindsAfter (kinds : S → Stage) : DeviceCall S P → S → Stage
  | .createStage kind (.ok stage) => Function.update kinds stage kind
  | _ => kinds

def kindsAfterAll (kinds : S → Stage) (calls : List (DeviceCall S P)) : S → Stage :=
  calls.foldl kindsAfter kinds

/-- The steps that calls take, given the kinds that the stages had before. -/
def attempts (kinds : S → Stage) : List (DeviceCall S P) → List Attempt
  | [] => []
  | call :: rest =>
      (attemptOf kinds call).toList ++ attempts (kindsAfter kinds call) rest

variable {kinds : S → Stage}

@[simp] theorem attempts_nil : attempts kinds ([] : List (DeviceCall S P)) = [] :=
  rfl

@[simp] theorem attempts_cons (call : DeviceCall S P) (rest : List (DeviceCall S P)) :
    attempts kinds (call :: rest) =
      (attemptOf kinds call).toList ++ attempts (kindsAfter kinds call) rest :=
  rfl

theorem attempts_append (first second : List (DeviceCall S P)) :
    attempts kinds (first ++ second) =
      attempts kinds first ++ attempts (kindsAfterAll kinds first) second := by
  induction first generalizing kinds with
  | nil => rfl
  | cons call rest ih =>
      rw [List.cons_append, attempts_cons, attempts_cons, ih, List.append_assoc]
      rfl

theorem kindsAfterAll_append (first second : List (DeviceCall S P)) :
    kindsAfterAll kinds (first ++ second) =
      kindsAfterAll (kindsAfterAll kinds first) second :=
  List.foldl_append

theorem attempts_eq_nil {calls : List (DeviceCall S P)}
    (hcalls : ∀ call ∈ calls, call.canFail = false) : attempts kinds calls = [] := by
  induction calls generalizing kinds with
  | nil => rfl
  | cons call rest ih =>
      have hcall : call.canFail = false := hcalls call List.mem_cons_self
      have hrest : attempts (kindsAfter kinds call) rest = [] := by
        apply ih
        intro other hmem
        exact hcalls other (List.mem_cons_of_mem call hmem)
      have hattempt : attemptOf kinds call = none := by
        cases call <;> first | rfl | cases hcall
      rw [attempts_cons, hattempt, hrest]
      rfl

/-! ## Taking all steps, and stopping at one -/

/-- The calls take the steps in order, and all of them end well. -/
def TakesAll (kinds : S → Stage) (steps : List BuildStep) (calls : List (DeviceCall S P)) :
    Prop :=
  attempts kinds calls = steps.map .passed

/-- The calls take the steps in order, until one fails with a diagnostic; after
that they only clean up. -/
inductive StopsAt (kinds : S → Stage) :
    List BuildStep → List (DeviceCall S P) → ShaderError → Prop
  | fails {taken left : List BuildStep} {failing : BuildStep}
      {made cleanUp : List (DeviceCall S P)} {call : DeviceCall S P} {diagnostic : String}
      (htaken : TakesAll kinds taken made)
      (hfails : attemptOf (kindsAfterAll kinds made) call =
        some ⟨failing, some diagnostic⟩)
      (hcleanUp : ∀ later ∈ cleanUp, later.isCleanUp = true) :
      StopsAt kinds (taken ++ failing :: left) (made ++ call :: cleanUp)
        (failing.error diagnostic)

theorem TakesAll.append {first second : List BuildStep}
    {calls later : List (DeviceCall S P)} (hfirst : TakesAll kinds first calls)
    (hsecond : TakesAll (kindsAfterAll kinds calls) second later) :
    TakesAll kinds (first ++ second) (calls ++ later) := by
  unfold TakesAll at hfirst hsecond ⊢
  rw [attempts_append, hfirst, hsecond, List.map_append]

theorem TakesAll.append_quiet {steps : List BuildStep} {calls later : List (DeviceCall S P)}
    (hsteps : TakesAll kinds steps calls)
    (hlater : ∀ call ∈ later, call.canFail = false) :
    TakesAll kinds steps (calls ++ later) := by
  unfold TakesAll at hsteps ⊢
  rw [attempts_append, hsteps, attempts_eq_nil hlater, List.append_nil]

theorem stopsAt_first (failing : BuildStep) {left : List BuildStep}
    {call : DeviceCall S P} {cleanUp : List (DeviceCall S P)} {diagnostic : String}
    (hfails : attemptOf kinds call = some ⟨failing, some diagnostic⟩)
    (hcleanUp : ∀ later ∈ cleanUp, later.isCleanUp = true) :
    StopsAt kinds (failing :: left) (call :: cleanUp) (failing.error diagnostic) := by
  have htaken : TakesAll kinds [] ([] : List (DeviceCall S P)) := rfl
  exact .fails htaken hfails hcleanUp

theorem TakesAll.append_stopsAt {first second : List BuildStep}
    {calls later : List (DeviceCall S P)} {error : ShaderError}
    (hfirst : TakesAll kinds first calls)
    (hsecond : StopsAt (kindsAfterAll kinds calls) second later error) :
    StopsAt kinds (first ++ second) (calls ++ later) error := by
  cases hsecond with
  | fails htaken hfails hcleanUp =>
      rw [← List.append_assoc, ← List.append_assoc]
      rw [← kindsAfterAll_append] at hfails
      exact .fails (hfirst.append htaken) hfails hcleanUp

theorem StopsAt.append_cleanUp {steps : List BuildStep}
    {calls cleanUp : List (DeviceCall S P)} {error : ShaderError}
    (hstops : StopsAt kinds steps calls error) (left : List BuildStep)
    (hcleanUp : ∀ call ∈ cleanUp, call.isCleanUp = true) :
    StopsAt kinds (steps ++ left) (calls ++ cleanUp) error := by
  cases hstops with
  | fails htaken hfails hcleanedUp =>
      rw [List.append_assoc, List.append_assoc, List.cons_append, List.cons_append]
      refine .fails htaken hfails ?_
      intro call hmem
      rcases List.mem_append.mp hmem with hmem | hmem
      · exact hcleanedUp call hmem
      · exact hcleanUp call hmem

/-- The steps that were taken tell the error. -/
theorem StopsAt.attempts_eq {steps : List BuildStep} {calls : List (DeviceCall S P)}
    {error : ShaderError} (hstops : StopsAt kinds steps calls error) :
    ∃ taken failing left diagnostic,
      steps = taken ++ failing :: left ∧
      attempts kinds calls = taken.map .passed ++ [⟨failing, some diagnostic⟩] ∧
      error = failing.error diagnostic := by
  cases hstops with
  | @fails taken left failing made cleanUp call diagnostic htaken hfails hcleanUp =>
      refine ⟨taken, failing, left, diagnostic, rfl, ?_, rfl⟩
      have hquiet : ∀ later ∈ cleanUp, later.canFail = false := by
        intro later hmem
        exact canFail_of_isCleanUp (hcleanUp later hmem)
      rw [attempts_append, attempts_cons, hfails, attempts_eq_nil hquiet, htaken]
      rfl

theorem StopsAt.not_takesAll {steps others : List BuildStep}
    {calls : List (DeviceCall S P)} {error : ShaderError}
    (hstops : StopsAt kinds steps calls error) : ¬ TakesAll kinds others calls := by
  intro htakes
  obtain ⟨taken, failing, left, diagnostic, _, hattempts, _⟩ := hstops.attempts_eq
  have hfailed : (⟨failing, some diagnostic⟩ : Attempt) ∈ attempts kinds calls := by
    rw [hattempts]
    simp
  rw [htakes] at hfailed
  obtain ⟨step, _, hstep⟩ := List.mem_map.mp hfailed
  cases hstep

theorem StopsAt.error_unique {steps others : List BuildStep}
    {calls : List (DeviceCall S P)} {error other : ShaderError}
    (hstops : StopsAt kinds steps calls error)
    (hother : StopsAt kinds others calls other) : error = other := by
  obtain ⟨_, failing, _, diagnostic, _, hattempts, herror⟩ := hstops.attempts_eq
  obtain ⟨_, otherFailing, _, otherDiagnostic, _, hotherAttempts, hotherError⟩ :=
    hother.attempts_eq
  rw [hattempts] at hotherAttempts
  have hlast := List.append_inj_right' hotherAttempts rfl
  cases hlast
  rw [herror, hotherError]

/-! ## Builds take their steps -/

/-- The calls take the steps in the way that the result tells. -/
def Conducts (kinds : S → Stage) (steps : List BuildStep) (calls : List (DeviceCall S P)) :
    Except ShaderError α → Prop
  | .ok _ => TakesAll kinds steps calls
  | .error error => StopsAt kinds steps calls error

theorem Conducts.append_cleanUp {steps : List BuildStep}
    {calls cleanUp : List (DeviceCall S P)} {result : Except ShaderError α}
    (hcalls : Conducts kinds steps calls result)
    (hcleanUp : ∀ call ∈ cleanUp, call.isCleanUp = true) :
    Conducts kinds steps (calls ++ cleanUp) result := by
  cases result with
  | ok value =>
      apply TakesAll.append_quiet hcalls
      intro call hmem
      exact canFail_of_isCleanUp (hcleanUp call hmem)
  | error error =>
      have hstops := StopsAt.append_cleanUp hcalls [] hcleanUp
      rw [List.append_nil] at hstops
      exact hstops

theorem TakesAll.append_conducts {first second : List BuildStep}
    {calls later : List (DeviceCall S P)} {result : Except ShaderError α}
    (hfirst : TakesAll kinds first calls)
    (hsecond : Conducts (kindsAfterAll kinds calls) second later result) :
    Conducts kinds (first ++ second) (calls ++ later) result := by
  cases result with
  | ok value => exact hfirst.append hsecond
  | error error => exact hfirst.append_stopsAt hsecond

theorem Compiles.conducts {done : List S} {remaining : List (Stage × String)}
    {deeds : List (Deed S P)} {result : Except ShaderError (List S)}
    (hrun : Compiles done remaining deeds result) (kinds : S → Stage) :
    Conducts kinds (remaining.flatMap stageSteps) (callsOf deeds) result := by
  induction hrun generalizing kinds with
  | finished done => rfl
  | notCreated done kind text rest reason =>
      rw [callsOf_call, callsOf_destroyStageDeeds]
      apply stopsAt_first (.createStage kind) rfl
      simp [DeviceCall.isCleanUp]
  | notCompiled done kind text rest stage diagnostic =>
      simp only [callsOf_call, callsOf_note, callsOf_destroyStageDeeds]
      have hcreated : TakesAll kinds [.createStage kind]
          ([.createStage kind (.ok stage)] : List (DeviceCall S P)) := rfl
      refine hcreated.append_stopsAt (stopsAt_first (.compileStage kind text) ?_ ?_)
      · simp [attemptOf, kindsAfterAll, kindsAfter, failureOf]
      · simp [DeviceCall.isCleanUp]
  | compiled kind text stage hrest ih =>
      simp only [callsOf_call, callsOf_note]
      have hcompiled : TakesAll kinds (stageSteps (kind, text))
          ([.createStage kind (.ok stage), .compileStage stage text (.ok ())] :
            List (DeviceCall S P)) := by
        simp [TakesAll, attemptOf, kindsAfter, failureOf, stageSteps, Attempt.passed]
      exact hcompiled.append_conducts (ih _)

theorem Links.conducts {stages : List S} {deeds : List (Deed S P)}
    {result : Except ShaderError P} (hrun : Links stages deeds result)
    (kinds : S → Stage) :
    Conducts kinds linkingSteps (callsOf deeds) result := by
  have hattaches (program : P) :
      ∀ call ∈ stages.map (.attachStage program), DeviceCall.canFail call = false := by
    simp [DeviceCall.canFail]
  have hcreates (program : P) : TakesAll kinds [.createProgram]
      (.createProgram (.ok program) :: stages.map (.attachStage program)) := by
    simp [TakesAll, attemptOf, failureOf, Attempt.passed, attempts_eq_nil (hattaches program)]
  cases hrun with
  | notCreated reason => exact stopsAt_first .createProgram rfl (by simp)
  | notLinked program diagnostic =>
      simp only [callsOf_call, callsOf_append, callsOf_attachDeeds, callsOf_note,
        callsOf_nil]
      refine (hcreates program).append_stopsAt (stopsAt_first .linkProgram rfl ?_)
      simp [DeviceCall.isCleanUp]
  | linked program =>
      simp only [callsOf_call, callsOf_append, callsOf_attachDeeds, callsOf_note,
        callsOf_nil]
      exact (hcreates program).append rfl

theorem BuildsProgram.conducts {release : Bool} {sources : Sources}
    {deeds : List (Deed S P)} {result : Except ShaderError P}
    (hrun : BuildsProgram release sources deeds result) (kinds : S → Stage) :
    Conducts kinds sources.steps (callsOf deeds) result := by
  cases hrun with
  | @notCompiled deeds error hcompile =>
      have hstops : StopsAt kinds _ (callsOf deeds) _ := hcompile.conducts kinds
      rw [← List.append_nil (callsOf deeds)]
      exact hstops.append_cleanUp linkingSteps (by simp)
  | @compiled deeds later stages result hcompile hlink =>
      rw [callsOf_append, callsOf_append, ← List.append_assoc]
      have hcompiled : TakesAll kinds _ (callsOf deeds) := hcompile.conducts kinds
      apply Conducts.append_cleanUp (hcompiled.append_conducts (hlink.conducts _))
      cases release <;> simp [DeviceCall.isCleanUp]

theorem BuildsVariants.conducts {release : Bool} {family : Family} {done : List P}
    {variants : List Sources} {deeds : List (Deed S P)}
    {result : Except ShaderError (List P)}
    (hrun : BuildsVariants release family done variants deeds result)
    (kinds : S → Stage) :
    Conducts kinds (variants.flatMap Sources.steps) (callsOf deeds) result := by
  induction hrun generalizing kinds with
  | finished done => rfl
  | failed done rest hbuild =>
      rw [callsOf_append, callsOf_note, callsOf_destroyProgramDeeds]
      apply StopsAt.append_cleanUp (hbuild.conducts kinds) (rest.flatMap Sources.steps)
      simp [DeviceCall.isCleanUp]
  | @built done sources rest deeds later program result hbuild hrest ih =>
      rw [callsOf_append, callsOf_note]
      have hbuilt : TakesAll kinds sources.steps (callsOf deeds) := hbuild.conducts kinds
      exact hbuilt.append_conducts (ih _)

theorem BuildsFamily.conducts {files : FileTree} {paths : Paths} {release : Bool}
    {family : Family} {plans : List VariantPlan} {deeds : List (Deed S P)}
    {result : Except ShaderError (List (LinkedProgram P))}
    (hrun : BuildsFamily files paths release family plans deeds result)
    {templates : Sources} (hload : files.sources paths = .ok templates)
    (kinds : S → Stage) :
    Conducts kinds ((plans.map (·.apply templates)).flatMap Sources.steps)
      (callsOf deeds) result := by
  cases hrun with
  | unread hunread =>
      rw [hload] at hunread
      cases hunread
  | failed hloaded hbuild =>
      rw [hload] at hloaded
      cases hloaded
      exact hbuild.conducts kinds
  | built hloaded hbuild hlook hlinked =>
      rw [hload] at hloaded
      cases hloaded
      rw [callsOf_note, callsOf_append]
      have hbuilt : TakesAll kinds _ _ := hbuild.conducts kinds
      apply hbuilt.append_quiet
      intro call hmem
      exact canFail_of_isLookup (hlook.isLookup call hmem)

/-! ## Reading -/

/-- The files that a build reads, in order. -/
def Paths.files (paths : Paths) : List String :=
  paths.vertex :: paths.fragment :: paths.geometryPath.toList

/-- The first of some files that cannot be read, and why. -/
def FileTree.firstFault? (files : FileTree) : List String → Option (String × FileFault)
  | [] => none
  | path :: rest =>
      match files.read path with
      | .ok _ => files.firstFault? rest
      | .error fault => some (path, fault)

theorem FileTree.sources_of_firstFault? (files : FileTree) (paths : Paths) :
    match files.firstFault? paths.files with
    | some (path, fault) => files.sources paths = .error (.file path fault)
    | none => ∃ templates, files.sources paths = .ok templates := by
  unfold FileTree.sources FileTree.geometryText FileTree.stageText Paths.files
    FileTree.firstFault? FileTree.firstFault?
  cases hvertex : files.read paths.vertex with
  | error fault => rfl
  | ok vertex =>
      cases hfragment : files.read paths.fragment with
      | error fault => rfl
      | ok fragment =>
          cases hpath : paths.geometryPath with
          | none => exact ⟨_, rfl⟩
          | some path =>
              rw [Option.toList_some]
              unfold FileTree.firstFault? FileTree.firstFault?
              cases hgeometry : files.read path with
              | error fault =>
                  simp only [hgeometry]
                  rfl
              | ok geometry =>
                  simp only [hgeometry]
                  exact ⟨_, rfl⟩

/-- A build ends well exactly if all its steps do.  Otherwise its first failing
step gives the error, with the diagnostic as it was given, and after that the
build only cleans up; where a file cannot be read, there is no call at all.
This holds whatever the kinds of the stages that were there before. -/
theorem observeFamily_first_failure (device : Device σ S P) (config : Configuration)
    (release : Bool) (family : Family) (paths : Paths) (files : FileTree) (state : σ)
    (kinds : S → Stage) :
    let build := observeFamily device config release family paths files state
    match files.firstFault? paths.files with
    | some (path, fault) => build.result = .error (.file path fault) ∧ build.calls = []
    | none => ∃ templates, files.sources paths = .ok templates ∧
        ((∃ linked, build.result = .ok linked) ↔
          TakesAll kinds (family.steps config templates) build.calls) ∧
        ∀ error, build.result = .error error ↔
          StopsAt kinds (family.steps config templates) build.calls error := by
  intro build
  obtain ⟨deeds, hrun, hcalls⟩ :=
    observeFamily_builds device files config release family paths state
  change BuildsFamily files paths release family _ deeds build.result at hrun
  change build.calls = callsOf deeds at hcalls
  have hsources := files.sources_of_firstFault? paths
  cases hfault : files.firstFault? paths.files with
  | some fault =>
      obtain ⟨path, fault⟩ := fault
      rw [hfault] at hsources
      obtain ⟨hresult, hnothing⟩ := hrun.unread_of hsources
      exact ⟨hresult, hcalls.trans hnothing⟩
  | none =>
      rw [hfault] at hsources
      obtain ⟨templates, hload⟩ := hsources
      have hconducts := hrun.conducts hload kinds
      rw [← hcalls] at hconducts
      refine ⟨templates, hload, ?_, ?_⟩
      · constructor
        · intro hboth
          rcases hboth with ⟨linked, hresult⟩
          rw [hresult] at hconducts
          exact hconducts
        · intro htakes
          cases hresult : build.result with
          | ok linked => exact ⟨linked, rfl⟩
          | error error =>
              rw [hresult] at hconducts
              exact absurd htakes (StopsAt.not_takesAll hconducts)
      · intro error
        constructor
        · intro hresult
          rw [hresult] at hconducts
          exact hconducts
        · intro hstops
          cases hresult : build.result with
          | ok linked =>
              rw [hresult] at hconducts
              exact absurd hconducts hstops.not_takesAll
          | error other =>
              rw [hresult] at hconducts
              rw [StopsAt.error_unique hconducts hstops]

end ShaderFamilies
