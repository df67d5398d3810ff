import ShaderFamilies.Proofs.FirstFailure
import ShaderFamilies.Proofs.LifeCycle

/-!
# Compiling all stages or none

Stages are created and compiled in order.  Either all of them are compiled, and
all are kept; or one of them is the first that fails, and then it and the ones
before it are destroyed, in the order of their creation, and the ones behind it
are not begun.
-/

namespace ShaderFamilies

variable {σ S P : Type}

/-! ## The calls -/

/-- The calls that compile stages, each with the handle that it was given. -/
def compilingCalls : List (Stage × String) → List S → List (DeviceCall S P)
  | (kind, text) :: stages, handle :: handles =>
      .createStage kind (.ok handle) :: .compileStage handle text (.ok ()) ::
        compilingCalls stages handles
  | _, _ => []

/-- How a stage fails: before it is there, or with a handle to give back. -/
inductive StageFailure (S : Type)
  | creation (reason : String)
  | compilation (stage : S) (diagnostic : String)

namespace StageFailure

def stage? : StageFailure S → Option S
  | .creation _ => none
  | .compilation stage _ => some stage

def error (kind : Stage) : StageFailure S → ShaderError
  | .creation reason =>
      .device ("failed to create " ++ kind.name ++ " shader: " ++ reason)
  | .compilation _ diagnostic => .compile kind diagnostic

/-- The calls for the stage that fails. -/
def calls (kind : Stage) (text : String) : StageFailure S → List (DeviceCall S P)
  | .creation reason => [.createStage kind (.error reason)]
  | .compilation stage diagnostic =>
      [.createStage kind (.ok stage), .compileStage stage text (.error diagnostic),
        .destroyStage stage]

end StageFailure

/-- The first of some stages that fails, between those before it, which were
given the handles, and those behind it. -/
structure FailedStage (S : Type) (stages : List (Stage × String)) where
  earlier : List (Stage × String)
  handles : List S
  kind : Stage
  text : String
  later : List (Stage × String)
  failure : StageFailure S
  split : stages = earlier ++ (kind, text) :: later
  length : handles.length = earlier.length

namespace FailedStage

variable {stages : List (Stage × String)}

def error (failed : FailedStage S stages) : ShaderError :=
  failed.failure.error failed.kind

/-- The stages that were created, in order. -/
def created (failed : FailedStage S stages) : List S :=
  failed.handles ++ failed.failure.stage?.toList

/-- The calls when the stages that are `done` before all others go as well. -/
def callsAfter (done : List S) (failed : FailedStage S stages) : List (DeviceCall S P) :=
  compilingCalls failed.earlier failed.handles ++
    (failed.failure.calls failed.kind failed.text ++
      (done ++ failed.handles).map .destroyStage)

def calls (failed : FailedStage S stages) : List (DeviceCall S P) :=
  failed.callsAfter []

/-- The same failure behind one more stage that is compiled. -/
def behind (failed : FailedStage S stages) (kind : Stage) (text : String) (handle : S) :
    FailedStage S ((kind, text) :: stages) where
  earlier := (kind, text) :: failed.earlier
  handles := handle :: failed.handles
  kind := failed.kind
  text := failed.text
  later := failed.later
  failure := failed.failure
  split := congrArg (List.cons (kind, text)) failed.split
  length := by rw [List.length_cons, failed.length, List.length_cons]

end FailedStage

/-! ## Compiling makes them -/

theorem Compiles.calls_of_ok {done : List S} {remaining : List (Stage × String)}
    {deeds : List (Deed S P)} {result : Except ShaderError (List S)}
    (hrun : Compiles done remaining deeds result) {stages : List S}
    (hresult : result = .ok stages) :
    ∃ handles, stages = done ++ handles ∧ handles.length = remaining.length ∧
      callsOf deeds = compilingCalls remaining handles := by
  induction hrun with
  | finished done =>
      cases hresult
      exact ⟨[], by simp, rfl, rfl⟩
  | notCreated done kind text rest reason => cases hresult
  | notCompiled done kind text rest stage diagnostic => cases hresult
  | compiled kind text stage hrest ih =>
      obtain ⟨handles, hstages, hlength, hcalls⟩ := ih hresult
      refine ⟨stage :: handles, ?_, ?_, ?_⟩
      · rw [hstages, List.append_assoc, List.singleton_append]
      · rw [List.length_cons, hlength, List.length_cons]
      · simp only [callsOf_call, callsOf_note, hcalls]
        rfl

theorem Compiles.calls_of_error {done : List S} {remaining : List (Stage × String)}
    {deeds : List (Deed S P)} {result : Except ShaderError (List S)}
    (hrun : Compiles done remaining deeds result) {error : ShaderError}
    (hresult : result = .error error) :
    ∃ failed : FailedStage S remaining,
      error = failed.error ∧ callsOf deeds = failed.callsAfter done := by
  induction hrun with
  | finished done => cases hresult
  | notCreated done kind text rest reason =>
      cases hresult
      refine ⟨⟨[], [], kind, text, rest, .creation reason, rfl, rfl⟩, rfl, ?_⟩
      rw [callsOf_call, callsOf_destroyStageDeeds, FailedStage.callsAfter, List.append_nil]
      rfl
  | notCompiled done kind text rest stage diagnostic =>
      cases hresult
      refine ⟨⟨[], [], kind, text, rest, .compilation stage diagnostic, rfl, rfl⟩, rfl, ?_⟩
      simp only [callsOf_call, callsOf_note, callsOf_destroyStageDeeds]
      rw [FailedStage.callsAfter, List.append_nil]
      rfl
  | compiled kind text stage hrest ih =>
      obtain ⟨failed, herror, hcalls⟩ := ih hresult
      refine ⟨failed.behind kind text stage, herror, ?_⟩
      simp only [callsOf_call, callsOf_note, hcalls]
      simp [FailedStage.callsAfter, FailedStage.behind, compilingCalls]

/-! ## What the calls tell -/

section

variable {stages : List (Stage × String)} {handles : List S}

theorem compilingCalls_quiet {call : DeviceCall S P}
    (hmem : call ∈ compilingCalls stages handles) :
    ¬ call.Fails ∧ call.isCleanUp = false := by
  induction stages generalizing handles with
  | nil => cases hmem
  | cons stage stages ih =>
      cases handles with
      | nil => cases hmem
      | cons handle handles =>
          rcases List.mem_cons.mp hmem with heq | hmem
          · subst heq
            exact ⟨id, rfl⟩
          · rcases List.mem_cons.mp hmem with heq | hmem
            · subst heq
              exact ⟨id, rfl⟩
            · exact ih hmem

theorem stagesMade_compilingCalls (hlength : handles.length = stages.length) :
    Ledger.stagesMade (compilingCalls stages handles : List (DeviceCall S P)) = handles := by
  induction stages generalizing handles with
  | nil =>
      rw [List.length_nil, List.length_eq_zero_iff] at hlength
      subst hlength
      rfl
  | cons stage stages ih =>
      cases handles with
      | nil => cases hlength
      | cons handle handles =>
          have hrest := ih (Nat.succ.inj hlength)
          change handle :: Ledger.stagesMade (compilingCalls stages handles) = _
          rw [hrest]

theorem StageFailure.exists_fails (failure : StageFailure S) (kind : Stage) (text : String) :
    ∃ call ∈ (failure.calls kind text : List (DeviceCall S P)), call.Fails := by
  cases failure with
  | creation reason => exact ⟨_, List.mem_cons_self, trivial⟩
  | compilation stage diagnostic =>
      exact ⟨_, List.mem_cons_of_mem _ List.mem_cons_self, trivial⟩

theorem FailedStage.exists_fails (failed : FailedStage S stages) :
    ∃ call ∈ (failed.calls : List (DeviceCall S P)), call.Fails := by
  obtain ⟨call, hmem, hfails⟩ := failed.failure.exists_fails failed.kind failed.text
  exact ⟨call, List.mem_append_right _ (List.mem_append_left _ hmem), hfails⟩

theorem FailedStage.stagesMade_calls (failed : FailedStage S stages) :
    Ledger.stagesMade (failed.calls : List (DeviceCall S P)) = failed.created := by
  have hfailure : Ledger.stagesMade
      (failed.failure.calls failed.kind failed.text : List (DeviceCall S P)) =
        failed.failure.stage?.toList := by
    cases failed.failure <;> rfl
  have hdestroyed : Ledger.stagesMade
      (failed.handles.map .destroyStage : List (DeviceCall S P)) = [] := by
    simp [Ledger.stagesMade]
  unfold FailedStage.calls FailedStage.callsAfter
  rw [Ledger.stagesMade_append, Ledger.stagesMade_append, List.nil_append, hfailure,
    hdestroyed, List.append_nil, stagesMade_compilingCalls failed.length]
  rfl

end

/-! ## All or nothing -/

/-- Where no call fails, all stages are compiled and their handles, no two of
them the same, are the result; nothing is destroyed.  Otherwise some stage is
the first to fail: the calls are those of the stages before it and its own, and
then each stage that was created is destroyed once, so that none is left. -/
theorem compileStages_all_or_nothing (device : Device σ S P) (sources : Sources)
    (files : FileTree) (state : σ) (before : Ledger S P)
    (hfresh : before.Fresh
      (observe (compileStages device.recorded sources) files state).calls) :
    let compiling := observe (compileStages device.recorded sources) files state
    let after := before.afterAll compiling.calls
    ((∃ handles, compiling.result = .ok handles) ↔
      ∀ call ∈ compiling.calls, ¬ call.Fails) ∧
    (∀ handles, compiling.result = .ok handles →
      handles.length = sources.stages.length ∧ handles.Nodup ∧
      compiling.calls = compilingCalls sources.stages handles ∧
      (∀ call ∈ compiling.calls, call.isCleanUp = false) ∧
      before.stages.Grows after.stages {stage | stage ∈ handles}) ∧
    (∀ error, compiling.result = .error error →
      ∃ failed : FailedStage S sources.stages,
        error = failed.error ∧ compiling.calls = failed.calls ∧
        failed.created.Nodup ∧ after.stages.live = before.stages.live) := by
  intro compiling after
  obtain ⟨deeds, hrun, _, hcalls, _⟩ :=
    (compileStages_behaves device files sources).observed state
  change Compiles [] sources.stages deeds compiling.result at hrun
  change compiling.calls = callsOf deeds at hcalls
  change before.Fresh compiling.calls at hfresh
  have hdistinct := hfresh.distinct.stages
  rw [hcalls] at hfresh
  have hself : before.Extends before ([] ++ []) [] := Ledger.extends_self before
  have hreached := hrun.balance hself hfresh
  rw [← hcalls] at hreached
  have hextended := hreached.extended.stages
  refine ⟨⟨?_, ?_⟩, ?_, ?_⟩
  · intro hok call hmem
    obtain ⟨handles, hresult⟩ := hok
    obtain ⟨_, _, _, hmade⟩ := hrun.calls_of_ok hresult
    rw [hcalls, hmade] at hmem
    exact (compilingCalls_quiet hmem).1
  · intro hnone
    cases hresult : compiling.result with
    | ok handles => exact ⟨handles, rfl⟩
    | error error =>
        obtain ⟨failed, _, hmade⟩ := hrun.calls_of_error hresult
        obtain ⟨call, hmem, hfails⟩ := failed.exists_fails (P := P)
        rw [hcalls, hmade] at hnone
        exact absurd hfails (hnone call hmem)
  · intro handles hresult
    obtain ⟨made, hhandles, hlength, hmade⟩ := hrun.calls_of_ok hresult
    rw [List.nil_append] at hhandles
    subst hhandles
    rw [hresult] at hextended
    refine ⟨hlength, hextended.nodup, hcalls.trans hmade, ?_, hextended.grows⟩
    intro call hmem
    rw [hcalls, hmade] at hmem
    exact (compilingCalls_quiet hmem).2
  · intro error hresult
    obtain ⟨failed, herror, hmade⟩ := hrun.calls_of_error hresult
    have hcallsFailed : compiling.calls = failed.calls := hcalls.trans hmade
    rw [hresult] at hextended
    rw [hcallsFailed, failed.stagesMade_calls] at hdistinct
    exact ⟨failed, herror, hcallsFailed, hdistinct, hextended.live_eq_iff.mpr rfl⟩

/-! Three stages, on a device that compiles no geometry stage. -/

def geometryFails : ScriptedObjects :=
  { script := { compileRules := [{ kind := some .geometry, log := "no main" }] } }

@[irreducible] def threeStages : Observation ScriptedObjects Nat Nat (List Nat) :=
  observe
    (compileStages scriptedDevice.recorded
      { vertex := "a", fragment := "b", geometry := "c" })
    {} geometryFails

theorem compileStages_all_or_nothing_geometry :
    heldBefore.Fresh threeStages.calls ∧
      threeStages.result.toBool = false ∧
      Ledger.stagesMade threeStages.calls = [1, 2, 3] ∧
      (heldBefore.afterAll threeStages.calls).stages.live = heldBefore.stages.live := by
  have hfresh : heldBefore.Fresh threeStages.calls :=
    Ledger.holding_fresh (by decide +kernel) (by decide +kernel)
  have hfails : threeStages.result.toBool = false := by decide +kernel
  have hmade : Ledger.stagesMade threeStages.calls = [1, 2, 3] := by decide +kernel
  have hcompiling := compileStages_all_or_nothing scriptedDevice
    { vertex := "a", fragment := "b", geometry := "c" } {} geometryFails heldBefore
  rw [← threeStages] at hcompiling
  obtain ⟨_, _, hfailed⟩ := hcompiling hfresh
  refine ⟨hfresh, hfails, hmade, ?_⟩
  rcases hresult : threeStages.result with error | handles
  · obtain ⟨_, _, _, _, hlive⟩ := hfailed error hresult
    exact hlive
  · rw [hresult] at hfails
    cases hfails

end ShaderFamilies
