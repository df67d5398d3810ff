import Mathlib.Data.List.Range
import ShaderFamilies.BuildSession
import ShaderFamilies.Proofs.CarriedWork
import ShaderFamilies.Proofs.ObjectLedger

/-!
# Objects numbered in the order of their creation

The stages and the programs of a scripted device are numbered from one in the
order of their creation, whatever the session did so far.  The handles that calls
give out are the numbers that come next.
-/

namespace ShaderFamilies

variable {σ τ S T P Q α κ : Type}

/-! ## Renaming and keeping -/

namespace Translation

/-- The translation of states and objects only. -/
def relabeling (holds : σ → Prop) (states : σ → τ) (stage : S → T) (program : P → Q) :
    Translation σ τ S T P Q where
  holds := holds
  states := states
  stage := stage
  program := program
  location := id
  isFound_location := fun _ => rfl

/-- The translation that changes nothing: what carries over by it keeps the
invariant. -/
def keeping (holds : σ → Prop) : Translation σ σ S S P P :=
  relabeling holds id id id

theorem carries_keeping {holds : σ → Prop} {operation : StateM σ α}
    (hkept : ∀ state, holds state → holds (operation state).2) :
    (keeping holds : Translation σ σ S S P P).Carries id operation operation :=
  fun state hstate => ⟨hkept state hstate, rfl⟩

theorem carries_map_keeping {ε : Type} {holds : σ → Prop}
    {operation : StateM σ (Except ε α)}
    (hkept : ∀ state, holds state → holds (operation state).2) :
    (keeping holds : Translation σ σ S S P P).Carries (Except.map id) operation
      operation := by
  rw [Except.map_id]
  exact carries_keeping hkept

end Translation

/-! ## Numbers -/

namespace ScriptedObjects

def stageNumbers (objects : ScriptedObjects) : List Nat :=
  objects.stages.map (·.number)

def programNumbers (objects : ScriptedObjects) : List Nat :=
  objects.programs.map (·.number)

/-- The numbers of the objects, from one in the order of their creation. -/
structure Numbered (objects : ScriptedObjects) : Prop where
  stages : objects.stageNumbers = List.range' 1 objects.stages.length
  programs : objects.programNumbers = List.range' 1 objects.programs.length

theorem stageNumbers_updateStage (objects : ScriptedObjects) (number : Nat)
    {change : ScriptedStage → ScriptedStage}
    (hchange : ∀ stage, (change stage).number = stage.number) :
    (objects.updateStage number change).stageNumbers = objects.stageNumbers := by
  unfold stageNumbers updateStage
  rw [List.map_map]
  apply List.map_congr_left
  intro stage _
  by_cases hnumber : stage.number = number
  · simp only [Function.comp_apply, if_pos hnumber, hchange]
  · simp only [Function.comp_apply, if_neg hnumber]

theorem programNumbers_updateProgram (objects : ScriptedObjects) (number : Nat)
    {change : ScriptedProgram → ScriptedProgram}
    (hchange : ∀ program, (change program).number = program.number) :
    (objects.updateProgram number change).programNumbers = objects.programNumbers := by
  unfold programNumbers updateProgram
  rw [List.map_map]
  apply List.map_congr_left
  intro program _
  by_cases hnumber : program.number = number
  · simp only [Function.comp_apply, if_pos hnumber, hchange]
  · simp only [Function.comp_apply, if_neg hnumber]

theorem stageNumbers_compiled (objects : ScriptedObjects) (number : Nat) (source : String) :
    (scriptedDevice.compileStage number source objects).2.stageNumbers =
      objects.stageNumbers := by
  let sourced := objects.updateStage number ({ · with source := source })
  let compiled (stage : ScriptedStage) : ScriptedStage :=
    { stage with failure := objects.script.compileFailure? stage.kind stage.source }
  have hsourced : sourced.stageNumbers = objects.stageNumbers :=
    objects.stageNumbers_updateStage number fun _ => rfl
  have hcompiled : (sourced.updateStage number compiled).stageNumbers = sourced.stageNumbers :=
    sourced.stageNumbers_updateStage number fun _ => rfl
  exact hcompiled.trans hsourced

end ScriptedObjects

/-- The objects are numbered, and the calls gave out the numbers of those that
came after the first ones. -/
structure CountedFrom (stages programs : Nat)
    (recorded : Recorded ScriptedObjects (DeviceCall Nat Nat)) : Prop where
  numbered : recorded.state.Numbered
  stages_le : stages ≤ recorded.state.stages.length
  programs_le : programs ≤ recorded.state.programs.length
  stagesMade : Ledger.stagesMade recorded.calls.toList =
    recorded.state.stageNumbers.drop stages
  programsMade : Ledger.programsMade recorded.calls.toList =
    recorded.state.programNumbers.drop programs

section

variable {stages programs : Nat} {recorded : Recorded ScriptedObjects (DeviceCall Nat Nat)}
  {objects : ScriptedObjects} {call : DeviceCall Nat Nat}

theorem CountedFrom.refl (hobjects : objects.Numbered) :
    CountedFrom objects.stages.length objects.programs.length ⟨objects, #[]⟩ := by
  have hstages : objects.stageNumbers.length ≤ objects.stages.length := by
    simp [ScriptedObjects.stageNumbers]
  have hprograms : objects.programNumbers.length ≤ objects.programs.length := by
    simp [ScriptedObjects.programNumbers]
  exact ⟨hobjects, le_rfl, le_rfl, (List.drop_eq_nil_of_le hstages).symm,
    (List.drop_eq_nil_of_le hprograms).symm⟩

/-- A call that creates nothing. -/
theorem CountedFrom.push (hrecorded : CountedFrom stages programs recorded)
    (hstages : objects.stageNumbers = recorded.state.stageNumbers)
    (hprograms : objects.programNumbers = recorded.state.programNumbers)
    (hnoStage : Ledger.stagesMade [call] = []) (hnoProgram : Ledger.programsMade [call] = []) :
    CountedFrom stages programs ⟨objects, recorded.calls.push call⟩ := by
  have hstageCount : objects.stages.length = recorded.state.stages.length := by
    simpa [ScriptedObjects.stageNumbers] using congrArg List.length hstages
  have hprogramCount : objects.programs.length = recorded.state.programs.length := by
    simpa [ScriptedObjects.programNumbers] using congrArg List.length hprograms
  constructor
  · constructor
    · rw [hstages, hrecorded.numbered.stages, hstageCount]
    · rw [hprograms, hrecorded.numbered.programs, hprogramCount]
  · rw [hstageCount]
    exact hrecorded.stages_le
  · rw [hprogramCount]
    exact hrecorded.programs_le
  · rw [Array.toList_push, Ledger.stagesMade_append, hnoStage, List.append_nil, hstages]
    exact hrecorded.stagesMade
  · rw [Array.toList_push, Ledger.programsMade_append, hnoProgram, List.append_nil, hprograms]
    exact hrecorded.programsMade

theorem concat_eq_range' {numbers : List Nat} {count : Nat}
    (hnumbers : numbers = List.range' 1 count) :
    numbers ++ [count + 1] = List.range' 1 (count + 1) := by
  rw [List.range'_1_concat, hnumbers, Nat.add_comm]

theorem CountedFrom.pushStage (hrecorded : CountedFrom stages programs recorded)
    (kind : Stage) :
    let number := recorded.state.stages.length + 1
    CountedFrom stages programs
      ⟨{ recorded.state with stages := recorded.state.stages ++ [{ number, kind }] },
        recorded.calls.push (.createStage kind (.ok number))⟩ := by
  have hnumbers := concat_eq_range' hrecorded.numbered.stages
  have hle := hrecorded.stages_le
  constructor
  · refine ⟨?_, hrecorded.numbered.programs⟩
    simp only [ScriptedObjects.stageNumbers, List.map_append, List.length_append]
    exact hnumbers
  · rw [List.length_append]
    exact Nat.le_add_right_of_le hle
  · exact hrecorded.programs_le
  · rw [Array.toList_push, Ledger.stagesMade_append, hrecorded.stagesMade]
    simp only [ScriptedObjects.stageNumbers, List.map_append]
    rw [List.drop_append_of_le_length (by rwa [List.length_map])]
    rfl
  · rw [Array.toList_push, Ledger.programsMade_append, hrecorded.programsMade]
    exact List.append_nil _

theorem CountedFrom.pushProgram (hrecorded : CountedFrom stages programs recorded) :
    let number := recorded.state.programs.length + 1
    CountedFrom stages programs
      ⟨{ recorded.state with programs := recorded.state.programs ++ [{ number }] },
        recorded.calls.push (.createProgram (.ok number))⟩ := by
  have hnumbers := concat_eq_range' hrecorded.numbered.programs
  have hle := hrecorded.programs_le
  constructor
  · refine ⟨hrecorded.numbered.stages, ?_⟩
    simp only [ScriptedObjects.programNumbers, List.map_append, List.length_append]
    exact hnumbers
  · exact hrecorded.stages_le
  · rw [List.length_append]
    exact Nat.le_add_right_of_le hle
  · rw [Array.toList_push, Ledger.stagesMade_append, hrecorded.stagesMade]
    exact List.append_nil _
  · rw [Array.toList_push, Ledger.programsMade_append, hrecorded.programsMade]
    simp only [ScriptedObjects.programNumbers, List.map_append]
    rw [List.drop_append_of_le_length (by rwa [List.length_map])]
    rfl

theorem CountedFrom.createStage (hrecorded : CountedFrom stages programs recorded)
    (kind : Stage) :
    CountedFrom stages programs (directBackend.device.createStage kind recorded).2 := by
  let outcome := ScriptedObjects.createStage kind recorded.state
  change CountedFrom stages programs
    ⟨outcome.2, recorded.calls.push (.createStage kind outcome.1)⟩
  cases hfailure : recorded.state.script.stageFailures.lookup kind with
  | some report =>
      have houtcome : outcome = (.error report, recorded.state) := by
        simp only [outcome, ScriptedObjects.createStage, hfailure]
      rw [houtcome]
      exact hrecorded.push rfl rfl rfl rfl
  | none =>
      have hnext := hrecorded.pushStage kind
      simpa only [outcome, ScriptedObjects.createStage, hfailure] using hnext

theorem CountedFrom.createProgram (hrecorded : CountedFrom stages programs recorded) :
    CountedFrom stages programs (directBackend.device.createProgram recorded).2 := by
  let outcome := ScriptedObjects.createProgram recorded.state
  change CountedFrom stages programs
    ⟨outcome.2, recorded.calls.push (.createProgram outcome.1)⟩
  cases hfailure : recorded.state.script.programFailure with
  | some report =>
      have houtcome : outcome = (.error report, recorded.state) := by
        simp only [outcome, ScriptedObjects.createProgram, hfailure]
      rw [houtcome]
      exact hrecorded.push rfl rfl rfl rfl
  | none =>
      have hnext := hrecorded.pushProgram
      simpa only [outcome, ScriptedObjects.createProgram, hfailure] using hnext

end

/-- Every operation keeps count. -/
theorem directBackend_keepsCount (stages programs : Nat) :
    directBackend.device.CarriedBy (.keeping (CountedFrom stages programs))
      directBackend.device where
  createStage kind :=
    Translation.carries_map_keeping fun _ hrecorded => hrecorded.createStage kind
  compileStage stage source :=
    Translation.carries_keeping fun recorded hrecorded =>
      hrecorded.push (recorded.state.stageNumbers_compiled stage source) rfl rfl rfl
  destroyStage stage :=
    Translation.carries_keeping fun recorded hrecorded =>
      hrecorded.push (recorded.state.stageNumbers_updateStage stage fun _ => rfl) rfl rfl rfl
  createProgram :=
    Translation.carries_map_keeping fun _ hrecorded => hrecorded.createProgram
  attachStage program _ :=
    Translation.carries_keeping fun recorded hrecorded =>
      hrecorded.push rfl (recorded.state.programNumbers_updateProgram program fun _ => rfl)
        rfl rfl
  linkProgram program :=
    Translation.carries_keeping fun recorded hrecorded =>
      hrecorded.push rfl (recorded.state.programNumbers_updateProgram program fun _ => rfl)
        rfl rfl
  destroyProgram program :=
    Translation.carries_keeping fun recorded hrecorded =>
      hrecorded.push rfl (recorded.state.programNumbers_updateProgram program fun _ => rfl)
        rfl rfl
  attributeLocation _ _ :=
    Translation.carries_keeping fun _ hrecorded => hrecorded.push rfl rfl rfl rfl
  uniformLocation _ _ :=
    Translation.carries_keeping fun _ hrecorded => hrecorded.push rfl rfl rfl rfl

/-! ## Sessions -/

/-- The session after some steps. -/
def Session.after (backend : Backend κ) (session : Session κ) (steps : List SessionStep) :
    Session κ :=
  steps.foldl (fun session step => (session.perform backend step).2) session

/-- A session that came about by some steps from a start. -/
def Session.Reached (backend : Backend κ) (session : Session κ) : Prop :=
  ∃ files script config steps, session = (start files script config).after backend steps

namespace Session

theorem after_append (backend : Backend κ) (session : Session κ)
    (first second : List SessionStep) :
    session.after backend (first ++ second) =
      (session.after backend first).after backend second :=
  List.foldl_append

theorem Reached.after {backend : Backend κ} {session : Session κ}
    (hreached : session.Reached backend) (steps : List SessionStep) :
    (session.after backend steps).Reached backend := by
  obtain ⟨files, script, config, earlier, rfl⟩ := hreached
  exact ⟨files, script, config, earlier ++ steps, (after_append backend _ _ _).symm⟩

section

variable {session : Session (DeviceCall Nat Nat)}
  (hsession : session.bench.device.state.Numbered)
include hsession

/-- Work that keeps count leaves the objects numbered. -/
theorem carryOut_numbered {β : Type}
    {work : Work (Recorded ScriptedObjects (DeviceCall Nat Nat)) Nat Nat α}
    {image : Work (Recorded ScriptedObjects (DeviceCall Nat Nat)) Nat Nat β} {view : α → β}
    (hwork : work.CarriedBy
      (.keeping (CountedFrom session.bench.device.state.stages.length
        session.bench.device.state.programs.length)) view image) :
    (session.cleared.carryOut work).2.bench.device.state.Numbered :=
  (hwork session.cleared.bench (.refl hsession)).1.numbered

theorem step_numbered (step : SessionStep) :
    (session.cleared.step directBackend step).2.bench.device.state.Numbered := by
  let objects := session.bench.device.state
  have hdevice := directBackend_keepsCount objects.stages.length objects.programs.length
  cases step with
  | write | remove | files | release | validate | specialize => exact hsession
  | script script => exact ⟨hsession.stages, hsession.programs⟩
  | configure document =>
      simp only [Session.step]
      cases Configuration.ofDocument? document <;> exact hsession
  | loadConfiguration path =>
      have hkept := carryOut_numbered hsession (loadConfiguration_carried path)
      simp only [Session.step]
      cases (session.cleared.carryOut (ShaderFamilies.loadConfiguration path)).1 <;>
        exact hkept
  | load paths => exact carryOut_numbered hsession (loadSources_carried paths)
  | save sources paths => exact carryOut_numbered hsession (saveSources_carried sources paths)
  | dump family paths outputs =>
      exact carryOut_numbered hsession (dumpVariants_carried _ family paths outputs)
  | build family paths =>
      exact carryOut_numbered hsession (buildFamily_carried hdevice _ _ family paths)
  | compile sources =>
      exact carryOut_numbered hsession (compileStages_carried hdevice sources)
  | link stages => exact carryOut_numbered hsession (linkProgram_carried hdevice stages)
  | linkReleasing stages =>
      exact carryOut_numbered hsession (linkProgramReleasing_carried hdevice stages)
  | buildProgram release sources =>
      exact carryOut_numbered hsession (buildProgram_carried hdevice release sources)
  | resolve kind program =>
      exact carryOut_numbered hsession (resolve_carried hdevice program kind)

theorem after_numbered (steps : List SessionStep) :
    (session.after directBackend steps).bench.device.state.Numbered := by
  induction steps generalizing session with
  | nil => exact hsession
  | cons step rest ih => exact ih (step_numbered hsession step)

end

theorem Reached.numbered {session : Session (DeviceCall Nat Nat)}
    (hreached : session.Reached directBackend) :
    session.bench.device.state.Numbered := by
  obtain ⟨files, script, config, steps, rfl⟩ := hreached
  exact after_numbered ⟨rfl, rfl⟩ steps

end Session

end ShaderFamilies
