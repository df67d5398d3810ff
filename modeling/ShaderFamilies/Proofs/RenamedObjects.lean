import ShaderFamilies.Proofs.BackendSimulation
import ShaderFamilies.Proofs.ObjectLedger

/-!
# Renaming objects

The handles of stages and programs stand in calls, in the log and in results.
Renaming them commutes with everything that does not look at handles.
-/

namespace ShaderFamilies

variable {S T U P Q R : Type}

/-! ## Calls -/

def DeviceCall.rename (stage : S → T) (program : P → Q) : DeviceCall S P → DeviceCall T Q
  | .createStage kind result => .createStage kind (result.map stage)
  | .compileStage handle source result => .compileStage (stage handle) source result
  | .destroyStage handle => .destroyStage (stage handle)
  | .createProgram result => .createProgram (result.map program)
  | .attachStage handle part => .attachStage (program handle) (stage part)
  | .linkProgram handle result => .linkProgram (program handle) result
  | .destroyProgram handle => .destroyProgram (program handle)
  | .attributeLocation handle name location =>
      .attributeLocation (program handle) name location
  | .uniformLocation handle name location => .uniformLocation (program handle) name location

def OpenGlCall.rename (stage : S → T) (program : P → Q) : OpenGlCall S P → OpenGlCall T Q
  | .createShader type result => .createShader type (result.map stage)
  | .shaderSource handle source => .shaderSource (stage handle) source
  | .compileShader handle compiled => .compileShader (stage handle) compiled
  | .deleteShader handle => .deleteShader (stage handle)
  | .createProgram result => .createProgram (result.map program)
  | .attachShader handle part => .attachShader (program handle) (stage part)
  | .linkProgram handle linked => .linkProgram (program handle) linked
  | .deleteProgram handle => .deleteProgram (program handle)
  | .attributeSlot handle name raw => .attributeSlot (program handle) name raw
  | .uniformSlot handle name raw => .uniformSlot (program handle) name raw

def OpenGlCall.stagesMade (calls : List (OpenGlCall S P)) : List S :=
  calls.filterMap fun
    | .createShader _ result => result.toOption
    | _ => none

def OpenGlCall.programsMade (calls : List (OpenGlCall S P)) : List P :=
  calls.filterMap fun
    | .createProgram result => result.toOption
    | _ => none

theorem map_map_except {ε : Type} (result : Except ε S) (first : S → T) (second : T → U) :
    (result.map first).map second = result.map (second ∘ first) :=
  (comp_map first second result).symm

theorem toOption_map {ε : Type} (result : Except ε S) (stage : S → T) :
    (result.map stage).toOption = result.toOption.map stage := by
  cases result <;> rfl

section

variable (stage : S → T) (program : P → Q)

theorem DeviceCall.isLookup_rename (call : DeviceCall S P) :
    (call.rename stage program).isLookup = call.isLookup := by
  cases call <;> rfl

/-- Lookups are shown or left out under any names. -/
theorem DeviceCall.filter_rename (shows : Bool) (calls : List (DeviceCall S P)) :
    (calls.map (rename stage program)).filter (fun call => shows || ! call.isLookup) =
      (calls.filter fun call => shows || ! call.isLookup).map (rename stage program) := by
  have hshows : (fun call : DeviceCall T Q => shows || ! call.isLookup) ∘
      rename stage program = fun call => shows || ! call.isLookup := by
    funext call
    rw [Function.comp_apply, isLookup_rename]
  rw [List.filter_map, hshows]

theorem DeviceCall.overOpenGl_rename (call : DeviceCall S P) :
    (call.rename stage program).overOpenGl =
      call.overOpenGl.map (OpenGlCall.rename stage program) := by
  cases call <;> rfl

theorem DeviceCall.flatMap_overOpenGl_rename (calls : List (DeviceCall S P)) :
    (calls.map (rename stage program)).flatMap overOpenGl =
      (calls.flatMap overOpenGl).map (OpenGlCall.rename stage program) := by
  rw [List.flatMap_map, List.map_flatMap]
  exact congrArg (List.flatMap · calls) (funext (overOpenGl_rename stage program))

theorem DeviceCall.rename_comp_rename (laterStage : T → U) (laterProgram : Q → R) :
    rename laterStage laterProgram ∘ rename stage program =
      rename (laterStage ∘ stage) (laterProgram ∘ program) := by
  funext call
  rcases call with ⟨_, _ | _⟩ | _ | _ | ⟨_ | _⟩ | _ | _ | _ | _ | _ <;> rfl

theorem LogEvent.rename_comp_rename (laterStage : T → U) (laterProgram : Q → R) :
    rename laterStage laterProgram ∘ rename stage program =
      rename (laterStage ∘ stage) (laterProgram ∘ program) := by
  funext event
  cases event <;> rfl

theorem Ledger.stagesMade_rename (calls : List (DeviceCall S P)) :
    stagesMade (calls.map (DeviceCall.rename stage program)) =
      (stagesMade calls).map stage := by
  unfold stagesMade
  rw [List.filterMap_map, List.map_filterMap]
  apply List.filterMap_congr
  intro call _
  cases call with
  | createStage kind result => exact toOption_map result stage
  | _ => rfl

theorem Ledger.programsMade_rename (calls : List (DeviceCall S P)) :
    programsMade (calls.map (DeviceCall.rename stage program)) =
      (programsMade calls).map program := by
  unfold programsMade
  rw [List.filterMap_map, List.map_filterMap]
  apply List.filterMap_congr
  intro call _
  cases call with
  | createProgram result => exact toOption_map result program
  | _ => rfl

end

/-- What is picked from the calls of OpenGL functions that stand for calls of a
device. -/
theorem DeviceCall.filterMap_overOpenGl {H : Type} {picked : DeviceCall S P → Option H}
    {image : OpenGlCall S P → Option H}
    (himage : ∀ call, call.overOpenGl.filterMap image = (picked call).toList)
    (calls : List (DeviceCall S P)) :
    (calls.flatMap overOpenGl).filterMap image = calls.filterMap picked := by
  rw [List.filterMap_flatMap, List.filterMap_eq_flatMap_toList]
  exact congrArg (List.flatMap · calls) (funext himage)

theorem OpenGlCall.stagesMade_overOpenGl (calls : List (DeviceCall S P)) :
    stagesMade (calls.flatMap DeviceCall.overOpenGl) = Ledger.stagesMade calls := by
  apply DeviceCall.filterMap_overOpenGl
  intro call
  rcases call with ⟨_, _ | _⟩ | _ | _ | _ | _ | _ | _ | _ | _ <;> rfl

theorem OpenGlCall.programsMade_overOpenGl (calls : List (DeviceCall S P)) :
    programsMade (calls.flatMap DeviceCall.overOpenGl) = Ledger.programsMade calls := by
  apply DeviceCall.filterMap_overOpenGl
  intro call
  rcases call with _ | _ | _ | ⟨_ | _⟩ | _ | _ | _ | _ | _ <;> rfl

/-! ## Results -/

def LinkedProgram.rename (program : P → Q) (linked : LinkedProgram P) : LinkedProgram Q :=
  ⟨program linked.program, linked.locations⟩

def StepResult.rename (stage program : Nat → Nat) : StepResult → StepResult
  | .built family linked => .built family (linked.map (LinkedProgram.rename program))
  | .stages handles => .stages (handles.map stage)
  | .program handle => .program (program handle)
  | result => result

theorem StepResult.rename_comp_rename (stage program laterStage laterProgram : Nat → Nat) :
    rename laterStage laterProgram ∘ rename stage program =
      rename (laterStage ∘ stage) (laterProgram ∘ program) := by
  funext result
  cases result with
  | built family linked => exact congrArg (built family) (List.map_map ..)
  | stages handles => exact congrArg stages (List.map_map ..)
  | _ => rfl

theorem StepResult.standard_comp_rename (stage program : Nat → Nat) :
    standard ∘ rename stage program = rename stage program ∘ standard := by
  funext result
  cases result with
  | built family linked =>
      refine congrArg (built family) ?_
      rw [List.map_map, List.map_map]
      rfl
  | _ => rfl

end ShaderFamilies
