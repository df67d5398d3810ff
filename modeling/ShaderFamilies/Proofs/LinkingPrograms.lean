import ShaderFamilies.Proofs.BuildConduct

/-!
# Linking stages into a program

Linking creates a program, attaches the stages to it and links it.  The program
is destroyed again if it cannot be linked.  The stages belong to the caller:
they may be any handles, in any number, and only the linking that releases them
destroys them, in whichever way it ends.
-/

namespace ShaderFamilies

variable {σ S P : Type} (device : Device σ S P)

/-! ## What linking does -/

theorem Work.run_call_bind {α β : Type} (operation : StateM σ α) (next : α → Work σ S P β)
    (bench : Workbench σ S P) :
    (call operation >>= next).run bench =
      (next (operation bench.device).1).run
        { bench with device := (operation bench.device).2 } :=
  rfl

theorem Recorded.carryOut_eq {α κ : Type} {operation : StateM σ α} {note : α → κ}
    {state after : σ} {answer : α} (h : operation state = (answer, after))
    {calls : Array κ} :
    Recorded.carryOut operation note ⟨state, calls⟩ =
      (answer, ⟨after, calls.push (note answer)⟩) := by
  rw [Recorded.carryOut, h]

/-- The state of a device after it has attached stages to a program. -/
def Device.afterAttaching (program : P) (stages : List S) (state : σ) : σ :=
  stages.foldl (fun state stage => (device.attachStage program stage state).2) state

theorem attachStages_run (program : P) (stages : List S)
    (bench : Workbench (Recorded σ (DeviceCall S P)) S P) :
    (attachStages device.recorded program stages).run bench =
      (.ok (), { bench with
        device :=
          ⟨device.afterAttaching program stages bench.device.state,
            bench.device.calls ++ (stages.map (.attachStage program)).toArray⟩ }) := by
  induction stages generalizing bench with
  | nil =>
      rw [List.map_nil, Array.append_empty]
      rfl
  | cons stage rest ih =>
      rw [attachStages, Work.run_bind]
      change (attachStages device.recorded program rest).run _ = _
      rw [ih]
      simp [Device.afterAttaching, Device.recorded, Recorded.carryOut]

/-- The calls that link stages into a program that was created. -/
def linkingCalls (program : P) (stages : List S) (linked : Except String Unit) :
    List (DeviceCall S P) :=
  .createProgram (.ok program) :: (stages.map (.attachStage program) ++
    .linkProgram program linked :: if linked.toBool then [] else [.destroyProgram program])

section

variable (stages : List S) (files : FileTree) {state : σ}

theorem linkProgram_not_created {reason : String} {after : σ}
    (hcreate : device.createProgram state = (.error reason, after)) :
    let linking := observe (linkProgram device.recorded stages) files state
    linking.calls = [.createProgram (.error reason)] ∧
      linking.result = .error (.device reason) := by
  have hcreated : device.recorded.createProgram ⟨state, #[]⟩ =
      (.error reason, ⟨after, #[.createProgram (.error reason)]⟩) :=
    Recorded.carryOut_eq hcreate
  have hrun : (linkProgram device.recorded stages).run
      { files, device := ⟨state, #[]⟩, log := #[] } =
        (.error (.device reason),
          { files, device := ⟨after, #[.createProgram (.error reason)]⟩, log := #[] }) := by
    rw [linkProgram, Work.run_call_bind, hcreated]
    rfl
  rw [observe_of_run hrun]
  exact ⟨rfl, rfl⟩

theorem linkProgram_run {program : P} {created after : σ} {linked : Except String Unit}
    (hcreate : device.createProgram state = (.ok program, created))
    (hlink : device.linkProgram program (device.afterAttaching program stages created) =
      (linked, after)) :
    let calls :=
      (#[DeviceCall.createProgram (.ok program)] ++
        (stages.map (DeviceCall.attachStage program)).toArray).push
          (.linkProgram program linked)
    (linkProgram device.recorded stages).run { files, device := ⟨state, #[]⟩, log := #[] } =
      match linked with
      | .ok () => (.ok program,
          { files, device := ⟨after, calls⟩, log := #[.programLinked program stages.length] })
      | .error diagnostic => (.error (.link diagnostic),
          { files
            device :=
              ⟨(device.destroyProgram program after).2, calls.push (.destroyProgram program)⟩
            log := #[.programFailed diagnostic] }) := by
  have hcreated : device.recorded.createProgram ⟨state, #[]⟩ =
      (.ok program, ⟨created, #[.createProgram (.ok program)]⟩) :=
    Recorded.carryOut_eq hcreate
  have hattached := attachStages_run device program stages
    { files, device := ⟨created, #[.createProgram (.ok program)]⟩, log := #[] }
  have hlinked (calls : Array (DeviceCall S P)) : device.recorded.linkProgram program
      ⟨device.afterAttaching program stages created, calls⟩ =
        (linked, ⟨after, calls.push (.linkProgram program linked)⟩) :=
    Recorded.carryOut_eq hlink
  -- the answers of the device are put in one after the other, as linking asks for them
  dsimp only at hattached ⊢
  rw [linkProgram, Work.run_call_bind, hcreated]
  dsimp only
  rw [Work.run_bind, hattached]
  dsimp only
  rw [Work.run_call_bind, hlinked]
  cases linked <;> rfl

theorem linkProgram_created {program : P} {created : σ}
    (hcreate : device.createProgram state = (.ok program, created)) :
    let linking := observe (linkProgram device.recorded stages) files state
    let linked :=
      (device.linkProgram program (device.afterAttaching program stages created)).1
    linking.calls = linkingCalls program stages linked ∧
      linking.result = (linked.mapError .link).map fun _ => program := by
  rcases hlink : device.linkProgram program (device.afterAttaching program stages created)
    with ⟨linked, after⟩
  have hrun := linkProgram_run device stages files hcreate hlink
  cases linked with
  | error diagnostic | ok _ =>
      rw [observe_of_run hrun]
      refine ⟨?_, rfl⟩
      simp [linkingCalls, Except.toBool]

/-! ## Linking that releases the stages -/

theorem linkProgramReleasing_run (state : σ) :
    let linking := observe (linkProgram device.recorded stages) files state
    let releasing := observe (linkProgramReleasing device.recorded stages) files state
    releasing.result = linking.result ∧
      releasing.calls = linking.calls ++ stages.map .destroyStage := by
  let start : Workbench (Recorded σ (DeviceCall S P)) S P :=
    { files, device := ⟨state, #[]⟩, log := #[] }
  rcases hlink : (linkProgram device.recorded stages).run start with ⟨result, linked⟩
  obtain ⟨deeds, ⟨hreleased, hdeeds⟩, _, hcalls, _⟩ :=
    releaseStages_behaves device linked.files stages linked rfl
  rcases hrelease : (releaseStages device.recorded stages).run linked with ⟨done, released⟩
  rw [hrelease] at hreleased hcalls
  dsimp only at hreleased hcalls
  subst hreleased hdeeds
  have hattempt : (Work.attempt (linkProgram device.recorded stages)).run start =
      (.ok result, linked) := by
    change (Except.ok ((linkProgram device.recorded stages).run start).1,
      ((linkProgram device.recorded stages).run start).2) = _
    rw [hlink]
  have hrun : (linkProgramReleasing device.recorded stages).run start =
      (result, released) := by
    rw [linkProgramReleasing, Work.run_bind, hattempt]
    dsimp only
    rw [Work.run_bind, hrelease]
    rfl
  rw [observe_of_run hlink, observe_of_run hrun]
  refine ⟨rfl, ?_⟩
  rw [hcalls, callsOf_destroyStageDeeds]

/-! ## Owning the program -/

/-- Linking destroys no stage. -/
theorem linkProgram_destroys_no_stage (state : σ) :
    ∀ stage, .destroyStage stage ∉
      (observe (linkProgram device.recorded stages) files state).calls := by
  intro stage hmem
  cases hcreate : device.createProgram state with
  | mk answer after =>
      cases answer with
      | error reason =>
          rw [(linkProgram_not_created device stages files hcreate).1] at hmem
          simp at hmem
      | ok program =>
          rw [(linkProgram_created device stages files hcreate).1] at hmem
          unfold linkingCalls at hmem
          split at hmem <;> simp at hmem

end

/-- Linking makes one program and destroys it just where it cannot be linked,
and destroys no stage.  Linking that releases the stages ends in the same way,
after the same calls, and then destroys each of the stages that it was given. -/
theorem linkProgram_owns_program (device : Device σ S P) (stages : List S)
    (files : FileTree) (state : σ) :
    let linking := observe (linkProgram device.recorded stages) files state
    let releasing := observe (linkProgramReleasing device.recorded stages) files state
    (match device.createProgram state with
      | (.error reason, _) =>
          linking.calls = [.createProgram (.error reason)] ∧
            linking.result = .error (.device reason)
      | (.ok program, created) =>
          let linked :=
            (device.linkProgram program (device.afterAttaching program stages created)).1
          linking.calls = linkingCalls program stages linked ∧
            linking.result = (linked.mapError .link).map fun _ => program) ∧
      (∀ stage, .destroyStage stage ∉ linking.calls) ∧
      releasing.result = linking.result ∧
      releasing.calls = linking.calls ++ stages.map .destroyStage := by
  intro linking releasing
  refine ⟨?_, linkProgram_destroys_no_stage device stages files state,
    linkProgramReleasing_run device stages files state⟩
  split
  next reason after hcreate => exact linkProgram_not_created device stages files hcreate
  next program created hcreate => exact linkProgram_created device stages files hcreate

end ShaderFamilies
