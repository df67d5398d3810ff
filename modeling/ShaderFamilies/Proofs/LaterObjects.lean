import Mathlib.Data.List.Find
import ShaderFamilies.Proofs.NumberedObjects
import ShaderFamilies.Proofs.RenamedObjects

/-!
# Objects that come after others

A device on which objects exist already does with new objects what a device
without objects does, but for their numbers.  The old objects stay as they are.
-/

namespace ShaderFamilies

variable {σ τ S T P Q α β : Type}

/-! ## Numbers of later objects -/

/-- The number of an object when `earlier` objects come before all.  No object has
the number zero. -/
def laterNumber (earlier : Nat) : Nat → Nat
  | 0 => 0
  | number + 1 => earlier + number + 1

theorem laterNumber_injective (earlier : Nat) : Function.Injective (laterNumber earlier) := by
  intro first second hsame
  cases first with
  | zero =>
      cases second with
      | zero => rfl
      | succ second => exact absurd hsame.symm (Nat.succ_ne_zero _)
  | succ first =>
      cases second with
      | zero => exact absurd hsame (Nat.succ_ne_zero _)
      | succ second =>
          simp only [laterNumber] at hsame
          omega

theorem laterNumber_notMem (earlier number : Nat) :
    laterNumber earlier number ∉ List.range' 1 earlier := by
  rw [List.mem_range'_1]
  cases number with
  | zero => exact fun hrange => Nat.not_succ_le_zero 0 hrange.1
  | succ number =>
      simp only [laterNumber]
      omega

theorem map_laterNumber_range' (earlier count : Nat) :
    (List.range' 1 count).map (laterNumber earlier) = List.range' (earlier + 1) count := by
  induction count with
  | zero => rfl
  | succ count ih =>
      rw [List.range'_1_concat, List.range'_1_concat, List.map_append, ih, Nat.add_comm 1 count,
        List.map_singleton, laterNumber, Nat.add_right_comm]

/-! ## Lists of numbered items -/

section

variable {number : α → Nat} {renumber : Nat → Nat} {later : α → α} {past : List α}
  (hpast : ∀ item ∈ past, ∀ other, number item ≠ renumber other)
  (hlater : ∀ item, number (later item) = renumber (number item))
  (hrenumber : Function.Injective renumber)
include hpast hlater hrenumber

/-- A change of a later item. -/
theorem map_followed {change image : α → α}
    (himage : ∀ item, image (later item) = later (change item)) (fresh : List α)
    (place : Nat) :
    (past ++ fresh.map later).map
        (fun item => if number item = renumber place then image item else item) =
      past ++ (fresh.map fun item =>
        if number item = place then change item else item).map later := by
  rw [List.map_append, List.map_map, List.map_map]
  congr 1
  · have hstays : ∀ item ∈ past,
        (if number item = renumber place then image item else item) = item :=
      fun item hitem => if_neg (hpast item hitem place)
    exact (List.map_congr_left hstays).trans (List.map_id past)
  · apply List.map_congr_left
    intro item _
    have hplace : number (later item) = renumber place ↔ number item = place := by
      rw [hlater, hrenumber.eq_iff]
    simp only [Function.comp_apply, hplace]
    by_cases hnumber : number item = place
    · rw [if_pos hnumber, if_pos hnumber, himage]
    · rw [if_neg hnumber, if_neg hnumber]

/-- A later item is found. -/
theorem find?_followed (fresh : List α) (place : Nat) :
    (past ++ fresh.map later).find? (number · == renumber place) =
      (fresh.find? (number · == place)).map later := by
  have hnone : past.find? (number · == renumber place) = none := by
    rw [List.find?_eq_none]
    intro item hitem hfound
    exact hpast item hitem place (eq_of_beq hfound)
  have hplace : ((number · == renumber place) ∘ later) = (number · == place) := by
    funext item
    rw [Bool.eq_iff_iff, Function.comp_apply, beq_iff_eq, beq_iff_eq, hlater, hrenumber.eq_iff]
  rw [List.find?_append, hnone, Option.none_or, List.find?_map, hplace]

end

/-! ## Later objects -/

def ScriptedStage.later (earlier : Nat) (stage : ScriptedStage) : ScriptedStage :=
  { stage with number := laterNumber earlier stage.number }

def ScriptedProgram.later (earlierStages earlier : Nat) (program : ScriptedProgram) :
    ScriptedProgram :=
  { program with
    number := laterNumber earlier program.number
    attached := program.attached.map (laterNumber earlierStages) }

/-- No rule is about a program of a certain number, and names are found where they
are in all programs. -/
structure Script.IgnoresNumbers (script : Script) : Prop where
  linkRules : ∀ rule ∈ script.linkRules, rule.program = none
  attributes : ∀ first second name,
    script.attributeSlot first name = script.attributeSlot second name
  uniforms : ∀ first second name,
    script.uniformSlot first name = script.uniformSlot second name

theorem Script.IgnoresNumbers.linkFailure? {script : Script}
    (hscript : script.IgnoresNumbers) (first second : Nat) (sources : List String) :
    script.linkFailure? first sources = script.linkFailure? second sources := by
  unfold Script.linkFailure?
  apply congrArg (Option.map _)
  apply List.find?_congr
  intro rule hrule
  rw [hscript.linkRules rule hrule]
  rfl

/-- Without a stride names are found alike in all programs. -/
theorem Script.ignoresNumbers_of_stride {script : Script} (hstride : script.stride = 0)
    (hlinkRules : ∀ rule ∈ script.linkRules, rule.program = none) :
    script.IgnoresNumbers := by
  have hslot : ∀ listed offset first second name,
      script.slot listed offset first name = script.slot listed offset second name := by
    intro listed offset first second name
    simp only [Script.slot, hstride, Int.zero_mul]
  constructor
  · exact hlinkRules
  · exact hslot _ _
  · exact hslot _ _

namespace ScriptedObjects

/-- The objects when others come before all of them. -/
def followedBy (past fresh : ScriptedObjects) : ScriptedObjects where
  script := fresh.script
  stages := past.stages ++ fresh.stages.map (·.later past.stages.length)
  programs :=
    past.programs ++ fresh.programs.map (·.later past.stages.length past.programs.length)

section

variable {past : ScriptedObjects} (hpast : past.Numbered)
include hpast

theorem Numbered.stage_ne {stage : ScriptedStage} (hstage : stage ∈ past.stages)
    (number : Nat) : stage.number ≠ laterNumber past.stages.length number := by
  intro hsame
  have hmem : stage.number ∈ past.stageNumbers := List.mem_map_of_mem hstage
  rw [hpast.stages, hsame] at hmem
  exact laterNumber_notMem _ _ hmem

theorem Numbered.program_ne {program : ScriptedProgram} (hprogram : program ∈ past.programs)
    (number : Nat) : program.number ≠ laterNumber past.programs.length number := by
  intro hsame
  have hmem : program.number ∈ past.programNumbers := List.mem_map_of_mem hprogram
  rw [hpast.programs, hsame] at hmem
  exact laterNumber_notMem _ _ hmem

theorem updateStage_followedBy (change image : ScriptedStage → ScriptedStage)
    (himage : ∀ stage, image (stage.later past.stages.length) =
      (change stage).later past.stages.length) (fresh : ScriptedObjects) (number : Nat) :
    (past.followedBy fresh).updateStage (laterNumber past.stages.length number) image =
      past.followedBy (fresh.updateStage number change) := by
  simp only [updateStage, followedBy]
  rw [map_followed (fun _ => hpast.stage_ne) (fun _ => rfl) (laterNumber_injective _) himage]

theorem updateProgram_followedBy (change image : ScriptedProgram → ScriptedProgram)
    (himage : ∀ program, image (program.later past.stages.length past.programs.length) =
      (change program).later past.stages.length past.programs.length)
    (fresh : ScriptedObjects) (number : Nat) :
    (past.followedBy fresh).updateProgram (laterNumber past.programs.length number) image =
      past.followedBy (fresh.updateProgram number change) := by
  simp only [updateProgram, followedBy]
  rw [map_followed (fun _ => hpast.program_ne) (fun _ => rfl) (laterNumber_injective _) himage]

theorem stage?_followedBy (fresh : ScriptedObjects) (number : Nat) :
    (past.followedBy fresh).stage? (laterNumber past.stages.length number) =
      (fresh.stage? number).map (·.later past.stages.length) :=
  find?_followed (fun _ => hpast.stage_ne) (fun _ => rfl) (laterNumber_injective _) _ _

theorem program?_followedBy (fresh : ScriptedObjects) (number : Nat) :
    (past.followedBy fresh).program? (laterNumber past.programs.length number) =
      (fresh.program? number).map (·.later past.stages.length past.programs.length) :=
  find?_followed (fun _ => hpast.program_ne) (fun _ => rfl) (laterNumber_injective _) _ _

theorem attachedSources_followedBy (fresh : ScriptedObjects) (program : ScriptedProgram) :
    (past.followedBy fresh).attachedSources
        (program.later past.stages.length past.programs.length) =
      fresh.attachedSources program := by
  simp only [attachedSources, ScriptedProgram.later]
  rw [List.filterMap_map]
  apply List.filterMap_congr
  intro number _
  rw [Function.comp_apply, stage?_followedBy hpast, Option.map_map]
  rfl

end

end ScriptedObjects

/-! ## The device -/

/-- From objects to the same objects after others. -/
def Translation.following (past : ScriptedObjects) :
    Translation ScriptedObjects ScriptedObjects Nat Nat Nat Nat :=
  .relabeling (fun fresh => fresh.script.IgnoresNumbers) past.followedBy
    (laterNumber past.stages.length) (laterNumber past.programs.length)

section

variable {past : ScriptedObjects}

theorem createStage_following (kind : Stage) :
    (Translation.following past).Carries (Except.map (laterNumber past.stages.length))
      (ScriptedObjects.createStage kind) (ScriptedObjects.createStage kind) := by
  intro fresh hfresh
  change _ ∧ ScriptedObjects.createStage kind (past.followedBy fresh) = _
  have hscript : (past.followedBy fresh).script = fresh.script := rfl
  cases hfailure : fresh.script.stageFailures.lookup kind with
  | some report =>
      simp only [ScriptedObjects.createStage, hscript, hfailure]
      exact ⟨hfresh, rfl⟩
  | none =>
      have hnumber : (past.followedBy fresh).stages.length + 1 =
          laterNumber past.stages.length (fresh.stages.length + 1) := by
        simp [ScriptedObjects.followedBy, laterNumber]
      simp only [ScriptedObjects.createStage, hscript, hfailure, hnumber]
      refine ⟨hfresh, congrArg (Prod.mk _) ?_⟩
      simp [ScriptedObjects.followedBy, Translation.following, Translation.relabeling,
        ScriptedStage.later]

theorem createProgram_following :
    (Translation.following past).Carries (Except.map (laterNumber past.programs.length))
      ScriptedObjects.createProgram ScriptedObjects.createProgram := by
  intro fresh hfresh
  change _ ∧ ScriptedObjects.createProgram (past.followedBy fresh) = _
  have hscript : (past.followedBy fresh).script = fresh.script := rfl
  cases hfailure : fresh.script.programFailure with
  | some report =>
      simp only [ScriptedObjects.createProgram, hscript, hfailure]
      exact ⟨hfresh, rfl⟩
  | none =>
      have hnumber : (past.followedBy fresh).programs.length + 1 =
          laterNumber past.programs.length (fresh.programs.length + 1) := by
        simp [ScriptedObjects.followedBy, laterNumber]
      simp only [ScriptedObjects.createProgram, hscript, hfailure, hnumber]
      refine ⟨hfresh, congrArg (Prod.mk _) ?_⟩
      simp [ScriptedObjects.followedBy, Translation.following, Translation.relabeling,
        ScriptedProgram.later]

section

variable (hpast : past.Numbered)
include hpast

theorem compileStage_following (stage : Nat) (source : String) :
    (Translation.following past).Carries id (scriptedDevice.compileStage stage source)
      (scriptedDevice.compileStage (laterNumber past.stages.length stage) source) := by
  intro fresh hfresh
  refine ⟨hfresh, ?_⟩
  -- compiling is two updates of the stage and a look at it
  let number := laterNumber past.stages.length stage
  let place (part : ScriptedStage) : ScriptedStage := { part with source := source }
  let compile (part : ScriptedStage) : ScriptedStage :=
    { part with failure := fresh.script.compileFailure? part.kind part.source }
  let placed := fresh.updateStage stage place
  let compiled := placed.updateStage stage compile
  have hplaced : (past.followedBy fresh).updateStage number place =
      past.followedBy placed :=
    ScriptedObjects.updateStage_followedBy hpast place place (fun _ => rfl) fresh stage
  have hcompiled : (past.followedBy placed).updateStage number compile =
      past.followedBy compiled :=
    ScriptedObjects.updateStage_followedBy hpast compile compile (fun _ => rfl) placed stage
  have hfailure : ((past.followedBy compiled).stage? number).bind (·.failure) =
      (compiled.stage? stage).bind (·.failure) := by
    rw [ScriptedObjects.stage?_followedBy hpast, Option.bind_map]
    rfl
  let outcome (objects : ScriptedObjects) : Except String Unit × ScriptedObjects :=
    (outcomeOf ((objects.stage? number).bind (·.failure)), objects)
  change outcome (((past.followedBy fresh).updateStage number place).updateStage number
    compile) = _
  rw [hplaced, hcompiled]
  exact congrArg (fun failure => (outcomeOf failure, _)) hfailure

theorem linkProgram_following (program : Nat) :
    (Translation.following past).Carries id (scriptedDevice.linkProgram program)
      (scriptedDevice.linkProgram (laterNumber past.programs.length program)) := by
  intro fresh hfresh
  refine ⟨hfresh, ?_⟩
  -- the rules see the sources of the attached stages, which are the same, and the
  -- number of the program, which they ignore
  let number := laterNumber past.programs.length program
  let link (objects : ScriptedObjects) (number : Nat) (part : ScriptedProgram) :
      ScriptedProgram :=
    { part with
      failure := objects.script.linkFailure? number (objects.attachedSources part) }
  let linked := fresh.updateProgram program (link fresh program)
  have hlinked : (past.followedBy fresh).updateProgram number
      (link (past.followedBy fresh) number) = past.followedBy linked := by
    apply ScriptedObjects.updateProgram_followedBy hpast
    intro part
    simp only [link]
    rw [ScriptedObjects.attachedSources_followedBy hpast]
    let numbered := part.later past.stages.length past.programs.length
    exact congrArg (fun failure => { numbered with failure := failure })
      (hfresh.linkFailure? number program (fresh.attachedSources part))
  have hfailure : ((past.followedBy linked).program? number).bind (·.failure) =
      (linked.program? program).bind (·.failure) := by
    rw [ScriptedObjects.program?_followedBy hpast, Option.bind_map]
    rfl
  let outcome (objects : ScriptedObjects) : Except String Unit × ScriptedObjects :=
    (outcomeOf ((objects.program? number).bind (·.failure)), objects)
  change outcome ((past.followedBy fresh).updateProgram number
    (link (past.followedBy fresh) number)) = _
  rw [hlinked]
  exact congrArg (fun failure => (outcomeOf failure, _)) hfailure

theorem scriptedDevice_following :
    scriptedDevice.CarriedBy (.following past) scriptedDevice where
  createStage := createStage_following
  compileStage := compileStage_following hpast
  destroyStage stage fresh hfresh := by
    refine ⟨hfresh, congrArg (Prod.mk ()) ?_⟩
    exact ScriptedObjects.updateStage_followedBy hpast ({ · with isLive := false })
      ({ · with isLive := false }) (fun _ => rfl) fresh stage
  createProgram := createProgram_following
  attachStage program stage fresh hfresh := by
    refine ⟨hfresh, congrArg (Prod.mk ()) ?_⟩
    apply ScriptedObjects.updateProgram_followedBy hpast
    intro part
    simp only [ScriptedProgram.later, List.map_append]
    rfl
  linkProgram := linkProgram_following hpast
  destroyProgram program fresh hfresh := by
    refine ⟨hfresh, congrArg (Prod.mk ()) ?_⟩
    exact ScriptedObjects.updateProgram_followedBy hpast ({ · with isLive := false })
      ({ · with isLive := false }) (fun _ => rfl) fresh program
  attributeLocation program name fresh hfresh :=
    ⟨hfresh, congrArg (fun raw => (Location.mk raw, _)) (hfresh.attributes _ program name)⟩
  uniformLocation program name fresh hfresh :=
    ⟨hfresh, congrArg (fun raw => (Location.mk raw, _)) (hfresh.uniforms _ program name)⟩

end

end

/-! ## Recorded calls -/

def Recorded.relabel (states : σ → τ) (stage : S → T) (program : P → Q)
    (recorded : Recorded σ (DeviceCall S P)) : Recorded τ (DeviceCall T Q) where
  state := states recorded.state
  calls := recorded.calls.map (DeviceCall.rename stage program)

section

variable {holds : σ → Prop} {states : σ → τ} {stage : S → T} {program : P → Q}

/-- A relabeling of the states, and of the calls beside them. -/
def Translation.recording (holds : σ → Prop) (states : σ → τ) (stage : S → T)
    (program : P → Q) :
    Translation (Recorded σ (DeviceCall S P)) (Recorded τ (DeviceCall T Q)) S T P Q :=
  .relabeling (fun recorded => holds recorded.state) (Recorded.relabel states stage program)
    stage program

theorem carryOut_recording {original : StateM σ α} {image : StateM τ β} {answers : α → β}
    (hoperation : (Translation.relabeling holds states stage program).Carries answers
      original image)
    (note : α → DeviceCall S P) (imageNote : β → DeviceCall T Q)
    (hnote : ∀ answer, (note answer).rename stage program = imageNote (answers answer)) :
    (Translation.recording holds states stage program).Carries answers
      (Recorded.carryOut original note) (Recorded.carryOut image imageNote) := by
  intro recorded hrecorded
  obtain ⟨hkept, himage⟩ := hoperation recorded.state hrecorded
  refine ⟨hkept, ?_⟩
  simp only [Translation.recording, Translation.relabeling, Recorded.relabel,
    Recorded.carryOut] at himage ⊢
  rw [himage, Array.map_push, hnote]

theorem Device.CarriedBy.recorded {original : Device σ S P} {image : Device τ T Q}
    (hdevices : original.CarriedBy (.relabeling holds states stage program) image) :
    original.recorded.CarriedBy (.recording holds states stage program) image.recorded where
  createStage kind := carryOut_recording (hdevices.createStage kind) _ _ fun _ => rfl
  compileStage part source :=
    carryOut_recording (hdevices.compileStage part source) _ _ fun _ => rfl
  destroyStage part :=
    carryOut_recording (hdevices.destroyStage part) (fun _ => .destroyStage part)
      (fun _ => .destroyStage (stage part)) fun _ => rfl
  createProgram := carryOut_recording hdevices.createProgram _ _ fun _ => rfl
  attachStage handle part :=
    carryOut_recording (hdevices.attachStage handle part) (fun _ => .attachStage handle part)
      (fun _ => .attachStage (program handle) (stage part)) fun _ => rfl
  linkProgram handle := carryOut_recording (hdevices.linkProgram handle) _ _ fun _ => rfl
  destroyProgram handle :=
    carryOut_recording (hdevices.destroyProgram handle) (fun _ => .destroyProgram handle)
      (fun _ => .destroyProgram (program handle)) fun _ => rfl
  attributeLocation handle name :=
    carryOut_recording (hdevices.attributeLocation handle name) _ _ fun _ => rfl
  uniformLocation handle name :=
    carryOut_recording (hdevices.uniformLocation handle name) _ _ fun _ => rfl

/-- Relabeling changes no location. -/
theorem table_relabeling (found : Table Location) :
    (Translation.relabeling holds states stage program).table found = found :=
  found.map_id

theorem linked_recording :
    (Translation.recording holds states stage program).linked =
      LinkedProgram.rename program := by
  funext found
  exact congrArg (LinkedProgram.mk (program found.program)) (table_relabeling _)

end

end ShaderFamilies
