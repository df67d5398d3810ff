import ShaderFamilies.Proofs.BuildConduct
import ShaderFamilies.Proofs.ObjectLedger

/-!
# The life cycle of stages and programs

A build creates a stage and compiles it at once.  When all stages of a variant
are compiled it creates a program, attaches these stages and links.  A stage is
destroyed after that, or when the variant fails; names are looked up last.
Whether a call stands where it may stand is a question about the calls before
it, and, for a creation, about the calls that follow.
-/

namespace ShaderFamilies

variable {κ S P : Type}

/-! ## Rules about calls -/

/-- Every one of the calls stands as the rule lets it stand, between the calls
before it and those after it. -/
def Throughout (rule : List κ → κ → List κ → Prop) : List κ → List κ → List κ → Prop
  | _, [], _ => True
  | before, call :: rest, after =>
      rule before call (rest ++ after) ∧ Throughout rule (before ++ [call]) rest after

section

variable {rule : List κ → κ → List κ → Prop} {before after : List κ}

theorem throughout_append {first second : List κ} :
    Throughout rule before (first ++ second) after ↔
      Throughout rule before first (second ++ after) ∧
        Throughout rule (before ++ first) second after := by
  induction first generalizing before with
  | nil => simp [Throughout]
  | cons call rest ih => simp [Throughout, ih, and_assoc]

theorem Throughout.at {calls earlier later : List κ} {call : κ}
    (hcalls : Throughout rule before calls after)
    (hsplit : calls = earlier ++ call :: later) :
    rule (before ++ earlier) call (later ++ after) := by
  rw [hsplit, throughout_append] at hcalls
  exact hcalls.2.1

end

/-- Whether a call compiles, attaches or destroys the stage. -/
def DeviceCall.UsesStage (stage : S) : DeviceCall S P → Prop
  | .compileStage used _ _ => used = stage
  | .attachStage _ used => used = stage
  | .destroyStage used => used = stage
  | _ => False

/-- Whether a call looks up a name in the program. -/
def DeviceCall.LooksUp (program : P) : DeviceCall S P → Prop
  | .attributeLocation looked _ _ => looked = program
  | .uniformLocation looked _ _ => looked = program
  | _ => False

/-- Whether a call attaches to the program, links it, destroys it or looks up a
name in it. -/
def DeviceCall.UsesProgram (program : P) : DeviceCall S P → Prop
  | .attachStage used _ => used = program
  | .linkProgram used _ => used = program
  | .destroyProgram used => used = program
  | call => call.LooksUp program

def DeviceCall.Fails : DeviceCall S P → Prop
  | .createStage _ (.error _) => True
  | .compileStage _ _ (.error _) => True
  | .createProgram (.error _) => True
  | .linkProgram _ (.error _) => True
  | _ => False

/-- The stages that calls attach, in order. -/
def stagesAttached (calls : List (DeviceCall S P)) : List S :=
  calls.filterMap fun
    | .attachStage _ stage => some stage
    | _ => none

/-- The stage was created and, right after that, compiled with success from the
text. -/
def CompiledAs (before : List (DeviceCall S P)) (stage : S) (part : Stage × String) :
    Prop :=
  [.createStage part.1 (.ok stage), .compileStage stage part.2 (.ok ())] <:+: before

/-- The program was created, and since then stages were attached to it and
nothing else was done. -/
def BeingAssembled (before : List (DeviceCall S P)) (program : P) : Prop :=
  ∃ earlier, ∃ stages : List S,
    before = earlier ++ .createProgram (.ok program) :: stages.map (.attachStage program)

/-- The program of the stage was linked; or the stage has no program, and since
the last failure nothing was done but to destroy stages. -/
def MayGo (before : List (DeviceCall S P)) (stage : S) : Prop :=
  (∃ program outcome, .attachStage program stage ∈ before ∧
    .linkProgram program outcome ∈ before) ∨
  ((∀ program, .attachStage program stage ∉ before) ∧
    ∃ earlier failed, ∃ destroyed : List S,
      before = earlier ++ failed :: destroyed.map .destroyStage ∧ failed.Fails)

/-- The place of each kind of call, in a build of the variants that returns the
listed programs. -/
def InPlace (variants : List Sources) (returned : List P)
    (before after : List (DeviceCall S P)) : DeviceCall S P → Prop
  | .createStage _ (.ok stage) =>
      ∃ text outcome, after.head? = some (.compileStage stage text outcome)
  | .createStage _ (.error _) => True
  | .compileStage stage _ _ =>
      (∃ kind, before.getLast? = some (.createStage kind (.ok stage))) ∧
      ∀ text outcome, .compileStage stage text outcome ∉ before
  | .createProgram (.ok program) =>
      -- the program of the next variant gets the stages of this variant, in order
      ∃ sources stages outcome rest,
        variants[(Ledger.programsMade before).length]? = some sources ∧
        Ledger.stagesMade before = stagesAttached before ++ stages ∧
        List.Forall₂ (CompiledAs before) stages sources.stages ∧
        after = stages.map (.attachStage program) ++ .linkProgram program outcome :: rest
  | .createProgram (.error _) => True
  | .attachStage program stage =>
      BeingAssembled before program ∧
      (∃ text, .compileStage stage text (.ok ()) ∈ before) ∧
      ∀ other, .attachStage other stage ∉ before
  | .linkProgram program _ =>
      BeingAssembled before program ∧ ∀ outcome, .linkProgram program outcome ∉ before
  | .destroyStage stage => MayGo before stage
  | .destroyProgram program => ∃ outcome, .linkProgram program outcome ∈ before
  | .attributeLocation program _ _ | .uniformLocation program _ _ =>
      .linkProgram program (.ok ()) ∈ before ∧ program ∈ returned ∧
      -- the programs behind it in the result have their turn later
      ∀ done rest, returned = done ++ program :: rest →
        ∀ call ∈ before, ∀ other ∈ rest, ¬ call.LooksUp other

/-- What a call uses was made before and is not destroyed, and the call is in
its place. -/
structure Lawful (variants : List Sources) (returned : List P)
    (before : List (DeviceCall S P)) (call : DeviceCall S P)
    (after : List (DeviceCall S P)) : Prop where
  stages : ∀ stage, call.UsesStage stage →
    stage ∈ Ledger.stagesMade before ∧ .destroyStage stage ∉ before
  programs : ∀ program, call.UsesProgram program →
    program ∈ Ledger.programsMade before ∧ .destroyProgram program ∉ before
  place : InPlace variants returned before after call

@[simp] theorem stagesAttached_append (first second : List (DeviceCall S P)) :
    stagesAttached (first ++ second) = stagesAttached first ++ stagesAttached second :=
  List.filterMap_append

theorem mem_stagesAttached {calls : List (DeviceCall S P)} {stage : S} :
    stage ∈ stagesAttached calls ↔ ∃ program, .attachStage program stage ∈ calls := by
  unfold stagesAttached
  rw [List.mem_filterMap]
  constructor
  · intro hattached
    rcases hattached with ⟨call, hmem, hcall⟩
    cases call with
    | attachStage program attached =>
        cases hcall
        exact ⟨program, hmem⟩
    | _ => cases hcall
  · intro hattached
    rcases hattached with ⟨program, hmem⟩
    exact ⟨_, hmem, rfl⟩

/-- Whether a call uses only objects that the calls made. -/
def UsesMade (calls : List (DeviceCall S P)) (call : DeviceCall S P) : Prop :=
  (∀ stage, call.UsesStage stage → stage ∈ Ledger.stagesMade calls) ∧
  ∀ program, call.UsesProgram program → program ∈ Ledger.programsMade calls

/-- What stands after some calls: the stages that wait for their program, and
the programs that were made, all of them linked.  Nothing was used that the
calls did not make. -/
structure Standing (before : List (DeviceCall S P)) (waiting : List S)
    (programs : List P) : Prop where
  closed : ∀ call ∈ before, UsesMade before call
  unattached : Ledger.stagesMade before = stagesAttached before ++ waiting
  kept : ∀ stage ∈ waiting, .destroyStage stage ∉ before
  made : Ledger.programsMade before = programs
  linked : ∀ program ∈ programs,
    .linkProgram program (.ok ()) ∈ before ∧ .destroyProgram program ∉ before

theorem standing_nil : Standing ([] : List (DeviceCall S P)) [] [] := by
  constructor <;> simp [Ledger.stagesMade, Ledger.programsMade, stagesAttached]

variable {before later : List (DeviceCall S P)} {waiting : List S} {programs : List P}

theorem Standing.closed_append (hstanding : Standing before waiting programs)
    (hlater : ∀ call ∈ later, UsesMade (before ++ later) call) :
    ∀ call ∈ before ++ later, UsesMade (before ++ later) call := by
  intro call hmem
  rcases List.mem_append.mp hmem with hmem | hmem
  · obtain ⟨hstages, hprograms⟩ := hstanding.closed call hmem
    constructor
    · intro stage huses
      rw [Ledger.stagesMade_append]
      exact List.mem_append_left _ (hstages stage huses)
    · intro program huses
      rw [Ledger.programsMade_append]
      exact List.mem_append_left _ (hprograms program huses)
  · exact hlater call hmem

theorem Standing.created (hstanding : Standing before waiting programs) (kind : Stage)
    {stage : S} (hnew : stage ∉ Ledger.stagesMade before) :
    Standing (before ++ [.createStage kind (.ok stage)]) (waiting ++ [stage]) programs := by
  have hmade : Ledger.stagesMade
      ([.createStage kind (.ok stage)] : List (DeviceCall S P)) = [stage] := rfl
  constructor
  · apply hstanding.closed_append
    simp [UsesMade, DeviceCall.UsesStage, DeviceCall.UsesProgram, DeviceCall.LooksUp]
  · rw [Ledger.stagesMade_append, stagesAttached_append, hmade, hstanding.unattached]
    simp [stagesAttached]
  · intro other hother
    simp only [List.mem_append, List.mem_singleton, reduceCtorEq, or_false]
    intro hdestroyed
    rcases List.mem_append.mp hother with hother | hother
    · exact hstanding.kept other hother hdestroyed
    · rw [List.mem_singleton] at hother
      exact hnew ((hstanding.closed _ hdestroyed).1 stage hother)
  · rw [Ledger.programsMade_append, hstanding.made]
    simp [Ledger.programsMade]
  · intro program hmem
    simpa using hstanding.linked program hmem

/-- Calls that change nothing about what stands. -/
def DeviceCall.isIdle : DeviceCall S P → Bool
  | .createStage _ result => ! result.toBool
  | .compileStage .. => true
  | .createProgram result => ! result.toBool
  | _ => false

theorem Standing.idle (hstanding : Standing before waiting programs)
    {call : DeviceCall S P} (hidle : call.isIdle = true)
    (huses : ∀ stage, call.UsesStage stage → stage ∈ Ledger.stagesMade before) :
    Standing (before ++ [call]) waiting programs := by
  have hcall : Ledger.stagesMade [call] = [] ∧ stagesAttached [call] = [] ∧
      Ledger.programsMade [call] = [] := by
    rcases call with ⟨_, _ | _⟩ | _ | _ | ⟨_ | _⟩ | _ | _ | _ | _ | _ <;>
      first | exact ⟨rfl, rfl, rfl⟩ | cases hidle
  constructor
  · apply hstanding.closed_append
    intro used hmem
    rw [List.mem_singleton] at hmem
    subst hmem
    constructor
    · intro stage hstage
      rw [Ledger.stagesMade_append]
      exact List.mem_append_left _ (huses stage hstage)
    · intro program hprogram
      rcases used with _ | _ | _ | _ | _ | _ | _ | _ | _ <;>
        first | exact hprogram.elim | cases hidle
  · rw [Ledger.stagesMade_append, stagesAttached_append, hcall.1, hcall.2.1,
      List.append_nil, List.append_nil, hstanding.unattached]
  · intro stage hmem hdestroyed
    rcases List.mem_append.mp hdestroyed with hdestroyed | hdestroyed
    · exact hstanding.kept stage hmem hdestroyed
    · rw [List.mem_singleton] at hdestroyed
      subst hdestroyed
      cases hidle
  · rw [Ledger.programsMade_append, hcall.2.2, List.append_nil, hstanding.made]
  · intro program hmem
    obtain ⟨hlinked, hkept⟩ := hstanding.linked program hmem
    refine ⟨List.mem_append_left _ hlinked, ?_⟩
    intro hdestroyed
    rcases List.mem_append.mp hdestroyed with hdestroyed | hdestroyed
    · exact hkept hdestroyed
    · rw [List.mem_singleton] at hdestroyed
      subst hdestroyed
      cases hidle

theorem Standing.linkedNext (hstanding : Standing before waiting programs) {program : P}
    (hnew : program ∉ Ledger.programsMade before) :
    Standing
      (before ++ .createProgram (.ok program) ::
        (waiting.map (.attachStage program) ++ [.linkProgram program (.ok ())]))
      [] (programs ++ [program]) := by
  have hwaiting : ∀ stage ∈ waiting, stage ∈ Ledger.stagesMade before := by
    intro stage hmem
    rw [hstanding.unattached]
    exact List.mem_append_right _ hmem
  have hstages : Ledger.stagesMade (.createProgram (.ok program) ::
      (waiting.map (.attachStage program) ++ [.linkProgram program (.ok ())])) = [] := by
    simp [Ledger.stagesMade, List.filterMap_map]
  have hattached : stagesAttached (.createProgram (.ok program) ::
      (waiting.map (.attachStage program) ++ [.linkProgram program (.ok ())])) =
        waiting := by
    simp [stagesAttached, List.filterMap_map]
  have hprograms : Ledger.programsMade (.createProgram (.ok program) ::
      (waiting.map (.attachStage program) ++ [.linkProgram program (.ok ())])) =
        [program] := by
    simp [Ledger.programsMade, List.filterMap_map, Except.toOption]
  constructor
  · apply hstanding.closed_append
    simp only [UsesMade, Ledger.stagesMade_append, Ledger.programsMade_append, hstages,
      hprograms]
    simp +contextual [DeviceCall.UsesStage, DeviceCall.UsesProgram, DeviceCall.LooksUp,
      or_imp, forall_and, hwaiting]
  · rw [Ledger.stagesMade_append, stagesAttached_append, hstages, hattached,
      hstanding.unattached]
  · simp
  · rw [Ledger.programsMade_append, hprograms, hstanding.made]
  · intro other hmem
    rcases List.mem_append.mp hmem with hmem | hmem
    · obtain ⟨hlinked, hkept⟩ := hstanding.linked other hmem
      exact ⟨List.mem_append_left _ hlinked, by simpa using hkept⟩
    · rw [List.mem_singleton] at hmem
      subst hmem
      have hnotDestroyed : .destroyProgram other ∉ before := by
        intro hdestroyed
        exact hnew ((hstanding.closed _ hdestroyed).2 other rfl)
      simp [hnotDestroyed]

theorem Standing.released (hstanding : Standing before [] programs) {stages : List S}
    (hstages : ∀ stage ∈ stages, stage ∈ Ledger.stagesMade before) :
    Standing (before ++ stages.map .destroyStage) [] programs := by
  have hstagesMade : Ledger.stagesMade (stages.map .destroyStage : List (DeviceCall S P)) =
      [] := by
    simp [Ledger.stagesMade, List.filterMap_map]
  have hattached : stagesAttached (stages.map .destroyStage : List (DeviceCall S P)) =
      [] := by
    simp [stagesAttached, List.filterMap_map]
  have hprogramsMade :
      Ledger.programsMade (stages.map .destroyStage : List (DeviceCall S P)) = [] := by
    simp [Ledger.programsMade, List.filterMap_map]
  constructor
  · apply hstanding.closed_append
    simp +contextual [UsesMade, DeviceCall.UsesStage, DeviceCall.UsesProgram,
      DeviceCall.LooksUp, hstages]
  · rw [Ledger.stagesMade_append, stagesAttached_append, hstagesMade, hattached,
      hstanding.unattached]
  · simp
  · rw [Ledger.programsMade_append, hprogramsMade, hstanding.made, List.append_nil]
  · intro program hmem
    simpa using hstanding.linked program hmem

end ShaderFamilies
