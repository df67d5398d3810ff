import ShaderFamilies.Proofs.CallRules
import ShaderFamilies.Proofs.ResourceBalance

/-!
# Builds keep to the rules about calls

Each part of a build is taken from what stands before it to what stands after
it, and every call that it makes on the way is lawful where it is made.
-/

namespace ShaderFamilies

variable {S P : Type} {before later : List (DeviceCall S P)} {waiting : List S}
  {programs : List P}

/-! ## Builds are lawful -/

section

variable {variants : List Sources} {returned : List P} {after : List (DeviceCall S P)}

theorem CompiledAs.append {stage : S} {part : Stage × String}
    (hmade : CompiledAs before stage part) (later : List (DeviceCall S P)) :
    CompiledAs (before ++ later) stage part :=
  hmade.trans (List.prefix_append before later).isInfix

theorem MayGo.append_destroyStage {stage : S} (hgo : MayGo before stage) (other : S) :
    MayGo (before ++ [.destroyStage other]) stage := by
  rcases hgo with ⟨program, outcome, hattached, hlinked⟩ |
    ⟨hnone, earlier, failed, destroyed, hsplit, hfailed⟩
  · exact Or.inl ⟨program, outcome, List.mem_append_left _ hattached,
      List.mem_append_left _ hlinked⟩
  · refine Or.inr ⟨by simpa using hnone, earlier, failed, destroyed ++ [other], ?_, hfailed⟩
    simp [hsplit]

theorem destroyStages_lawful {stages : List S} (hnodup : stages.Nodup)
    (hstages : ∀ stage ∈ stages, stage ∈ Ledger.stagesMade before ∧
      .destroyStage stage ∉ before ∧ MayGo before stage) :
    Throughout (Lawful variants returned) before (stages.map .destroyStage) after := by
  induction stages generalizing before with
  | nil => trivial
  | cons stage rest ih =>
      obtain ⟨hfirst, hrest⟩ := List.nodup_cons.mp hnodup
      obtain ⟨hmade, hkept, hgo⟩ := hstages stage List.mem_cons_self
      refine ⟨⟨?_, ?_, hgo⟩, ih hrest ?_⟩
      · intro used huses
        rw [← show stage = used from huses]
        exact ⟨hmade, hkept⟩
      · intro program huses
        exact huses.elim
      · intro other hmem
        obtain ⟨hotherMade, hotherKept, hotherGo⟩ :=
          hstages other (List.mem_cons_of_mem stage hmem)
        refine ⟨?_, ?_, hotherGo.append_destroyStage stage⟩
        · rw [Ledger.stagesMade_append]
          exact List.mem_append_left _ hotherMade
        · intro hdestroyed
          rcases List.mem_append.mp hdestroyed with hdestroyed | hdestroyed
          · exact hotherKept hdestroyed
          · cases List.mem_singleton.mp hdestroyed
            exact hfirst hmem

/-- No handle was given for two objects. -/
structure Distinct (calls : List (DeviceCall S P)) : Prop where
  stages : (Ledger.stagesMade calls).Nodup
  programs : (Ledger.programsMade calls).Nodup

theorem Distinct.of_append {first second : List (DeviceCall S P)}
    (hdistinct : Distinct (first ++ second)) : Distinct first := by
  obtain ⟨hstages, hprograms⟩ := hdistinct
  rw [Ledger.stagesMade_append, List.nodup_append] at hstages
  rw [Ledger.programsMade_append, List.nodup_append] at hprograms
  exact ⟨hstages.1, hprograms.1⟩

theorem Distinct.stage_new {kind : Stage} {stage : S} {later : List (DeviceCall S P)}
    (hdistinct : Distinct (before ++ .createStage kind (.ok stage) :: later)) :
    stage ∉ Ledger.stagesMade before := by
  have hnodup := hdistinct.stages
  rw [Ledger.stagesMade_append, List.nodup_append] at hnodup
  intro hmem
  exact hnodup.2.2 stage hmem stage List.mem_cons_self rfl

theorem Distinct.program_new {program : P} {later : List (DeviceCall S P)}
    (hdistinct : Distinct (before ++ .createProgram (.ok program) :: later)) :
    program ∉ Ledger.programsMade before := by
  have hnodup := hdistinct.programs
  rw [Ledger.programsMade_append, List.nodup_append] at hnodup
  intro hmem
  exact hnodup.2.2 program hmem program List.mem_cons_self rfl

theorem Standing.waiting_nodup (hstanding : Standing before waiting programs)
    (hdistinct : Distinct before) : waiting.Nodup := by
  have hnodup := hdistinct.stages
  rw [hstanding.unattached, List.nodup_append] at hnodup
  exact hnodup.2.1

theorem Standing.not_attached (hstanding : Standing before waiting programs)
    (hdistinct : Distinct before) {stage : S} (hmem : stage ∈ waiting)
    (program : P) : .attachStage program stage ∉ before := by
  intro hattached
  have hnodup := hdistinct.stages
  rw [hstanding.unattached, List.nodup_append] at hnodup
  exact hnodup.2.2 stage (mem_stagesAttached.mpr ⟨program, hattached⟩) stage hmem rfl

theorem Standing.not_used (hstanding : Standing before waiting programs) {program : P}
    (hnew : program ∉ Ledger.programsMade before) {call : DeviceCall S P}
    (hmem : call ∈ before) : ¬ call.UsesProgram program := by
  intro huses
  exact hnew ((hstanding.closed call hmem).2 program huses)

theorem Standing.mem_made (hstanding : Standing before waiting programs) {stage : S}
    (hmem : stage ∈ waiting) : stage ∈ Ledger.stagesMade before := by
  rw [hstanding.unattached]
  exact List.mem_append_right _ hmem

/-- The stages that wait are destroyed right after a failure. -/
theorem Standing.destroyWaiting_lawful {failed : DeviceCall S P}
    (hstanding : Standing (before ++ [failed]) waiting programs) (hfailed : failed.Fails)
    (hdistinct : Distinct (before ++ [failed])) {stages : List S}
    (hstages : stages.Perm waiting) :
    Throughout (Lawful variants returned) (before ++ [failed]) (stages.map .destroyStage)
      after := by
  apply destroyStages_lawful
  · rw [hstages.nodup_iff]
    exact hstanding.waiting_nodup hdistinct
  · intro stage hmem
    have hwaiting := hstages.mem_iff.mp hmem
    refine ⟨hstanding.mem_made hwaiting, hstanding.kept stage hwaiting, Or.inr ⟨?_, ?_⟩⟩
    · exact hstanding.not_attached hdistinct hwaiting
    · exact ⟨before, failed, [], by simp, hfailed⟩

theorem createStage_lawful (kind : Stage) (stage : S) (text : String)
    (outcome : Except String Unit) (rest : List (DeviceCall S P)) :
    Lawful variants returned before (.createStage kind (.ok stage))
      (.compileStage stage text outcome :: rest) :=
  ⟨fun _ huses => huses.elim, fun _ huses => huses.elim, text, outcome, rfl⟩

theorem Standing.compileStage_lawful (hstanding : Standing before waiting programs)
    (kind : Stage) {stage : S} (hnew : stage ∉ Ledger.stagesMade before) (text : String)
    (outcome : Except String Unit) :
    Lawful variants returned (before ++ [.createStage kind (.ok stage)])
      (.compileStage stage text outcome) after := by
  constructor
  · intro used huses
    rw [← show stage = used from huses]
    constructor
    · rw [Ledger.stagesMade_append]
      exact List.mem_append_right _ List.mem_cons_self
    · intro hdestroyed
      have hbefore : .destroyStage stage ∈ before := by simpa using hdestroyed
      exact hnew ((hstanding.closed _ hbefore).1 stage rfl)
  · intro program huses
    exact huses.elim
  · refine ⟨⟨kind, by simp⟩, ?_⟩
    intro otherText other hcompiled
    have hbefore : .compileStage stage otherText other ∈ before := by simpa using hcompiled
    exact hnew ((hstanding.closed _ hbefore).1 stage rfl)

/-- Compiling keeps to the rules, and when it ends well its stages wait for
their program. -/
theorem Compiles.lawful {done : List S} {remaining : List (Stage × String)}
    {deeds : List (Deed S P)} {result : Except ShaderError (List S)}
    (hrun : Compiles done remaining deeds result)
    (hstanding : Standing before done programs)
    (hdistinct : Distinct (before ++ callsOf deeds)) :
    Throughout (Lawful variants returned) before (callsOf deeds) after ∧
      ∀ stages, result = .ok stages →
        Standing (before ++ callsOf deeds) stages programs ∧
        ∃ new, stages = done ++ new ∧
          List.Forall₂ (CompiledAs (before ++ callsOf deeds)) new remaining := by
  induction hrun generalizing before with
  | finished done =>
      refine ⟨trivial, ?_⟩
      intro stages hresult
      cases hresult
      exact ⟨by simpa using hstanding, [], by simp, .nil⟩
  | notCreated done kind text rest reason =>
      simp only [callsOf_call, callsOf_destroyStageDeeds] at hdistinct ⊢
      have hfailed : Standing (before ++ [.createStage kind (.error reason)]) done programs :=
        hstanding.idle rfl (by simp [DeviceCall.UsesStage])
      rw [List.append_cons] at hdistinct
      refine ⟨⟨⟨?_, ?_, trivial⟩, ?_⟩, ?_⟩
      · intro used huses
        exact huses.elim
      · intro program huses
        exact huses.elim
      · exact hfailed.destroyWaiting_lawful trivial hdistinct.of_append (.refl _)
      · intro stages hresult
        cases hresult
  | notCompiled done kind text rest stage diagnostic =>
      simp only [callsOf_call, callsOf_note, callsOf_destroyStageDeeds] at hdistinct ⊢
      have hnew := hdistinct.stage_new
      have hcreated := hstanding.created kind hnew
      have hfailed : Standing ((before ++ [.createStage kind (.ok stage)]) ++
          [.compileStage stage text (.error diagnostic)]) (done ++ [stage]) programs :=
        hcreated.idle rfl
          (by simp [DeviceCall.UsesStage, Ledger.stagesMade, Except.toOption])
      rw [List.append_cons, List.append_cons] at hdistinct
      refine ⟨⟨createStage_lawful kind stage text (.error diagnostic) _,
        hstanding.compileStage_lawful kind hnew text (.error diagnostic), ?_⟩, ?_⟩
      · exact hfailed.destroyWaiting_lawful trivial hdistinct.of_append
          (List.perm_append_singleton stage done).symm
      · intro stages hresult
        cases hresult
  | @compiled done kind text rest stage deeds result hrest ih =>
      simp only [callsOf_call, callsOf_note] at hdistinct ⊢
      have hnew := hdistinct.stage_new
      have hcreated := hstanding.created kind hnew
      have hcompiled : Standing ((before ++ [.createStage kind (.ok stage)]) ++
          [.compileStage stage text (.ok ())]) (done ++ [stage]) programs :=
        hcreated.idle rfl
          (by simp [DeviceCall.UsesStage, Ledger.stagesMade, Except.toOption])
      rw [List.append_cons, List.append_cons] at hdistinct ⊢
      obtain ⟨hlawful, hstages⟩ := ih hcompiled hdistinct
      refine ⟨⟨createStage_lawful kind stage text (.ok ()) _,
        hstanding.compileStage_lawful kind hnew text (.ok ()), hlawful⟩, ?_⟩
      intro stages hresult
      obtain ⟨hlast, new, hnewStages, hparts⟩ := hstages stages hresult
      refine ⟨hlast, stage :: new, by simp [hnewStages], .cons ?_ hparts⟩
      exact ⟨before, callsOf deeds, by simp⟩

theorem Standing.attachStages_lawful {program : P} {attached stages : List S}
    (hstanding : Standing before (attached ++ stages) programs)
    (hdistinct : Distinct before)
    (hnew : program ∉ Ledger.programsMade before)
    (hcompiled : ∀ stage ∈ stages, ∃ text, .compileStage stage text (.ok ()) ∈ before) :
    Throughout (Lawful variants returned)
      (before ++ .createProgram (.ok program) :: attached.map (.attachStage program))
      (stages.map (.attachStage program)) after := by
  induction stages generalizing attached with
  | nil => trivial
  | cons stage rest ih =>
      have hwaiting : stage ∈ attached ++ stage :: rest := by simp
      obtain ⟨text, hcompiledStage⟩ := hcompiled stage List.mem_cons_self
      have hnotAttached : stage ∉ attached := by
        intro hmem
        have hnodup := hstanding.waiting_nodup hdistinct
        rw [List.nodup_append] at hnodup
        exact hnodup.2.2 stage hmem stage List.mem_cons_self rfl
      refine ⟨⟨?_, ?_, ⟨before, attached, rfl⟩, ⟨text, by simp [hcompiledStage]⟩, ?_⟩, ?_⟩
      · intro used huses
        rw [← show stage = used from huses]
        refine ⟨?_, by simpa using hstanding.kept stage hwaiting⟩
        rw [Ledger.stagesMade_append]
        exact List.mem_append_left _ (hstanding.mem_made hwaiting)
      · intro used huses
        rw [← show program = used from huses]
        constructor
        · rw [Ledger.programsMade_append]
          exact List.mem_append_right _ List.mem_cons_self
        · intro hdestroyed
          have hbefore : .destroyProgram program ∈ before := by simpa using hdestroyed
          exact hstanding.not_used hnew hbefore rfl
      · intro other hmem
        have hbefore : .attachStage other stage ∈ before := by
          simpa [hnotAttached] using hmem
        exact hstanding.not_attached hdistinct hwaiting other hbefore
      · rw [List.append_cons] at hstanding
        have hrest := ih hstanding fun other hmem =>
          hcompiled other (List.mem_cons_of_mem stage hmem)
        simpa using hrest

theorem Standing.link_lawful {program : P} (hstanding : Standing before waiting programs)
    (hdistinct : Distinct before)
    (hnew : program ∉ Ledger.programsMade before) {sources : Sources}
    (hsources : variants[programs.length]? = some sources)
    (hparts : List.Forall₂ (CompiledAs before) waiting sources.stages)
    (outcome : Except String Unit) :
    Throughout (Lawful variants returned) before
      (.createProgram (.ok program) ::
        (waiting.map (.attachStage program) ++ [.linkProgram program outcome])) after := by
  have hcompiled : ∀ stage ∈ waiting,
      ∃ text, .compileStage stage text (.ok ()) ∈ before := by
    intro stage hmem
    obtain ⟨hlength, hall⟩ := List.forall₂_iff_get.mp hparts
    obtain ⟨index, hindex, hstage⟩ := List.getElem_of_mem hmem
    obtain ⟨part, hpart⟩ : ∃ part, CompiledAs before waiting[index] part :=
      ⟨_, hall index hindex (hlength ▸ hindex)⟩
    rw [hstage] at hpart
    exact ⟨part.2, hpart.subset (by simp)⟩
  refine ⟨⟨?_, ?_, ?_⟩, ?_⟩
  · intro used huses
    exact huses.elim
  · intro used huses
    exact huses.elim
  · refine ⟨sources, waiting, outcome, after, ?_, hstanding.unattached, hparts, by simp⟩
    rw [hstanding.made]
    exact hsources
  · rw [throughout_append]
    have hwaiting : Standing before ([] ++ waiting) programs := hstanding
    refine ⟨hwaiting.attachStages_lawful hdistinct hnew hcompiled, ?_, trivial⟩
    constructor
    · intro used huses
      exact huses.elim
    · intro used huses
      rw [← show program = used from huses]
      constructor
      · simp [Ledger.programsMade, Except.toOption]
      · intro hdestroyed
        have hbefore : .destroyProgram program ∈ before := by simpa using hdestroyed
        exact hstanding.not_used hnew hbefore rfl
    · refine ⟨⟨before, waiting, by simp⟩, ?_⟩
      intro other hlinked
      have hbefore : .linkProgram program other ∈ before := by simpa using hlinked
      exact hstanding.not_used hnew hbefore rfl

/-- Linking keeps to the rules. -/
theorem Links.lawful {stages : List S} {deeds : List (Deed S P)}
    {result : Except ShaderError P} (hrun : Links stages deeds result)
    (hstanding : Standing before stages programs)
    (hdistinct : Distinct (before ++ callsOf deeds))
    {sources : Sources} (hsources : variants[programs.length]? = some sources)
    (hparts : List.Forall₂ (CompiledAs before) stages sources.stages) :
    Throughout (Lawful variants returned) before (callsOf deeds) after := by
  cases hrun with
  | notCreated reason =>
      refine ⟨⟨?_, ?_, trivial⟩, trivial⟩
      · intro used huses
        exact huses.elim
      · intro used huses
        exact huses.elim
  | notLinked program diagnostic =>
      simp only [callsOf_call, callsOf_append, callsOf_attachDeeds, callsOf_note,
        callsOf_nil] at hdistinct ⊢
      have hnew := hdistinct.program_new
      have hlink : Throughout (Lawful variants returned) before
          (.createProgram (.ok program) :: (stages.map (.attachStage program) ++
            [.linkProgram program (.error diagnostic)])) (.destroyProgram program :: after) :=
        hstanding.link_lawful hdistinct.of_append hnew hsources hparts (.error diagnostic)
      have hcalls : (.createProgram (.ok program) :: (stages.map (.attachStage program) ++
          [.linkProgram program (.error diagnostic), .destroyProgram program])) =
          (.createProgram (.ok program) :: (stages.map (.attachStage program) ++
            [.linkProgram program (.error diagnostic)])) ++
            [(.destroyProgram program : DeviceCall S P)] := by
        simp
      rw [hcalls, throughout_append]
      refine ⟨hlink, ⟨?_, ?_, .error diagnostic, by simp⟩, trivial⟩
      · intro used huses
        exact huses.elim
      · intro used huses
        rw [← show program = used from huses]
        constructor
        · simp [Ledger.programsMade, Except.toOption]
        · intro hdestroyed
          have hbefore : .destroyProgram program ∈ before := by simpa using hdestroyed
          exact hstanding.not_used hnew hbefore rfl
  | linked program =>
      simp only [callsOf_call, callsOf_append, callsOf_attachDeeds, callsOf_note,
        callsOf_nil] at hdistinct ⊢
      exact hstanding.link_lawful hdistinct.of_append hdistinct.program_new hsources hparts _

theorem Links.release_lawful {stages : List S} {deeds : List (Deed S P)}
    {result : Except ShaderError P} (hrun : Links stages deeds result)
    (hstanding : Standing before stages programs)
    (hdistinct : Distinct (before ++ callsOf deeds)) :
    Throughout (Lawful variants returned) (before ++ callsOf deeds)
      (stages.map .destroyStage) after := by
  have hstages := hstanding.waiting_nodup hdistinct.of_append
  cases hrun with
  | notCreated reason =>
      have hfailed : Standing (before ++ [.createProgram (.error reason)]) stages programs :=
        hstanding.idle rfl (by simp [DeviceCall.UsesStage])
      exact hfailed.destroyWaiting_lawful trivial hdistinct (.refl stages)
  | notLinked program | linked program =>
      apply destroyStages_lawful hstages
      intro stage hmem
      refine ⟨?_, by simpa using hstanding.kept stage hmem, Or.inl ⟨program, ?_⟩⟩
      · rw [Ledger.stagesMade_append]
        exact List.mem_append_left _ (hstanding.mem_made hmem)
      · simp [hmem]

theorem Links.standing {stages : List S} {deeds : List (Deed S P)} {program : P}
    (hrun : Links stages deeds (.ok program)) (hstanding : Standing before stages programs)
    (hdistinct : Distinct (before ++ callsOf deeds)) :
    Standing (before ++ callsOf deeds) [] (programs ++ [program]) := by
  cases hrun
  simp only [callsOf_call, callsOf_append, callsOf_attachDeeds, callsOf_note, callsOf_nil]
    at hdistinct ⊢
  exact hstanding.linkedNext hdistinct.program_new

/-- Building a program keeps to the rules.  When it ends well no stage waits, and
there is one program more. -/
theorem BuildsProgram.lawful {release : Bool} {sources : Sources}
    {deeds : List (Deed S P)} {result : Except ShaderError P}
    (hrun : BuildsProgram release sources deeds result)
    (hstanding : Standing before [] programs)
    (hdistinct : Distinct (before ++ callsOf deeds))
    (hsources : variants[programs.length]? = some sources) :
    Throughout (Lawful variants returned) before (callsOf deeds) after ∧
      ∀ program, result = .ok program →
        Standing (before ++ callsOf deeds) [] (programs ++ [program]) := by
  cases hrun with
  | notCompiled hcompile =>
      refine ⟨(hcompile.lawful hstanding hdistinct).1, ?_⟩
      intro program hresult
      cases hresult
  | @compiled deeds later stages _ hcompile hlink =>
      simp only [callsOf_append, ← List.append_assoc] at hdistinct ⊢
      have hlinkDistinct := hdistinct.of_append
      have hcompileDistinct := hlinkDistinct.of_append
      obtain ⟨hcompileLawful, hcompiled⟩ := hcompile.lawful hstanding hcompileDistinct
      obtain ⟨hwaiting, new, hnew, hparts⟩ := hcompiled stages rfl
      rw [List.nil_append] at hnew
      subst hnew
      refine ⟨?_, ?_⟩
      · rw [throughout_append, throughout_append]
        refine ⟨⟨hcompileLawful, hlink.lawful hwaiting hlinkDistinct hsources hparts⟩, ?_⟩
        cases release with
        | false => trivial
        | true =>
            rw [if_pos rfl, callsOf_destroyStageDeeds, ← List.append_assoc]
            exact hlink.release_lawful hwaiting hlinkDistinct
      · intro program hresult
        subst hresult
        have hlinked := hlink.standing hwaiting hlinkDistinct
        cases release with
        | false => simpa using hlinked
        | true =>
            rw [if_pos rfl, callsOf_destroyStageDeeds]
            apply hlinked.released
            intro stage hmem
            rw [Ledger.stagesMade_append]
            exact List.mem_append_left _ (hwaiting.mem_made hmem)

theorem Compiles.not_usesProgram {done : List S} {remaining : List (Stage × String)}
    {deeds : List (Deed S P)} {result : Except ShaderError (List S)}
    (hrun : Compiles done remaining deeds result) (program : P) :
    ∀ call ∈ callsOf deeds, ¬ call.UsesProgram program := by
  induction hrun <;>
    simp_all [DeviceCall.UsesProgram, DeviceCall.LooksUp]

/-- A program that is destroyed while one is built is the one that was made. -/
theorem BuildsProgram.mem_made_of_destroyed {release : Bool} {sources : Sources}
    {deeds : List (Deed S P)} {result : Except ShaderError P}
    (hrun : BuildsProgram release sources deeds result) {program : P}
    (hdestroyed : .destroyProgram program ∈ callsOf deeds) :
    program ∈ Ledger.programsMade (callsOf deeds) := by
  cases hrun with
  | notCompiled hcompile =>
      exact absurd rfl (hcompile.not_usesProgram program _ hdestroyed)
  | @compiled deeds later stages _ hcompile hlink =>
      simp only [callsOf_append, List.mem_append] at hdestroyed
      rw [callsOf_append, callsOf_append, Ledger.programsMade_append,
        Ledger.programsMade_append]
      rcases hdestroyed with hdestroyed | hdestroyed | hdestroyed
      · exact absurd rfl (hcompile.not_usesProgram program _ hdestroyed)
      · apply List.mem_append_right
        apply List.mem_append_left
        cases hlink <;> simp_all [Ledger.programsMade, Except.toOption]
      · cases release <;> simp at hdestroyed

theorem destroyPrograms_lawful {programs : List P} (hnodup : programs.Nodup)
    (hprograms : ∀ program ∈ programs, program ∈ Ledger.programsMade before ∧
      .destroyProgram program ∉ before ∧ .linkProgram program (.ok ()) ∈ before) :
    Throughout (Lawful variants returned) before (programs.map .destroyProgram) after := by
  induction programs generalizing before with
  | nil => trivial
  | cons program rest ih =>
      obtain ⟨hfirst, hrest⟩ := List.nodup_cons.mp hnodup
      obtain ⟨hmade, hkept, hlinked⟩ := hprograms program List.mem_cons_self
      refine ⟨⟨?_, ?_, .ok (), hlinked⟩, ih hrest ?_⟩
      · intro stage huses
        exact huses.elim
      · intro used huses
        rw [← show program = used from huses]
        exact ⟨hmade, hkept⟩
      · intro other hmem
        obtain ⟨hotherMade, hotherKept, hotherLinked⟩ :=
          hprograms other (List.mem_cons_of_mem program hmem)
        refine ⟨?_, ?_, List.mem_append_left _ hotherLinked⟩
        · rw [Ledger.programsMade_append]
          exact List.mem_append_left _ hotherMade
        · intro hdestroyed
          rcases List.mem_append.mp hdestroyed with hdestroyed | hdestroyed
          · exact hotherKept hdestroyed
          · cases List.mem_singleton.mp hdestroyed
            exact hfirst hmem

/-- Building the variants keeps to the rules, and when it ends well all that
stands are the programs. -/
theorem BuildsVariants.lawful {release : Bool} {family : Family} {done : List P}
    {remaining : List Sources} {deeds : List (Deed S P)}
    {result : Except ShaderError (List P)}
    (hrun : BuildsVariants release family done remaining deeds result)
    (hstanding : Standing before [] done) (hdistinct : Distinct (before ++ callsOf deeds))
    (hvariants : variants.drop done.length = remaining) :
    Throughout (Lawful variants returned) before (callsOf deeds) after ∧
      ∀ all, result = .ok all → Standing (before ++ callsOf deeds) [] all := by
  induction hrun generalizing before with
  | finished done =>
      refine ⟨trivial, ?_⟩
      intro all hall
      cases hall
      simpa using hstanding
  | @failed done sources rest deeds error hbuild =>
      rw [callsOf_append, callsOf_note, callsOf_destroyProgramDeeds, ← List.append_assoc]
        at hdistinct
      rw [callsOf_append, callsOf_note, callsOf_destroyProgramDeeds, throughout_append]
      have hbuildDistinct := hdistinct.of_append
      have hsources : variants[done.length]? = some sources := by
        rw [← List.head?_drop, hvariants, List.head?_cons]
      refine ⟨⟨(hbuild.lawful hstanding hbuildDistinct hsources).1, ?_⟩, ?_⟩
      · have hnodup := hbuildDistinct.programs
        rw [Ledger.programsMade_append, hstanding.made, List.nodup_append] at hnodup
        apply destroyPrograms_lawful hnodup.1
        intro program hmem
        obtain ⟨hlinked, hkept⟩ := hstanding.linked program hmem
        refine ⟨?_, ?_, List.mem_append_left _ hlinked⟩
        · rw [Ledger.programsMade_append, hstanding.made]
          exact List.mem_append_left _ hmem
        · intro hdestroyed
          rcases List.mem_append.mp hdestroyed with hdestroyed | hdestroyed
          · exact hkept hdestroyed
          · exact hnodup.2.2 program hmem program (hbuild.mem_made_of_destroyed hdestroyed) rfl
      · intro all hall
        cases hall
  | @built done sources rest deeds later program result hbuild hrest ih =>
      rw [callsOf_append, callsOf_note, ← List.append_assoc] at hdistinct
      rw [callsOf_append, callsOf_note, throughout_append, ← List.append_assoc]
      have hsources : variants[done.length]? = some sources := by
        rw [← List.head?_drop, hvariants, List.head?_cons]
      have hleft : variants.drop (done ++ [program]).length = rest := by
        rw [List.length_append, List.length_singleton, ← List.tail_drop, hvariants,
          List.tail_cons]
      obtain ⟨hlawful, hbuilt⟩ := hbuild.lawful hstanding hdistinct.of_append hsources
      obtain ⟨hlater, hall⟩ := ih (hbuilt program rfl) hdistinct hleft
      exact ⟨⟨hlawful, hlater⟩, hall⟩

theorem DeviceCall.LooksUp.unique {call : DeviceCall S P} {program other : P}
    (hcall : call.LooksUp program) (hother : call.LooksUp other) : program = other := by
  cases call <;> first | exact hcall.elim | exact hcall.symm.trans hother

theorem DeviceCall.LooksUp.usesProgram {call : DeviceCall S P} {program other : P}
    (hcall : call.LooksUp program) (huses : call.UsesProgram other) : other = program := by
  cases call <;> first | exact hcall.elim | exact huses.symm.trans hcall

/-- Whether names can be looked up in the program. -/
def Ready (before : List (DeviceCall S P)) (program : P) : Prop :=
  program ∈ Ledger.programsMade before ∧ .linkProgram program (.ok ()) ∈ before ∧
    .destroyProgram program ∉ before

theorem Ready.append {calls : List (DeviceCall S P)} {program other : P}
    (hready : Ready before program) (hcalls : ∀ call ∈ calls, call.LooksUp other) :
    Ready (before ++ calls) program := by
  obtain ⟨hmade, hlinked, hkept⟩ := hready
  refine ⟨?_, List.mem_append_left _ hlinked, ?_⟩
  · rw [Ledger.programsMade_append]
    exact List.mem_append_left _ hmade
  · intro hdestroyed
    rcases List.mem_append.mp hdestroyed with hdestroyed | hdestroyed
    · exact hkept hdestroyed
    · exact hcalls _ hdestroyed

/-- No name was looked up in the programs. -/
def Unlooked (before : List (DeviceCall S P)) (programs : List P) : Prop :=
  ∀ call ∈ before, ∀ program ∈ programs, ¬ call.LooksUp program

theorem Unlooked.append {calls : List (DeviceCall S P)} {program : P} {rest : List P}
    (hbefore : Unlooked before rest) (hcalls : ∀ call ∈ calls, call.LooksUp program)
    (hnotMem : program ∉ rest) : Unlooked (before ++ calls) rest := by
  intro call hmem other hother hlooks
  rcases List.mem_append.mp hmem with hmem | hmem
  · exact hbefore call hmem other hother hlooks
  · rw [(hcalls call hmem).unique hlooks] at hnotMem
    exact hnotMem hother

/-- Names are looked up in a linked program of the result, before the turn of
the programs behind it. -/
theorem lookups_lawful {calls : List (DeviceCall S P)} {done rest : List P} {program : P}
    (hcalls : ∀ call ∈ calls, call.LooksUp program)
    (hreturned : returned = done ++ program :: rest) (hnodup : returned.Nodup)
    (hready : Ready before program) (hunlooked : Unlooked before rest) :
    Throughout (Lawful variants returned) before calls after := by
  have hapart : program ∉ done ∧ program ∉ rest := by
    rw [hreturned, List.nodup_middle, List.nodup_cons, List.mem_append, not_or] at hnodup
    exact hnodup.1
  induction calls generalizing before with
  | nil => trivial
  | cons call later ih =>
      have hcall := hcalls call List.mem_cons_self
      have hplace : .linkProgram program (.ok ()) ∈ before ∧ program ∈ returned ∧
          ∀ first last, returned = first ++ program :: last →
            ∀ call ∈ before, ∀ other ∈ last, ¬ call.LooksUp other := by
        refine ⟨hready.2.1, by simp [hreturned], ?_⟩
        intro first last hsplit
        rw [hreturned] at hsplit
        have hparts := (List.append_cons_inj_of_notMem hapart.1 hapart.2).mp hsplit
        rw [← hparts.2.2]
        exact hunlooked
      refine ⟨⟨?_, ?_, ?_⟩, ih ?_ ?_ ?_⟩
      · intro stage huses
        cases call <;> first | exact hcall.elim | exact huses.elim
      · intro used huses
        rw [hcall.usesProgram huses]
        exact ⟨hready.1, hready.2.2⟩
      · cases call <;> first
          | exact hcall.elim
          | rw [← show _ = program from hcall] at hplace
            exact hplace
      · intro other hmem
        exact hcalls other (List.mem_cons_of_mem call hmem)
      · have hlooks : ∀ looked ∈ [call], looked.LooksUp program := by simpa using hcall
        exact hready.append hlooks
      · exact hunlooked.append (by simpa using hcall) hapart.2

theorem LooksUp.lawful {programs : List P} {deeds : List (Deed S P)}
    (hlook : LooksUp programs deeds) {done : List P} (hreturned : returned = done ++ programs)
    (hnodup : returned.Nodup) (hready : ∀ program ∈ programs, Ready before program)
    (hunlooked : Unlooked before programs) :
    Throughout (Lawful variants returned) before (callsOf deeds) after := by
  induction hlook generalizing before done with
  | finished => trivial
  | @looked program rest deeds later hdeeds hrest ih =>
      rw [callsOf_append, throughout_append]
      have hcalls : ∀ call ∈ callsOf deeds, call.LooksUp program := by
        intro call hmem
        have hlooks := hdeeds _ (mem_callsOf.mp hmem)
        cases call <;> exact hlooks
      have hunlookedRest : Unlooked before rest := by
        intro call hmem other hother
        exact hunlooked call hmem other (List.mem_cons_of_mem program hother)
      have hnotMem : program ∉ rest := by
        rw [hreturned] at hnodup
        exact (List.nodup_cons.mp (List.nodup_append.mp hnodup).2.1).1
      constructor
      · exact lookups_lawful hcalls hreturned hnodup (hready program List.mem_cons_self)
          hunlookedRest
      · have hbehind : returned = (done ++ [program]) ++ rest := by
          rw [hreturned, List.append_assoc, List.singleton_append]
        apply ih hbehind
        · intro other hmem
          exact (hready other (List.mem_cons_of_mem program hmem)).append hcalls
        · exact hunlookedRest.append hcalls hnotMem

/-- Where nothing is returned, lawful calls look up nothing. -/
theorem unlooked_of_lawful {calls : List (DeviceCall S P)}
    (hcalls : Throughout (Lawful variants []) [] calls after) (programs : List P) :
    Unlooked calls programs := by
  intro call hmem program _ hlooks
  obtain ⟨earlier, later, hsplit⟩ := List.append_of_mem hmem
  have hplace := (hcalls.at hsplit).place
  cases call <;> first | exact hlooks.elim | exact absurd hplace.2.1 (by simp)

end

/-- The variants that a build of the family makes of its files. -/
def FileTree.variants (files : FileTree) (paths : Paths) (family : Family)
    (config : Configuration) : List Sources :=
  match files.sources paths with
  | .ok templates => family.variants config templates
  | .error _ => []

theorem BuildsFamily.lawful {files : FileTree} {paths : Paths} {release : Bool}
    {family : Family} {config : Configuration} {deeds : List (Deed S P)}
    {result : Except ShaderError (List (LinkedProgram P))}
    (hrun : BuildsFamily files paths release family (family.plans config) deeds result)
    (hdistinct : Distinct (callsOf deeds)) :
    Throughout (Lawful (files.variants paths family config)
      (programsOf (result.toOption.getD []))) [] (callsOf deeds) [] := by
  unfold FileTree.variants
  cases hrun with
  | unread hload => trivial
  | failed hload hbuild =>
      rw [hload]
      exact (hbuild.lawful standing_nil hdistinct rfl).1
  | @built templates deeds later programs linked hload hbuild hlook hlinked =>
      rw [hload]
      rw [callsOf_note, callsOf_append] at hdistinct ⊢
      have hbuildDistinct : Distinct ([] ++ callsOf deeds) := hdistinct.of_append
      have hlawful (returned : List P) (after : List (DeviceCall S P)) :
          Throughout (Lawful (family.variants config templates) returned) []
              (callsOf deeds) after ∧
            ∀ all, Except.ok programs = .ok all → Standing ([] ++ callsOf deeds) [] all :=
        hbuild.lawful standing_nil hbuildDistinct rfl
      have hstanding := (hlawful [] []).2 programs rfl
      rw [List.nil_append] at hstanding
      have hreturned : programsOf ((Except.ok linked : Except ShaderError _).toOption.getD []) =
          [] ++ programs := hlinked
      rw [throughout_append]
      refine ⟨(hlawful _ _).1, hlook.lawful hreturned ?_ ?_ ?_⟩
      · rw [hreturned, List.nil_append, ← hstanding.made]
        exact hbuildDistinct.programs
      · intro program hmem
        obtain ⟨hlink, hkept⟩ := hstanding.linked program hmem
        exact ⟨hstanding.made.symm ▸ hmem, hlink, hkept⟩
      · exact unlooked_of_lawful (hlawful [] []).1 programs

theorem Ledger.Fresh.distinct {ledger : Ledger S P} {calls : List (DeviceCall S P)}
    (hfresh : ledger.Fresh calls) : Distinct calls := by
  have hall : (stagesMade calls).Nodup ∧ (programsMade calls).Nodup ∧
      (∀ stage ∈ stagesMade calls, stage ∉ ledger.stages.issued) ∧
      ∀ program ∈ programsMade calls, program ∉ ledger.programs.issued := by
    induction calls generalizing ledger with
    | nil => simp [stagesMade, programsMade]
    | cons call rest ih =>
        obtain ⟨hadmits, hrest⟩ := hfresh
        obtain ⟨hstages, hprograms, hnewStages, hnewPrograms⟩ := ih hrest
        rcases call with ⟨kind, _ | stage⟩ | _ | _ | ⟨_ | program⟩ | _ | _ | _ | _ | _
        case createStage.ok =>
          refine ⟨List.nodup_cons.mpr ⟨?_, hstages⟩, hprograms, ?_, hnewPrograms⟩
          · intro hmem
            exact hnewStages stage hmem (Set.mem_insert stage _)
          · intro other hmem
            rcases List.mem_cons.mp hmem with heq | hmem
            · rw [heq]
              exact hadmits.2
            · intro hissued
              exact hnewStages other hmem (Set.mem_insert_of_mem stage hissued)
        case createProgram.ok =>
          refine ⟨hstages, List.nodup_cons.mpr ⟨?_, hprograms⟩, hnewStages, ?_⟩
          · intro hmem
            exact hnewPrograms program hmem (Set.mem_insert program _)
          · intro other hmem
            rcases List.mem_cons.mp hmem with heq | hmem
            · rw [heq]
              exact hadmits.2
            · intro hissued
              exact hnewPrograms other hmem (Set.mem_insert_of_mem program hissued)
        all_goals exact ⟨hstages, hprograms, hnewStages, hnewPrograms⟩
  exact ⟨hall.1, hall.2.1⟩

/-- Every call that the build of a family makes is lawful where it stands, if
the device gives out handles that nothing holds. -/
theorem observeFamily_lawful {σ : Type} (device : Device σ S P) (config : Configuration)
    (release : Bool) (family : Family) (paths : Paths) (files : FileTree) (state : σ)
    (before : Ledger S P)
    (hfresh : before.Fresh
      (observeFamily device config release family paths files state).calls) :
    let build := observeFamily device config release family paths files state
    ∀ earlier call later, build.calls = earlier ++ call :: later →
      Lawful (files.variants paths family config)
        (programsOf (build.result.toOption.getD [])) earlier call later := by
  intro build earlier call later hsplit
  obtain ⟨deeds, hrun, hcalls⟩ :=
    observeFamily_builds device files config release family paths state
  have hdistinct : Distinct (callsOf deeds) := hcalls ▸ hfresh.distinct
  rw [show build.calls = callsOf deeds from hcalls] at hsplit
  simpa using (hrun.lawful hdistinct).at hsplit

theorem observeFamily_lawful_blur :
    heldBefore.Fresh (markerBlur true).calls ∧
      ∃ earlier later, (markerBlur true).calls =
          earlier ++ .createProgram (.ok 2) :: later ∧
        Lawful (markerFiles.variants { vertex := "v", fragment := "f" } .blur {})
          (programsOf ((markerBlur true).result.toOption.getD [])) earlier
          (.createProgram (.ok 2)) later := by
  have hfresh : heldBefore.Fresh (markerBlur true).calls :=
    Ledger.holding_fresh (by decide +kernel) (by decide +kernel)
  have hcreated : .createProgram (.ok 2) ∈ (markerBlur true).calls := by
    have hmade : 2 ∈ Ledger.programsMade (markerBlur true).calls := by decide +kernel
    exact Ledger.mem_programsMade.mp hmade
  obtain ⟨earlier, later, hsplit⟩ := List.append_of_mem hcreated
  refine ⟨hfresh, earlier, later, hsplit, ?_⟩
  unfold markerBlur at hfresh hsplit ⊢
  exact observeFamily_lawful scriptedDevice {} true .blur
    { vertex := "v", fragment := "f" } markerFiles secondLinkFails heldBefore hfresh
    earlier _ later hsplit

end ShaderFamilies
