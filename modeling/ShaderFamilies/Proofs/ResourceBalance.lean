import ShaderFamilies.Proofs.BuildConduct
import ShaderFamilies.Proofs.ObjectLedger
import ShaderFamilies.ScriptedDevice

/-!
# The objects that a build leaves behind

A build that succeeds leaves the programs that it returns, and the stages of
these programs if stages are kept.  A build that fails leaves no program, and
no stage either if stages are released.  If stages are kept, a build that fails
leaves the stages of every variant whose program it had begun to make, although
it returns none of them.
-/

namespace ShaderFamilies

variable {S P : Type} {base ledger : Ledger S P} {kept : List S} {programs : List P}

/-! ## Which stages the calls compile and attach -/

/-- The stages that the calls compile with success are the listed ones, and the
same stages are attached, to listed programs. -/
structure Uses (calls : List (DeviceCall S P)) (programs : List P) (stages : List S) :
    Prop where
  compiled : ∀ stage, (∃ text, .compileStage stage text (.ok ()) ∈ calls) ↔ stage ∈ stages
  attached : ∀ stage, (∃ program, .attachStage program stage ∈ calls) ↔ stage ∈ stages
  owned : ∀ program stage, .attachStage program stage ∈ calls → program ∈ programs

theorem Uses.append {first second : List (DeviceCall S P)} {firstPrograms : List P}
    {secondPrograms : List P} {firstStages secondStages : List S}
    (hfirst : Uses first firstPrograms firstStages)
    (hsecond : Uses second secondPrograms secondStages) :
    Uses (first ++ second) (firstPrograms ++ secondPrograms)
      (firstStages ++ secondStages) := by
  constructor
  · intro stage
    simp only [List.mem_append, exists_or, hfirst.compiled, hsecond.compiled]
  · intro stage
    simp only [List.mem_append, exists_or, hfirst.attached, hsecond.attached]
  · intro program stage hmem
    rcases List.mem_append.mp hmem with hmem | hmem
    · exact List.mem_append_left _ (hfirst.owned program stage hmem)
    · exact List.mem_append_right _ (hsecond.owned program stage hmem)

theorem uses_nothing {calls : List (DeviceCall S P)}
    (hcompile : ∀ stage text, .compileStage stage text (.ok ()) ∉ calls)
    (hattach : ∀ program stage, .attachStage program stage ∉ calls) :
    Uses calls [] [] := by
  constructor
  · intro stage
    simp [hcompile stage]
  · intro stage
    simp [fun program => hattach program stage]
  · intro program stage hmem
    exact absurd hmem (hattach program stage)

/-- The stages that calls compiled and attached to one of the programs. -/
def stagesOf (calls : List (DeviceCall S P)) (programs : List P) : Set S :=
  {stage | (∃ text, .compileStage stage text (.ok ()) ∈ calls) ∧
    ∃ program ∈ programs, .attachStage program stage ∈ calls}

theorem Uses.stagesOf_eq {calls : List (DeviceCall S P)} {stages : List S}
    (huses : Uses calls programs stages) :
    stagesOf calls programs = {stage | stage ∈ stages} := by
  ext stage
  constructor
  · intro hboth
    rcases hboth with ⟨hcompiled, _⟩
    exact (huses.compiled stage).mp hcompiled
  · intro hmem
    obtain ⟨program, hattached⟩ := (huses.attached stage).mpr hmem
    exact ⟨(huses.compiled stage).mpr hmem, program,
      huses.owned program stage hattached, hattached⟩

/-! ## Compiling -/

theorem Compiles.balance {done : List S} {remaining : List (Stage × String)}
    {deeds : List (Deed S P)} {result : Except ShaderError (List S)}
    (hrun : Compiles done remaining deeds result)
    (hledger : base.Extends ledger (kept ++ done) programs)
    (hfresh : ledger.Fresh (callsOf deeds)) :
    base.Reaches ledger (callsOf deeds) (kept ++ result.toOption.getD []) programs := by
  induction hrun generalizing ledger with
  | finished done => exact hledger.reaches_nil
  | notCreated done kind text rest reason =>
      simp only [callsOf_call, callsOf_destroyStageDeeds, Except.toOption,
        Option.getD_none, List.append_nil]
      exact .silent_cons trivial (hledger.reaches_destroyStages done)
  | notCompiled done kind text rest stage diagnostic =>
      simp only [callsOf_call, callsOf_note, callsOf_destroyStageDeeds, Except.toOption,
        Option.getD_none, List.append_nil] at hfresh ⊢
      have hcreated := hledger.createStage hfresh.1
      have hleft := hcreated.reaches_destroyStages [stage]
      exact .cons trivial
        (.silent_cons trivial (.append hleft (hleft.extended.reaches_destroyStages done)))
  | compiled kind text stage hrest ih =>
      simp only [callsOf_call, callsOf_note] at hfresh ⊢
      have hcreated := hledger.createStage hfresh.1
      rw [List.append_assoc] at hcreated
      exact .cons trivial (.silent_cons trivial (ih hcreated hfresh.2.2))

theorem Compiles.compiled_iff {done : List S} {remaining : List (Stage × String)}
    {deeds : List (Deed S P)} {result : Except ShaderError (List S)}
    (hrun : Compiles done remaining deeds result) {stages : List S}
    (hresult : result = .ok stages) (stage : S) :
    stage ∈ stages ↔
      stage ∈ done ∨ ∃ text, .compileStage stage text (.ok ()) ∈ callsOf deeds := by
  induction hrun with
  | finished done =>
      cases hresult
      simp
  | notCreated done kind text rest reason => cases hresult
  | notCompiled done kind text rest stage diagnostic => cases hresult
  | compiled kind text made hrest ih =>
      rw [ih hresult]
      simp only [List.mem_append, callsOf_call, callsOf_note, List.mem_cons,
        reduceCtorEq, false_or, DeviceCall.compileStage.injEq, and_true,
        exists_or, or_assoc]
      simp

theorem Compiles.length_eq {done : List S} {remaining : List (Stage × String)}
    {deeds : List (Deed S P)} {result : Except ShaderError (List S)}
    (hrun : Compiles done remaining deeds result) {stages : List S}
    (hresult : result = .ok stages) :
    stages.length = done.length + remaining.length := by
  induction hrun with
  | finished done =>
      cases hresult
      rfl
  | notCreated done kind text rest reason => cases hresult
  | notCompiled done kind text rest stage diagnostic => cases hresult
  | compiled kind text made hrest ih =>
      rw [ih hresult]
      simp only [List.length_append, List.length_cons, List.length_nil]
      omega

/-- Compiling concerns no program. -/
theorem Compiles.not_mem {done : List S} {remaining : List (Stage × String)}
    {deeds : List (Deed S P)} {result : Except ShaderError (List S)}
    (hrun : Compiles done remaining deeds result) :
    (∀ outcome, .createProgram outcome ∉ callsOf deeds) ∧
      ∀ program stage, .attachStage program stage ∉ callsOf deeds := by
  induction hrun with
  | finished done => simp
  | notCreated done kind text rest reason => simp
  | notCompiled done kind text rest stage diagnostic => simp
  | compiled kind text made hrest ih => simpa using ih

/-! ## Linking -/

theorem Links.balance {stages left : List S} {deeds : List (Deed S P)}
    {result : Except ShaderError P} (hrun : Links stages deeds result)
    (hledger : base.Extends ledger left programs)
    (hfresh : ledger.Fresh (callsOf deeds)) :
    base.Reaches ledger (callsOf deeds) left (programs ++ result.toOption.toList) := by
  cases hrun with
  | notCreated reason =>
      simp only [Except.toOption, Option.toList_none, List.append_nil]
      exact .silent_cons trivial hledger.reaches_nil
  | notLinked program diagnostic =>
      simp only [callsOf_call, callsOf_append, callsOf_attachDeeds, callsOf_note,
        callsOf_nil, Except.toOption, Option.toList_none, List.append_nil] at hfresh ⊢
      have hcreated := hledger.createProgram hfresh.1
      have hattached := hcreated.reaches_silent (stages.map (.attachStage program))
        (by simp [Ledger.IsSilent])
      exact .cons trivial (.append hattached
        (.silent_cons trivial (hattached.extended.reaches_destroyPrograms [program])))
  | linked program =>
      simp only [callsOf_call, callsOf_append, callsOf_attachDeeds, callsOf_note,
        callsOf_nil] at hfresh ⊢
      have hcreated := hledger.createProgram hfresh.1
      have hattached := hcreated.reaches_silent (stages.map (.attachStage program))
        (by simp [Ledger.IsSilent])
      exact .cons trivial
        (.append hattached (.silent_cons trivial hattached.extended.reaches_nil))

theorem Links.creates {stages : List S} {deeds : List (Deed S P)}
    {result : Except ShaderError P} (hrun : Links stages deeds result) :
    ∃ outcome, .createProgram outcome ∈ callsOf deeds := by
  cases hrun with
  | notCreated reason => exact ⟨.error reason, by simp⟩
  | notLinked program diagnostic => exact ⟨.ok program, by simp⟩
  | linked program => exact ⟨.ok program, by simp⟩

theorem Links.attached_iff {stages : List S} {deeds : List (Deed S P)} {program : P}
    (hrun : Links stages deeds (.ok program)) (other : P) (stage : S) :
    .attachStage other stage ∈ callsOf deeds ↔ other = program ∧ stage ∈ stages := by
  cases hrun
  simp only [callsOf_call, callsOf_append, callsOf_attachDeeds, callsOf_note,
    callsOf_nil, List.mem_cons, List.mem_append, List.mem_map, reduceCtorEq, false_or,
    List.not_mem_nil, or_false, DeviceCall.attachStage.injEq]
  constructor
  · intro hboth
    rcases hboth with ⟨found, hmem, hprogram, hstage⟩
    exact ⟨hprogram.symm, hstage ▸ hmem⟩
  · intro hboth
    rcases hboth with ⟨hprogram, hmem⟩
    exact ⟨stage, hmem, hprogram.symm, rfl⟩

theorem Links.not_compiles {stages : List S} {deeds : List (Deed S P)}
    {result : Except ShaderError P} (hrun : Links stages deeds result) (stage : S)
    (text : String) (outcome : Except String Unit) :
    .compileStage stage text outcome ∉ callsOf deeds := by
  cases hrun <;> simp

/-! ## Building a program -/

/-- The stages that calls made and had not destroyed when linking began are
the listed ones: there are such stages exactly where linking began. -/
def BeganLinking (calls : List (DeviceCall S P)) (stages : List S) : Prop :=
  stages = [] ↔ ∀ outcome, .createProgram outcome ∉ calls

theorem BeganLinking.append {first second : List (DeviceCall S P)}
    {firstStages secondStages : List S} (hfirst : BeganLinking first firstStages)
    (hsecond : BeganLinking second secondStages) :
    BeganLinking (first ++ second) (firstStages ++ secondStages) := by
  unfold BeganLinking at hfirst hsecond ⊢
  rw [List.append_eq_nil_iff, hfirst, hsecond]
  simp only [List.mem_append, not_or, forall_and]

theorem Compiles.uses {sources : Sources} {deeds : List (Deed S P)} {stages : List S}
    (hcompile : Compiles [] sources.stages deeds (.ok stages)) {program : P}
    {later : List (Deed S P)} (hlink : Links stages later (.ok program))
    (released : List S) :
    Uses (callsOf deeds ++ (callsOf later ++ released.map .destroyStage)) [program]
      stages := by
  have hattached := hlink.attached_iff
  have hdone := hcompile.compiled_iff rfl
  constructor
  · intro stage
    rw [hdone stage]
    simp [hlink.not_compiles]
  · intro stage
    simp [hcompile.not_mem.2, hattached]
  · intro other stage hmem
    have hlinking : .attachStage other stage ∈ callsOf later := by
      simpa [hcompile.not_mem.2] using hmem
    rw [((hattached other stage).mp hlinking).1]
    exact List.mem_singleton_self program

theorem BuildsProgram.balance {release : Bool} {sources : Sources}
    {deeds : List (Deed S P)} {result : Except ShaderError P}
    (hrun : BuildsProgram release sources deeds result)
    (hledger : base.Extends ledger kept programs)
    (hfresh : ledger.Fresh (callsOf deeds)) :
    ∃ stages : List S,
      base.Reaches ledger (callsOf deeds) (kept ++ if release then [] else stages)
        (programs ++ result.toOption.toList) ∧
      BeganLinking (callsOf deeds) stages ∧
      ∀ program, result = .ok program → Uses (callsOf deeds) [program] stages := by
  have hstart : base.Extends ledger (kept ++ []) programs := by
    rw [List.append_nil]
    exact hledger
  cases hrun with
  | notCompiled hcompile =>
      have hbalance := hcompile.balance hstart hfresh
      refine ⟨[], ?_, ?_, ?_⟩
      · simpa [Except.toOption] using hbalance
      · exact ⟨fun _ => hcompile.not_mem.1, fun _ => rfl⟩
      · intro program hresult
        cases hresult
  | @compiled deeds later stages _ hcompile hlink =>
      rw [callsOf_append, callsOf_append, Ledger.fresh_append, Ledger.fresh_append]
        at hfresh
      obtain ⟨hfreshCompile, hfreshLink, _⟩ := hfresh
      have hcompiled := hcompile.balance hstart hfreshCompile
      have hlinked := hlink.balance hcompiled.extended hfreshLink
      refine ⟨stages, ?_, ?_, ?_⟩
      · rw [callsOf_append, callsOf_append]
        refine hcompiled.append (hlinked.append ?_)
        cases release with
        | false => exact hlinked.extended.reaches_nil
        | true =>
            simp only [if_true, callsOf_destroyStageDeeds, List.append_nil]
            exact hlinked.extended.reaches_destroyStages stages
      · -- linking began, and a program has at least two stages
        have hlength := hcompile.length_eq rfl
        obtain ⟨outcome, hcreated⟩ := hlink.creates
        constructor
        · intro hnil
          rw [hnil] at hlength
          simp [Sources.stages] at hlength
        · intro hnone
          exact absurd (by simp [hcreated]) (hnone outcome)
      · intro program hresult
        subst hresult
        have huses := hcompile.uses hlink (if release then stages else [])
        cases release <;> simpa using huses

/-! ## Building all variants -/

theorem BuildsVariants.balance {release : Bool} {family : Family} {done : List P}
    {variants : List Sources} {deeds : List (Deed S P)}
    {result : Except ShaderError (List P)}
    (hrun : BuildsVariants release family done variants deeds result)
    (hledger : base.Extends ledger kept done)
    (hfresh : ledger.Fresh (callsOf deeds)) :
    ∃ stages : List S,
      base.Reaches ledger (callsOf deeds) (kept ++ if release then [] else stages)
        (result.toOption.getD []) ∧
      BeganLinking (callsOf deeds) stages ∧
      ∀ all, result = .ok all → ∃ new, all = done ++ new ∧
        new.length = variants.length ∧ Uses (callsOf deeds) new stages := by
  induction hrun generalizing ledger kept with
  | finished done =>
      refine ⟨[], ?_, ?_, ?_⟩
      · simpa [Except.toOption] using hledger.reaches_nil
      · simp [BeganLinking]
      · intro all hall
        cases hall
        exact ⟨[], by simp, rfl, uses_nothing (by simp) (by simp)⟩
  | failed done rest hbuild =>
      rw [callsOf_append, callsOf_note, callsOf_destroyProgramDeeds] at hfresh ⊢
      rw [Ledger.fresh_append] at hfresh
      obtain ⟨stages, hbuilt, hbegan, _⟩ := hbuild.balance hledger hfresh.1
      refine ⟨stages, hbuilt.append ?_, ?_, ?_⟩
      · have hextended := hbuilt.extended
        rw [show (.error _ : Except ShaderError P).toOption = none from rfl,
          Option.toList_none, List.append_nil] at hextended
        exact hextended.reaches_destroyPrograms done
      · simpa [BeganLinking] using hbegan
      · intro all hall
        cases hall
  | @built done sources rest deeds later program result hbuild hrest ih =>
      rw [callsOf_append, callsOf_note] at hfresh ⊢
      rw [Ledger.fresh_append] at hfresh
      obtain ⟨stages, hbuilt, hbegan, huses⟩ := hbuild.balance hledger hfresh.1
      obtain ⟨laterStages, hreached, hbeganLater, hall⟩ :=
        ih hbuilt.extended hfresh.2
      -- what the first variant left counts as kept while the others are built
      refine ⟨stages ++ laterStages, hbuilt.append ?_, hbegan.append hbeganLater, ?_⟩
      · cases release <;> simpa using hreached
      · intro all hresult
        obtain ⟨new, hnew, hlength, husesLater⟩ := hall all hresult
        refine ⟨program :: new, ?_, ?_, ?_⟩
        · rw [hnew, List.append_assoc, List.singleton_append]
        · rw [List.length_cons, List.length_cons, hlength]
        · exact (huses program rfl).append husesLater

/-! ## Looking up names -/

theorem isSilent_of_isLookup {call : DeviceCall S P} (hlookup : call.isLookup = true) :
    Ledger.IsSilent call := by
  cases call <;> trivial

theorem uses_lookups {calls : List (DeviceCall S P)}
    (hlookups : ∀ call ∈ calls, call.isLookup = true) : Uses calls [] [] := by
  apply uses_nothing
  · intro stage text hmem
    cases hlookups _ hmem
  · intro program stage hmem
    cases hlookups _ hmem

theorem beganLinking_lookups {calls : List (DeviceCall S P)}
    (hlookups : ∀ call ∈ calls, call.isLookup = true) : BeganLinking calls [] := by
  constructor
  · intro _ outcome hmem
    cases hlookups _ hmem
  · intro _
    rfl

/-! ## Building a family -/

variable {σ : Type} {files : FileTree} {paths : Paths} {config : Configuration}
  {release : Bool} {family : Family}

theorem BuildsFamily.balance {deeds : List (Deed S P)}
    {result : Except ShaderError (List (LinkedProgram P))}
    (hrun : BuildsFamily files paths release family (family.plans config) deeds result)
    (hfresh : base.Fresh (callsOf deeds)) :
    ∃ stages : List S,
      base.Reaches base (callsOf deeds) (if release then [] else stages)
        (programsOf (result.toOption.getD [])) ∧
      BeganLinking (callsOf deeds) stages ∧
      ∀ linked, result = .ok linked →
        linked.length = (if family.isDirectional then 2 else 1) ∧
        Uses (callsOf deeds) (programsOf linked) stages := by
  have hstart := Ledger.extends_self base
  cases hrun with
  | unread hload =>
      refine ⟨[], ?_, ?_, ?_⟩
      · simpa [Except.toOption, programsOf] using hstart.reaches_nil
      · simp [BeganLinking]
      · intro linked hlinked
        cases hlinked
  | failed hload hbuild =>
      obtain ⟨stages, hreached, hbegan, _⟩ := hbuild.balance hstart hfresh
      refine ⟨stages, hreached, hbegan, ?_⟩
      intro linked hlinked
      cases hlinked
  | @built templates deeds later programs linked hload hbuild hlook hlinked =>
      rw [callsOf_note, callsOf_append] at hfresh ⊢
      rw [Ledger.fresh_append] at hfresh
      obtain ⟨stages, hreached, hbegan, hall⟩ := hbuild.balance hstart hfresh.1
      obtain ⟨new, hnew, hlength, huses⟩ := hall programs rfl
      rw [List.nil_append] at hnew
      subst hnew
      have hlookups := hlook.isLookup
      have hsilent : ∀ call ∈ callsOf later, Ledger.IsSilent call := by
        intro call hmem
        exact isSilent_of_isLookup (hlookups call hmem)
      refine ⟨stages, ?_, ?_, ?_⟩
      · rw [show (.ok linked : Except ShaderError _).toOption = some linked from rfl,
          Option.getD_some, hlinked]
        exact hreached.append (hreached.extended.reaches_silent (callsOf later) hsilent)
      · have hboth := hbegan.append (beganLinking_lookups hlookups)
        rw [List.append_nil] at hboth
        exact hboth
      · intro other hother
        cases hother
        constructor
        · change programs.length = (family.variants config templates).length at hlength
          rw [← Family.length_variants family config templates, ← hlength, ← hlinked]
          exact (List.length_map ..).symm
        · have hboth := huses.append (uses_lookups hlookups)
          rw [List.append_nil, List.append_nil] at hboth
          rw [hlinked]
          exact hboth

/-- The build of a family destroys nothing that was there before.  When stages
are released, a failure leaves nothing; and a success leaves, beside what was
there, one new program for each variant, and the stages that were compiled for
these programs unless they are released. -/
theorem observeFamily_balance (device : Device σ S P) (config : Configuration)
    (release : Bool) (family : Family) (paths : Paths) (files : FileTree) (state : σ)
    (before : Ledger S P)
    (hfresh : before.Fresh
      (observeFamily device config release family paths files state).calls) :
    let build := observeFamily device config release family paths files state
    let after := before.afterAll build.calls
    (∀ call ∈ build.calls, before.Spares call) ∧
    (∀ error, build.result = .error error → release = true →
      after.stages.live = before.stages.live ∧
      after.programs.live = before.programs.live) ∧
    (∀ linked, build.result = .ok linked →
      linked.length = (if family.isDirectional then 2 else 1) ∧
      (programsOf linked).Nodup ∧
      before.programs.Grows after.programs {program | program ∈ programsOf linked} ∧
      before.stages.Grows after.stages
        (if release then ∅ else stagesOf build.calls (programsOf linked))) := by
  intro build after
  obtain ⟨deeds, hrun, hcalls⟩ :=
    observeFamily_builds device files config release family paths state
  change BuildsFamily files paths release family _ deeds build.result at hrun
  change build.calls = callsOf deeds at hcalls
  change before.Fresh build.calls at hfresh
  rw [hcalls] at hfresh
  obtain ⟨stages, hreached, _, hlinked⟩ := hrun.balance hfresh
  rw [← hcalls] at hreached hlinked
  have hextended := hreached.extended
  refine ⟨hreached.spares, ?_, ?_⟩
  · intro error hresult hrelease
    rw [hresult, hrelease] at hextended
    exact ⟨hextended.stages.live_eq_iff.mpr rfl, hextended.programs.live_eq_iff.mpr rfl⟩
  · intro linked hresult
    obtain ⟨hlength, huses⟩ := hlinked linked hresult
    rw [hresult] at hextended
    refine ⟨hlength, hextended.programs.nodup, hextended.programs.grows, ?_⟩
    have hgrows := hextended.stages.grows
    cases release with
    | true => simpa using hgrows
    | false =>
        rw [if_neg Bool.false_ne_true, huses.stagesOf_eq]
        exact hgrows

/-! A blur of templates that are nothing but the marker, on a device which links
the first program and refuses the second. -/

def markerFiles : FileTree :=
  ⟨[(["v"], .file (Utf8.encode definitionsMarker)),
    (["f"], .file (Utf8.encode definitionsMarker))]⟩

def secondLinkFails : ScriptedObjects :=
  { script := { linkRules := [{ program := some 2, log := "no varying" }] } }

def markerBlur (release : Bool) :
    Observation ScriptedObjects Nat Nat (List (LinkedProgram Nat)) :=
  observeFamily scriptedDevice {} release .blur { vertex := "v", fragment := "f" }
    markerFiles secondLinkFails

def heldBefore : Ledger Nat Nat :=
  .holding [7] [9]

theorem observeFamily_balance_blur :
    heldBefore.Fresh (markerBlur true).calls ∧
      (markerBlur true).result.toBool = false ∧
      (heldBefore.afterAll (markerBlur true).calls).stages.live =
        heldBefore.stages.live ∧
      (heldBefore.afterAll (markerBlur true).calls).programs.live =
        heldBefore.programs.live := by
  have hfresh : heldBefore.Fresh (markerBlur true).calls :=
    Ledger.holding_fresh (by decide +kernel) (by decide +kernel)
  have hfails : (markerBlur true).result.toBool = false := by decide +kernel
  unfold markerBlur at hfresh hfails ⊢
  obtain ⟨_, hfailed, _⟩ := observeFamily_balance scriptedDevice {} true .blur
    { vertex := "v", fragment := "f" } markerFiles secondLinkFails heldBefore hfresh
  refine ⟨hfresh, hfails, ?_⟩
  rcases hresult : (observeFamily scriptedDevice {} true .blur
    { vertex := "v", fragment := "f" } markerFiles secondLinkFails).result with error | linked
  · exact hfailed error hresult rfl
  · rw [hresult] at hfails
    cases hfails

/-! ## Builds that keep their stages -/

/-- Work that fails leaves no program, and it leaves no stage exactly if it did
not come to make a program. -/
def Observation.LeavesLinkedStages {α : Type} (seen : Observation σ S P α)
    (before : Ledger S P) : Prop :=
  ∀ error, seen.result = .error error →
    (before.afterAll seen.calls).programs.live = before.programs.live ∧
    ((before.afterAll seen.calls).stages.live = before.stages.live ↔
      ∀ outcome, .createProgram outcome ∉ seen.calls)

theorem leavesLinkedStages_of_reaches {α : Type} {seen : Observation σ S P α}
    {before : Ledger S P} {stages : List S} {programs : List P}
    (hreached : before.Reaches before seen.calls stages programs)
    (hbegan : BeganLinking seen.calls stages)
    (hprograms : ∀ error, seen.result = .error error → programs = []) :
    seen.LeavesLinkedStages before := by
  intro error hresult
  constructor
  · exact hreached.extended.programs.live_eq_iff.mpr (hprograms error hresult)
  · rw [hreached.extended.stages.live_eq_iff]
    exact hbegan

/-- When stages are kept, a build that fails leaves no program; it leaves stages
exactly if it came to make a program, whether or not a program was made. -/
theorem keepingBuild_leaves_iff (device : Device σ S P) (config : Configuration)
    (family : Family) (paths : Paths) (sources : Sources) (files : FileTree) (state : σ)
    (before : Ledger S P) :
    (let build := observe (buildProgram device.recorded false sources) files state
     before.Fresh build.calls → build.LeavesLinkedStages before) ∧
    (let build := observeFamily device config false family paths files state
     before.Fresh build.calls → build.LeavesLinkedStages before) := by
  have hstart := Ledger.extends_self before
  constructor
  · intro build hfresh
    obtain ⟨deeds, hrun, _, hcalls, _⟩ :=
      (buildProgram_behaves device files false sources).observed state
    change BuildsProgram false sources deeds build.result at hrun
    change build.calls = callsOf deeds at hcalls
    rw [hcalls] at hfresh
    obtain ⟨stages, hreached, hbegan, _⟩ := hrun.balance hstart hfresh
    rw [← hcalls] at hreached hbegan
    apply leavesLinkedStages_of_reaches hreached hbegan
    intro error hresult
    rw [hresult]
    rfl
  · intro build hfresh
    obtain ⟨deeds, hrun, hcalls⟩ :=
      observeFamily_builds device files config false family paths state
    change BuildsFamily files paths false family _ deeds build.result at hrun
    change build.calls = callsOf deeds at hcalls
    rw [hcalls] at hfresh
    obtain ⟨stages, hreached, hbegan, _⟩ := hrun.balance hfresh
    rw [← hcalls] at hreached hbegan
    apply leavesLinkedStages_of_reaches hreached hbegan
    intro error hresult
    rw [hresult]
    rfl

theorem keepingBuild_leaves_blur :
    heldBefore.Fresh (markerBlur false).calls ∧
      (markerBlur false).result.toBool = false ∧
      (heldBefore.afterAll (markerBlur false).calls).programs.live =
        heldBefore.programs.live ∧
      (heldBefore.afterAll (markerBlur false).calls).stages.live ≠
        heldBefore.stages.live := by
  have hfresh : heldBefore.Fresh (markerBlur false).calls :=
    Ledger.holding_fresh (by decide +kernel) (by decide +kernel)
  have hfails : (markerBlur false).result.toBool = false := by decide +kernel
  have hmade : 2 ∈ Ledger.programsMade (markerBlur false).calls := by decide +kernel
  have hcreated : ∃ outcome, .createProgram outcome ∈ (markerBlur false).calls := by
    obtain ⟨call, hmem, hcall⟩ := List.mem_filterMap.mp hmade
    cases call with
    | createProgram outcome => exact ⟨outcome, hmem⟩
    | _ => cases hcall
  unfold markerBlur at hfresh hfails hcreated ⊢
  have hleaves := (keepingBuild_leaves_iff scriptedDevice {} .blur
    { vertex := "v", fragment := "f" } {} markerFiles secondLinkFails heldBefore).2 hfresh
  refine ⟨hfresh, hfails, ?_⟩
  rcases hresult : (observeFamily scriptedDevice {} false .blur
    { vertex := "v", fragment := "f" } markerFiles secondLinkFails).result with error | linked
  · obtain ⟨hprograms, hstages⟩ := hleaves error hresult
    obtain ⟨outcome, hmem⟩ := hcreated
    exact ⟨hprograms, fun hsame => hstages.mp hsame outcome hmem⟩
  · rw [hresult] at hfails
    cases hfails

/-- A program of kept stages, on a device that links nothing. -/
def unlinkable : Observation ScriptedObjects Nat Nat Nat :=
  observe
    (buildProgram scriptedDevice.recorded false { vertex := "a", fragment := "b" })
    {} { script := { linkRules := [{ log := "no varying" }] } }

theorem keepingBuild_leaks :
    heldBefore.Fresh unlinkable.calls ∧
      unlinkable.result = .error (.link "no varying") ∧
      Ledger.stagesMade unlinkable.calls = [1, 2] ∧
      1 ∈ (heldBefore.afterAll unlinkable.calls).stages.live ∧
      2 ∈ (heldBefore.afterAll unlinkable.calls).stages.live := by
  have hcalls : unlinkable.calls =
      [.createStage .vertex (.ok 1), .compileStage 1 "a" (.ok ()),
        .createStage .fragment (.ok 2), .compileStage 2 "b" (.ok ()),
        .createProgram (.ok 1), .attachStage 1 1, .attachStage 1 2,
        .linkProgram 1 (.error "no varying"), .destroyProgram 1] := by
    rfl
  rw [hcalls]
  refine ⟨Ledger.holding_fresh (by decide) (by decide), rfl, rfl, ?_, ?_⟩
  · simp [Ledger.after, Register.issue]
  · simp [Ledger.after, Register.issue]

end ShaderFamilies
