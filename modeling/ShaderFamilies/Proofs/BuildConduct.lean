import ShaderFamilies.Proofs.ObservedWork
import ShaderFamilies.Proofs.TableVisits

/-!
# What a build can do

The relations of this file list, for each part of a build, the deeds that it
can do beside the way in which it then ends; the answers of the device select
one of them.  Each part of a build behaves as its relation says, over every
device.  What is proved of builds elsewhere is proved of these relations.
-/

namespace ShaderFamilies

variable {σ S P α β : Type}

def destroyStageDeeds (stages : List S) : List (Deed S P) :=
  stages.map fun stage => .call (.destroyStage stage)

def attachDeeds (program : P) (stages : List S) : List (Deed S P) :=
  stages.map fun stage => .call (.attachStage program stage)

def destroyProgramDeeds (programs : List P) : List (Deed S P) :=
  programs.map fun program => .call (.destroyProgram program)

@[simp] theorem callsOf_destroyStageDeeds (stages : List S) :
    callsOf (destroyStageDeeds stages : List (Deed S P)) =
      stages.map .destroyStage :=
  callsOf_map_call _ stages

@[simp] theorem callsOf_attachDeeds (program : P) (stages : List S) :
    callsOf (attachDeeds program stages) = stages.map (.attachStage program) :=
  callsOf_map_call _ stages

@[simp] theorem callsOf_destroyProgramDeeds (programs : List P) :
    callsOf (destroyProgramDeeds programs : List (Deed S P)) =
      programs.map .destroyProgram :=
  callsOf_map_call _ programs

@[simp] theorem notesOf_destroyStageDeeds (stages : List S) :
    notesOf (destroyStageDeeds stages : List (Deed S P)) = [] :=
  notesOf_map_call _ stages

@[simp] theorem notesOf_attachDeeds (program : P) (stages : List S) :
    notesOf (attachDeeds program stages) = [] :=
  notesOf_map_call _ stages

@[simp] theorem notesOf_destroyProgramDeeds (programs : List P) :
    notesOf (destroyProgramDeeds programs : List (Deed S P)) = [] :=
  notesOf_map_call _ programs

/-! ## The relations -/

/-- Compiling the stages that are left, after those that are done. -/
inductive Compiles : List S → List (Stage × String) → List (Deed S P) →
    Except ShaderError (List S) → Prop
  | finished (done : List S) : Compiles done [] [] (.ok done)
  | notCreated (done : List S) (kind : Stage) (text : String)
      (rest : List (Stage × String)) (reason : String) :
      Compiles done ((kind, text) :: rest)
        (.call (.createStage kind (.error reason)) :: destroyStageDeeds done)
        (.error (.device ("failed to create " ++ kind.name ++ " shader: " ++ reason)))
  | notCompiled (done : List S) (kind : Stage) (text : String)
      (rest : List (Stage × String)) (stage : S) (diagnostic : String) :
      Compiles done ((kind, text) :: rest)
        (.call (.createStage kind (.ok stage)) ::
          .call (.compileStage stage text (.error diagnostic)) ::
          .note (.stageFailed kind diagnostic) ::
          .call (.destroyStage stage) :: destroyStageDeeds done)
        (.error (.compile kind diagnostic))
  | compiled {done : List S} (kind : Stage) (text : String)
      {rest : List (Stage × String)} (stage : S) {deeds : List (Deed S P)}
      {result : Except ShaderError (List S)}
      (hrest : Compiles (done ++ [stage]) rest deeds result) :
      Compiles done ((kind, text) :: rest)
        (.call (.createStage kind (.ok stage)) ::
          .call (.compileStage stage text (.ok ())) ::
          .note (.stageCompiled kind stage) :: deeds)
        result

/-- Linking stages into a new program. -/
inductive Links (stages : List S) : List (Deed S P) → Except ShaderError P → Prop
  | notCreated (reason : String) :
      Links stages [.call (.createProgram (.error reason))] (.error (.device reason))
  | notLinked (program : P) (diagnostic : String) :
      Links stages
        (.call (.createProgram (.ok program)) :: (attachDeeds program stages ++
          [.call (.linkProgram program (.error diagnostic)),
            .note (.programFailed diagnostic), .call (.destroyProgram program)]))
        (.error (.link diagnostic))
  | linked (program : P) :
      Links stages
        (.call (.createProgram (.ok program)) :: (attachDeeds program stages ++
          [.call (.linkProgram program (.ok ())),
            .note (.programLinked program stages.length)]))
        (.ok program)

/-- Building the program of stage texts. -/
inductive BuildsProgram (release : Bool) (sources : Sources) :
    List (Deed S P) → Except ShaderError P → Prop
  | notCompiled {deeds : List (Deed S P)} {error : ShaderError}
      (hcompile : Compiles ([] : List S) sources.stages deeds (.error error)) :
      BuildsProgram release sources deeds (.error error)
  | compiled {deeds later : List (Deed S P)} {stages : List S}
      {result : Except ShaderError P}
      (hcompile : Compiles [] sources.stages deeds (.ok stages))
      (hlink : Links stages later result) :
      BuildsProgram release sources
        (deeds ++ (later ++ if release then destroyStageDeeds stages else [])) result

/-- Building the variants that are left, after the programs that are done. -/
inductive BuildsVariants (release : Bool) (family : Family) : List P → List Sources →
    List (Deed S P) → Except ShaderError (List P) → Prop
  | finished (done : List P) : BuildsVariants release family done [] [] (.ok done)
  | failed (done : List P) {sources : Sources} (rest : List Sources)
      {deeds : List (Deed S P)} {error : ShaderError}
      (hbuild : BuildsProgram release sources deeds (.error error)) :
      BuildsVariants release family done (sources :: rest)
        (deeds ++ .note (.familyFailed family error) :: destroyProgramDeeds done)
        (.error error)
  | built {done : List P} {sources : Sources} {rest : List Sources}
      {deeds later : List (Deed S P)} {program : P}
      {result : Except ShaderError (List P)}
      (hbuild : BuildsProgram release sources deeds (.ok program))
      (hrest : BuildsVariants release family (done ++ [program]) rest later result) :
      BuildsVariants release family done (sources :: rest)
        (deeds ++ .note (.familyBuilt family program) :: later) result

/-- A lookup in a program, or the event that it found nothing. -/
def Deed.LooksIn (program : P) : Deed S P → Prop
  | .call (.attributeLocation looked _ _) => looked = program
  | .call (.uniformLocation looked _ _) => looked = program
  | .note (.attributeMissing _ looked) => looked = program
  | .note (.uniformMissing _ looked) => looked = program
  | _ => False

/-- Looking up names in programs, one program after the other. -/
inductive LooksUp : List P → List (Deed S P) → Prop
  | finished : LooksUp [] []
  | looked {program : P} {rest : List P} {deeds later : List (Deed S P)}
      (hdeeds : ∀ deed ∈ deeds, deed.LooksIn program) (hrest : LooksUp rest later) :
      LooksUp (program :: rest) (deeds ++ later)

theorem LooksUp.isLookup {programs : List P} {deeds : List (Deed S P)}
    (hlook : LooksUp programs deeds) :
    ∀ call ∈ callsOf deeds, call.isLookup = true := by
  induction hlook with
  | finished => simp
  | looked hdeeds hrest ih =>
      intro call hmem
      rw [callsOf_append, List.mem_append] at hmem
      rcases hmem with hmem | hmem
      · have hlooks := hdeeds _ (mem_callsOf.mp hmem)
        cases call <;> first | rfl | exact hlooks.elim
      · exact ih call hmem

/-! ## Files -/

/-- The text of a stage file. -/
def FileTree.stageText (files : FileTree) (path : String) : Except ShaderError String :=
  match files.read path with
  | .ok content => .ok (Utf8.lenient content)
  | .error fault => .error (.file path fault)

/-- The text of the geometry file, empty where no path is given. -/
def FileTree.geometryText (files : FileTree) (paths : Paths) :
    Except ShaderError String :=
  match paths.geometryPath with
  | some path => files.stageText path
  | none => .ok ""

/-- The stage texts of the files. -/
def FileTree.sources (files : FileTree) (paths : Paths) : Except ShaderError Sources := do
  let vertex ← files.stageText paths.vertex
  let fragment ← files.stageText paths.fragment
  let geometry ← files.geometryText paths
  return { vertex, fragment, geometry }

/-- Building a family from its files by the plans of its variants. -/
inductive BuildsFamily (files : FileTree) (paths : Paths) (release : Bool)
    (family : Family) (plans : List VariantPlan) :
    List (Deed S P) → Except ShaderError (List (LinkedProgram P)) → Prop
  | unread {error : ShaderError} (hload : files.sources paths = .error error) :
      BuildsFamily files paths release family plans [] (.error error)
  | failed {templates : Sources} {deeds : List (Deed S P)} {error : ShaderError}
      (hload : files.sources paths = .ok templates)
      (hbuild : BuildsVariants release family [] (plans.map (·.apply templates)) deeds
        (.error error)) :
      BuildsFamily files paths release family plans
        (.note (.sourcesLoaded paths templates.hasGeometry) :: deeds) (.error error)
  | built {templates : Sources} {deeds later : List (Deed S P)} {programs : List P}
      {linked : List (LinkedProgram P)}
      (hload : files.sources paths = .ok templates)
      (hbuild : BuildsVariants release family [] (plans.map (·.apply templates)) deeds
        (.ok programs))
      (hlook : LooksUp programs later)
      (hlinked : programsOf linked = programs) :
      BuildsFamily files paths release family plans
        (.note (.sourcesLoaded paths templates.hasGeometry) :: (deeds ++ later))
        (.ok linked)

theorem BuildsFamily.unread_of {files : FileTree} {paths : Paths} {release : Bool}
    {family : Family} {plans : List VariantPlan} {deeds : List (Deed S P)}
    {result : Except ShaderError (List (LinkedProgram P))} {error : ShaderError}
    (hrun : BuildsFamily files paths release family plans deeds result)
    (hload : files.sources paths = .error error) :
    result = .error error ∧ callsOf deeds = [] := by
  cases hrun with
  | unread hunread =>
      rw [hload] at hunread
      cases hunread
      exact ⟨rfl, rfl⟩
  | failed hloaded | built hloaded =>
      rw [hload] at hloaded
      cases hloaded

/-! ## The work behaves so -/

variable (device : Device σ S P) (files : FileTree)

theorem releaseStages_behaves (stages : List S) :
    (releaseStages device.recorded stages).Behaves files fun deeds result =>
      result = .ok () ∧ deeds = destroyStageDeeds stages := by
  induction stages with
  | nil => exact Work.behaves_pure () ⟨rfl, rfl⟩
  | cons stage rest ih =>
      apply Work.behaves_call_bind
      intro _
      apply ih.mono
      intro deeds result hdone
      rcases hdone with ⟨hresult, hdeeds⟩
      exact ⟨hresult, by rw [hdeeds]; rfl⟩

theorem attachStages_behaves (program : P) (stages : List S) :
    (attachStages device.recorded program stages).Behaves files fun deeds result =>
      result = .ok () ∧ deeds = attachDeeds program stages := by
  induction stages with
  | nil => exact Work.behaves_pure () ⟨rfl, rfl⟩
  | cons stage rest ih =>
      apply Work.behaves_call_bind
      intro _
      apply ih.mono
      intro deeds result hdone
      rcases hdone with ⟨hresult, hdeeds⟩
      exact ⟨hresult, by rw [hdeeds]; rfl⟩

theorem compileRemaining_behaves (done : List S) (remaining : List (Stage × String)) :
    (compileRemaining device.recorded done remaining).Behaves files
      (Compiles done remaining) := by
  induction remaining generalizing done with
  | nil => exact Work.behaves_pure done (.finished done)
  | cons head rest ih =>
      obtain ⟨kind, text⟩ := head
      apply Work.behaves_call_bind
      intro created
      cases created with
      | error reason =>
          apply (releaseStages_behaves device files done).bind_exact
          apply Work.behaves_throw
          simpa using Compiles.notCreated done kind text rest reason
      | ok stage =>
          apply Work.behaves_call_bind
          intro compiled
          cases compiled with
          | error diagnostic =>
              apply Work.behaves_note_bind
              apply Work.behaves_call_bind
              intro _
              apply (releaseStages_behaves device files done).bind_exact
              apply Work.behaves_throw
              simpa using Compiles.notCompiled done kind text rest stage diagnostic
          | ok _ =>
              apply Work.behaves_note_bind
              apply (ih (done ++ [stage])).mono
              intro deeds result hrest
              exact .compiled kind text stage hrest

theorem compileStages_behaves (sources : Sources) :
    (compileStages device.recorded sources).Behaves files
      (Compiles [] sources.stages) :=
  compileRemaining_behaves device files [] sources.stages

theorem linkProgram_behaves (stages : List S) :
    (linkProgram device.recorded stages).Behaves files (Links stages) := by
  apply Work.behaves_call_bind
  intro created
  cases created with
  | error reason => exact Work.behaves_throw _ (.notCreated reason)
  | ok program =>
      apply (attachStages_behaves device files program stages).bind_exact
      apply Work.behaves_call_bind
      intro linked
      cases linked with
      | error diagnostic =>
          apply Work.behaves_note_bind
          apply Work.behaves_call_bind
          intro _
          exact Work.behaves_throw _ (.notLinked program diagnostic)
      | ok _ =>
          apply Work.behaves_note_bind
          exact Work.behaves_pure _ (.linked program)

theorem linkProgramReleasing_behaves (stages : List S) :
    (linkProgramReleasing device.recorded stages).Behaves files fun deeds result =>
      ∃ linking, Links stages linking result ∧
        deeds = linking ++ destroyStageDeeds stages := by
  apply (linkProgram_behaves device files stages).attempt_bind
  intro linking result hlink
  apply (releaseStages_behaves device files stages).bind_exact
  apply Work.behaves_conclude
  exact ⟨linking, hlink, by simp⟩

theorem buildProgram_behaves (release : Bool) (sources : Sources) :
    (buildProgram device.recorded release sources).Behaves files
      (BuildsProgram release sources) := by
  apply (compileStages_behaves device files sources).bind
  · intro deeds stages hcompile
    cases release with
    | true =>
        apply (linkProgramReleasing_behaves device files stages).mono
        intro later result hdone
        rcases hdone with ⟨linking, hlink, hlater⟩
        rw [hlater]
        exact .compiled hcompile hlink
    | false =>
        apply (linkProgram_behaves device files stages).mono
        intro later result hlink
        have hbuilt : BuildsProgram false sources (deeds ++ (later ++ [])) result :=
          .compiled hcompile hlink
        simpa using hbuilt
  · intro deeds error hcompile
    exact .notCompiled hcompile

theorem buildVariant_behaves (release : Bool) (family : Family) (sources : Sources) :
    (buildVariant device.recorded release family sources).Behaves files
      fun deeds result => ∃ building, BuildsProgram release sources building result ∧
        deeds = building ++ [.note (match result with
          | .ok program => .familyBuilt family program
          | .error error => .familyFailed family error)] := by
  apply (buildProgram_behaves device files release sources).attempt_bind
  intro building result hbuild
  cases result with
  | ok program =>
      apply Work.behaves_note_bind
      apply Work.behaves_pure
      exact ⟨building, hbuild, rfl⟩
  | error error =>
      apply Work.behaves_note_bind
      apply Work.behaves_throw
      exact ⟨building, hbuild, rfl⟩

theorem readStage_run (path : String) (bench : Workbench σ S P) :
    (readStage path : Work σ S P String).run bench = (bench.files.stageText path, bench) := by
  have hread : (Work.readFile path : Work σ S P Bytes).run bench =
      ((bench.files.read path).mapError (.file path), bench) := rfl
  unfold readStage FileTree.stageText
  rw [Work.run_bind, hread]
  cases bench.files.read path with
  | ok content => rfl
  | error fault => rfl

theorem loadSources_run (paths : Paths) (bench : Workbench σ S P) :
    (loadSources paths : Work σ S P Sources).run bench =
      match bench.files.sources paths with
      | .ok templates => (.ok templates,
          { bench with log := bench.log.push (.sourcesLoaded paths templates.hasGeometry) })
      | .error error => (.error error, bench) := by
  unfold loadSources FileTree.sources
  rw [Work.run_bind, readStage_run]
  cases bench.files.stageText paths.vertex with
  | error error => rfl
  | ok vertex =>
      dsimp only
      rw [Work.run_bind, readStage_run]
      cases bench.files.stageText paths.fragment with
      | error error => rfl
      | ok fragment =>
          unfold FileTree.geometryText
          cases paths.geometryPath with
          | none => rfl
          | some path =>
              dsimp only
              rw [Work.run_bind, readStage_run]
              cases bench.files.stageText path with
              | error error => rfl
              | ok geometry => rfl

theorem loadSources_behaves (paths : Paths) :
    (loadSources paths : Work (Recorded σ (DeviceCall S P)) S P Sources).Behaves files
      fun deeds result => result = files.sources paths ∧
        deeds = match files.sources paths with
          | .ok templates => [.note (.sourcesLoaded paths templates.hasGeometry)]
          | .error _ => [] := by
  intro bench hbench
  rw [loadSources_run, hbench]
  cases files.sources paths with
  | ok templates =>
      exact ⟨_, ⟨rfl, rfl⟩, rfl, by simp, by simp [notesOf, Deed.note?]⟩
  | error error =>
      exact ⟨_, ⟨rfl, rfl⟩, hbench, by simp, by simp [notesOf]⟩

theorem observe_loadSources (paths : Paths) (files : FileTree) (state : σ) :
    (observe (loadSources paths : Work (Recorded σ (DeviceCall S P)) S P Sources)
      files state).result = files.sources paths := by
  obtain ⟨deeds, ⟨hresult, _⟩, _⟩ :=
    (loadSources_behaves (S := S) (P := P) files paths).observed state
  exact hresult

/-- Work that ends well and does nothing but look up names in a program. -/
def Work.OnlyLooks (work : Work (Recorded σ (DeviceCall S P)) S P α) (files : FileTree)
    (program : P) : Prop :=
  work.Behaves files fun deeds result =>
    (∃ value, result = .ok value) ∧ ∀ deed ∈ deeds, deed.LooksIn program

/-- Work that goes on after looking up names. -/
theorem Work.OnlyLooks.bind {work : Work (Recorded σ (DeviceCall S P)) S P α}
    {next : α → Work (Recorded σ (DeviceCall S P)) S P β} {program : P}
    {goal : List (Deed S P) → Except ShaderError β → Prop}
    (hwork : work.OnlyLooks files program)
    (hnext : ∀ deeds value, (∀ deed ∈ deeds, deed.LooksIn program) →
      (next value).Behaves files fun later result => goal (deeds ++ later) result) :
    (work >>= next).Behaves files goal := by
  apply Work.Behaves.bind hwork
  · intro deeds value hdone
    exact hnext deeds value hdone.2
  · intro deeds error hdone
    rcases hdone with ⟨⟨value, hvalue⟩, _⟩
    cases hvalue

theorem lookUp_onlyLooks (program : P) (slot : Slot) :
    (lookUp device.recorded program slot).OnlyLooks files program := by
  rcases slot with name | name
  all_goals
    apply Work.behaves_call_bind
    intro location
    cases hfound : location.isFound with
    | true =>
        apply Work.behaves_pure
        simp [Deed.LooksIn]
    | false =>
        apply Work.behaves_note_bind
        apply Work.behaves_pure
        simp [Deed.LooksIn]

theorem resolve_onlyLooks (program : P) (kind : TableKind) :
    (resolve device.recorded program kind).OnlyLooks files program := by
  apply Table.traverse_induction (motive := fun β
    (work : Work (Recorded σ (DeviceCall S P)) S P β) => work.OnlyLooks files program)
  · intro _ value
    exact Work.behaves_pure value ⟨⟨value, rfl⟩, by simp⟩
  · intro _ _ _ next hwork hnext
    apply hwork.bind
    intro deeds value hdeeds
    apply (hnext value).mono
    intro later result hdone
    rcases hdone with ⟨hresult, hlater⟩
    exact ⟨hresult, List.forall_mem_append.mpr ⟨hdeeds, hlater⟩⟩
  · exact lookUp_onlyLooks device files program

/-- Work that goes on after loading the templates. -/
theorem behaves_loadSources_bind
    {next : Sources → Work (Recorded σ (DeviceCall S P)) S P α}
    {goal : List (Deed S P) → Except ShaderError α → Prop} {paths : Paths}
    (hnext : ∀ templates, files.sources paths = .ok templates →
      (next templates).Behaves files fun later result =>
        goal (.note (.sourcesLoaded paths templates.hasGeometry) :: later) result)
    (herror : ∀ error, files.sources paths = .error error → goal [] (.error error)) :
    (loadSources paths >>= next).Behaves files goal := by
  apply (loadSources_behaves files paths).bind
  · intro deeds templates hdone
    rcases hdone with ⟨hload, hdeeds⟩
    rw [← hload] at hdeeds
    subst hdeeds
    exact hnext templates hload.symm
  · intro deeds error hdone
    rcases hdone with ⟨hload, hdeeds⟩
    rw [← hload] at hdeeds
    subst hdeeds
    exact herror error hload.symm

theorem buildSingle_behaves (release : Bool) (family : Family) (plan : VariantPlan)
    (kind : TableKind) (paths : Paths) :
    (do return [← buildSingle device.recorded release family plan kind paths]).Behaves
      files (BuildsFamily files paths release family [plan]) := by
  apply Work.Behaves.map
  apply behaves_loadSources_bind
  · intro templates hload
    apply (buildVariant_behaves device files release family (plan.apply templates)).bind
    · intro deeds program hdone
      rcases hdone with ⟨building, hbuild, hdeeds⟩
      subst hdeeds
      apply (resolve_onlyLooks device files program kind).bind
      intro later locations hlater
      apply Work.behaves_pure
      have hvariants : BuildsVariants release family [] [plan.apply templates] _
          (.ok [program]) := .built hbuild (.finished [program])
      have hlook := LooksUp.looked hlater .finished
      have hbuilt : BuildsFamily files paths release family [plan] _
          (.ok [⟨program, locations⟩]) := .built hload hvariants hlook rfl
      simpa [Except.map] using hbuilt
    · intro deeds error hdone
      rcases hdone with ⟨building, hbuild, hdeeds⟩
      subst hdeeds
      exact .failed hload (.failed [] [] hbuild)
  · intro error hload
    exact .unread hload

theorem buildDirectional_behaves (release : Bool) (family : Family)
    (plans : DirectionalPair VariantPlan) (kind : TableKind) (paths : Paths) :
    (do
      return (← buildDirectional device.recorded release family plans kind
        paths).toList).Behaves files
      (BuildsFamily files paths release family plans.toList) := by
  apply Work.Behaves.map
  apply behaves_loadSources_bind
  · intro templates hload
    apply (buildVariant_behaves device files release family
      (plans.horizontal.apply templates)).bind
    · intro deeds horizontal hdone
      rcases hdone with ⟨building, hbuild, hdeeds⟩
      subst hdeeds
      apply (buildVariant_behaves device files release family
        (plans.vertical.apply templates)).attempt_bind
      intro other result hdone
      rcases hdone with ⟨otherBuilding, hother, hdeeds⟩
      subst hdeeds
      cases result with
      | error error =>
          apply Work.behaves_call_bind
          intro _
          apply Work.behaves_throw
          have hvariants : BuildsVariants release family []
              (plans.toList.map (·.apply templates)) _ (.error error) :=
            .built hbuild (.failed [horizontal] [] hother)
          have hfailed : BuildsFamily files paths release family plans.toList _
              (.error error) := .failed hload hvariants
          simpa [Except.map, destroyProgramDeeds] using hfailed
      | ok vertical =>
          apply (resolve_onlyLooks device files horizontal kind).bind
          intro looks horizontalLocations hlooks
          apply (resolve_onlyLooks device files vertical kind).bind
          intro later verticalLocations hlater
          apply Work.behaves_pure
          have hvariants : BuildsVariants release family []
              (plans.toList.map (·.apply templates)) _ (.ok [horizontal, vertical]) :=
            .built hbuild (.built hother (.finished [horizontal, vertical]))
          have hlook := LooksUp.looked hlooks (.looked hlater .finished)
          have hbuilt : BuildsFamily files paths release family plans.toList _
              (.ok [⟨horizontal, horizontalLocations⟩, ⟨vertical, verticalLocations⟩]) :=
            .built hload hvariants hlook rfl
          simpa [Except.map, DirectionalPair.toList] using hbuilt
    · intro deeds error hdone
      rcases hdone with ⟨building, hbuild, hdeeds⟩
      subst hdeeds
      exact .failed hload (.failed [] [_] hbuild)
  · intro error hload
    exact .unread hload

/-- Every build of a family is one of those listed. -/
theorem buildFamily_behaves (config : Configuration) (release : Bool) (family : Family)
    (paths : Paths) :
    (buildFamily device.recorded config release family paths).Behaves files
      (BuildsFamily files paths release family (family.plans config)) := by
  -- each family has picked the plans that stand for it in the list of its plans
  cases family with
  | dofBlur | blur => exact buildDirectional_behaves device files release _ _ _ paths
  | color | shadow | dofCoc | blend | ssr | bloomSearch | cubemap =>
      exact buildSingle_behaves device files release _ _ _ paths

theorem observeFamily_builds (config : Configuration) (release : Bool) (family : Family)
    (paths : Paths) (state : σ) :
    ∃ deeds : List (Deed S P),
      BuildsFamily files paths release family (family.plans config) deeds
        (observeFamily device config release family paths files state).result ∧
      (observeFamily device config release family paths files state).calls =
        callsOf deeds := by
  unfold observeFamily
  obtain ⟨deeds, hrun, _, hcalls, _⟩ :=
    (buildFamily_behaves device files config release family paths).observed state
  exact ⟨deeds, hrun, hcalls⟩

end ShaderFamilies
