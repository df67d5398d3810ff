import ShaderFamilies.Proofs.ObservedWork
import ShaderFamilies.Proofs.TableVisits

/-!
# Work carried over to another device

A translation takes the states and the objects of one device to those of another,
as long as an invariant holds.  If each operation carries over, that is, does to
the translated state what it does to the state, then so does all the work that is
put together from operations, up to the build of a family.
-/

namespace ShaderFamilies

variable {σ τ S T P Q α β γ δ : Type}

/-! ## Translations -/

def LogEvent.rename (stage : S → T) (program : P → Q) : LogEvent S P → LogEvent T Q
  | .configurationLoaded path => .configurationLoaded path
  | .sourcesLoaded paths geometry => .sourcesLoaded paths geometry
  | .variantsDumped count family => .variantsDumped count family
  | .stageCompiled kind handle => .stageCompiled kind (stage handle)
  | .stageFailed kind diagnostic => .stageFailed kind diagnostic
  | .programLinked handle stages => .programLinked (program handle) stages
  | .programFailed diagnostic => .programFailed diagnostic
  | .familyBuilt family handle => .familyBuilt family (program handle)
  | .familyFailed family error => .familyFailed family error
  | .attributeMissing name handle => .attributeMissing name (program handle)
  | .uniformMissing name handle => .uniformMissing name (program handle)

theorem LogEvent.rename_id (event : LogEvent S P) : event.rename id id = event := by
  cases event <;> rfl

/-- How the states in which an invariant holds, the objects and the locations of a
device appear on another device. -/
structure Translation (σ τ S T P Q : Type) where
  holds : σ → Prop
  states : σ → τ
  stage : S → T
  program : P → Q
  location : Location → Location
  isFound_location : ∀ found, (location found).isFound = found.isFound

namespace Translation

/-- An operation keeps the invariant, and its image takes the image of a state to
the image of the state after it, with the image of its answer. -/
def Carries (tr : Translation σ τ S T P Q) (answers : α → β) (original : StateM σ α)
    (image : StateM τ β) : Prop :=
  ∀ state, tr.holds state → tr.holds (original state).2 ∧
    image (tr.states state) = (answers (original state).1, tr.states (original state).2)

def bench (tr : Translation σ τ S T P Q) (original : Workbench σ S P) :
    Workbench τ T Q where
  files := original.files
  device := tr.states original.device
  log := original.log.map (LogEvent.rename tr.stage tr.program)

def table (tr : Translation σ τ S T P Q) (found : Table Location) : Table Location :=
  found.map tr.location

def linked (tr : Translation σ τ S T P Q) (found : LinkedProgram P) : LinkedProgram Q :=
  ⟨tr.program found.program, tr.table found.locations⟩

end Translation

/-- Each operation of a device carries over to that of another device. -/
structure Device.CarriedBy (original : Device σ S P) (tr : Translation σ τ S T P Q)
    (image : Device τ T Q) : Prop where
  createStage : ∀ kind,
    tr.Carries (Except.map tr.stage) (original.createStage kind) (image.createStage kind)
  compileStage : ∀ stage source,
    tr.Carries id (original.compileStage stage source)
      (image.compileStage (tr.stage stage) source)
  destroyStage : ∀ stage,
    tr.Carries id (original.destroyStage stage) (image.destroyStage (tr.stage stage))
  createProgram : tr.Carries (Except.map tr.program) original.createProgram image.createProgram
  attachStage : ∀ program stage,
    tr.Carries id (original.attachStage program stage)
      (image.attachStage (tr.program program) (tr.stage stage))
  linkProgram : ∀ program,
    tr.Carries id (original.linkProgram program) (image.linkProgram (tr.program program))
  destroyProgram : ∀ program,
    tr.Carries id (original.destroyProgram program)
      (image.destroyProgram (tr.program program))
  attributeLocation : ∀ program name,
    tr.Carries tr.location (original.attributeLocation program name)
      (image.attributeLocation (tr.program program) name)
  uniformLocation : ∀ program name,
    tr.Carries tr.location (original.uniformLocation program name)
      (image.uniformLocation (tr.program program) name)

/-! ## Rules -/

namespace Work

/-- The work keeps the invariant, and its image takes the image of a workbench to
the image of the workbench after it, with the image of its result. -/
def CarriedBy (original : Work σ S P α) (tr : Translation σ τ S T P Q) (results : α → β)
    (image : Work τ T Q β) : Prop :=
  ∀ bench, tr.holds bench.device → tr.holds (original.run bench).2.device ∧
    image.run (tr.bench bench) =
      ((original.run bench).1.map results, tr.bench (original.run bench).2)

variable {tr : Translation σ τ S T P Q}

theorem carried_conclude {results : α → β} (result : Except ShaderError α) :
    (conclude result : Work σ S P α).CarriedBy tr results
      (conclude (result.map results)) := by
  intro bench hbench
  exact ⟨hbench, rfl⟩

/-- Work that ends as other work did. -/
theorem carried_ended (result : Except ShaderError α) :
    (conclude result : Work σ S P α).CarriedBy tr id (conclude result) := by
  have hended : (conclude result : Work σ S P α).CarriedBy tr id
      (conclude (result.map id)) := carried_conclude result
  rwa [Except.map_id] at hended

theorem carried_pure {results : α → β} (value : α) :
    (pure value : Work σ S P α).CarriedBy tr results (pure (results value)) :=
  carried_conclude (.ok value)

theorem carried_throw {results : α → β} (error : ShaderError) :
    (throw error : Work σ S P α).CarriedBy tr results (throw error) :=
  carried_conclude (.error error)

theorem carried_note (event : LogEvent S P) :
    (note event : Work σ S P Unit).CarriedBy tr id
      (note (event.rename tr.stage tr.program)) := by
  intro bench hbench
  refine ⟨hbench, ?_⟩
  simp [note, ExceptT.run, ExceptT.mk, Translation.bench, Except.map]

theorem carried_readFile (path : String) :
    (readFile path : Work σ S P Bytes).CarriedBy tr id (readFile path) := by
  intro bench hbench
  refine ⟨hbench, ?_⟩
  change (_, _) = (_, _)
  rw [Except.map_id]
  rfl

theorem carried_writeFile (path : String) (content : Bytes) :
    (writeFile path content : Work σ S P Unit).CarriedBy tr id (writeFile path content) := by
  intro bench hbench
  simp only [writeFile, ExceptT.run, ExceptT.mk, Translation.bench]
  cases bench.files.write path content <;> exact ⟨hbench, rfl⟩

theorem carried_call {answers : α → β} {original : StateM σ α} {image : StateM τ β}
    (hoperation : tr.Carries answers original image) :
    (call original : Work σ S P α).CarriedBy tr answers (call image) := by
  intro bench hbench
  obtain ⟨hkept, himage⟩ := hoperation bench.device hbench
  refine ⟨hkept, ?_⟩
  simp only [call, ExceptT.run, ExceptT.mk, Translation.bench]
  rw [himage]
  rfl

theorem CarriedBy.bind {view : α → β} {results : γ → δ} {original : Work σ S P α}
    {image : Work τ T Q β} {next : α → Work σ S P γ} {imageNext : β → Work τ T Q δ}
    (hfirst : original.CarriedBy tr view image)
    (hnext : ∀ value, (next value).CarriedBy tr results (imageNext (view value))) :
    (original >>= next).CarriedBy tr results (image >>= imageNext) := by
  intro bench hbench
  obtain ⟨hkept, himage⟩ := hfirst bench hbench
  rw [run_bind, run_bind, himage]
  rcases hrun : original.run bench with ⟨value | value, after⟩
  · rw [hrun] at hkept
    exact ⟨hkept, rfl⟩
  · rw [hrun] at hkept
    exact hnext value after hkept

theorem CarriedBy.attempt {view : α → β} {original : Work σ S P α} {image : Work τ T Q β}
    (hwork : original.CarriedBy tr view image) :
    (attempt original).CarriedBy tr (Except.map view) (attempt image) := by
  intro bench hbench
  obtain ⟨hkept, himage⟩ := hwork bench hbench
  refine ⟨hkept, ?_⟩
  simp only [Work.attempt, ExceptT.run_mk]
  rw [himage]
  rfl

theorem CarriedBy.map {view : α → β} {original : Work σ S P α} {image : Work τ T Q α}
    (hwork : original.CarriedBy tr id image) :
    (do return view (← original)).CarriedBy tr id (do return view (← image)) :=
  hwork.bind fun value => carried_pure (view value)

end Work

open Work

section

variable {tr : Translation σ τ S T P Q}

/-! ## Files -/

theorem readStage_carried (path : String) :
    (readStage path : Work σ S P String).CarriedBy tr id (readStage path) :=
  (carried_readFile path).map

theorem writeStage_carried (path text : String) :
    (writeStage path text : Work σ S P Unit).CarriedBy tr id (writeStage path text) :=
  carried_writeFile path _

theorem loadSources_carried (paths : Paths) :
    (loadSources paths : Work σ S P Sources).CarriedBy tr id (loadSources paths) := by
  apply (readStage_carried paths.vertex).bind
  intro vertex
  apply (readStage_carried paths.fragment).bind
  intro fragment
  cases paths.geometryPath with
  | none =>
      simp only [id]
      have hempty : (pure "" : Work σ S P String).CarriedBy tr id (pure "") :=
        carried_pure ""
      apply hempty.bind
      intro geometry
      exact (carried_note _).map
  | some path =>
      simp only [id]
      apply (readStage_carried path).bind
      intro geometry
      exact (carried_note _).map

theorem saveSources_carried (sources : Sources) (paths : Paths) :
    (saveSources sources paths : Work σ S P Unit).CarriedBy tr id
      (saveSources sources paths) := by
  apply (writeStage_carried paths.vertex sources.vertex).bind
  intro _
  apply (writeStage_carried paths.fragment sources.fragment).bind
  intro _
  cases paths.geometryPath with
  | none => exact carried_pure ()
  | some path =>
      cases hgeometry : sources.hasGeometry with
      | true => simpa using writeStage_carried path sources.geometry
      | false => simpa using carried_pure ()

theorem loadConfiguration_carried (path : String) :
    (loadConfiguration path : Work σ S P Configuration).CarriedBy tr id
      (loadConfiguration path) := by
  apply (carried_readFile path).bind
  intro content
  simp only [id]
  cases Utf8.text? content with
  | none => exact carried_throw _
  | some document =>
      apply (carried_ended (Configuration.ofDocument document)).bind
      intro config
      exact (carried_note _).map

theorem saveVariants_carried (variants : List Sources) (outputs : List Paths) :
    (saveVariants variants outputs : Work σ S P Unit).CarriedBy tr id
      (saveVariants variants outputs) := by
  induction variants generalizing outputs with
  | nil => exact carried_pure ()
  | cons sources rest ih =>
      cases outputs with
      | nil => exact carried_pure ()
      | cons paths later =>
          apply (saveSources_carried sources paths).bind
          intro _
          exact ih later

theorem dumpVariants_carried (config : Configuration) (family : Family) (paths : Paths)
    (outputs : List Paths) :
    (dumpVariants config family paths outputs : Work σ S P Unit).CarriedBy tr id
      (dumpVariants config family paths outputs) := by
  apply (loadSources_carried paths).bind
  intro templates
  by_cases hcount : (family.variants config templates).length ≠ outputs.length
  · simpa [hcount] using carried_throw _
  · simp only [id, if_neg hcount]
    apply (saveVariants_carried _ outputs).bind
    intro _
    exact carried_note _

/-! ## Programs -/

section

variable {original : Device σ S P} {image : Device τ T Q}
  (hdevices : original.CarriedBy tr image)
include hdevices

theorem releaseStages_carried (stages : List S) :
    (releaseStages original stages).CarriedBy tr id
      (releaseStages image (stages.map tr.stage)) := by
  induction stages with
  | nil => exact carried_pure ()
  | cons stage rest ih =>
      apply (carried_call (hdevices.destroyStage stage)).bind
      intro _
      exact ih

theorem compileRemaining_carried (done : List S) (remaining : List (Stage × String)) :
    (compileRemaining original done remaining).CarriedBy tr (List.map tr.stage)
      (compileRemaining image (done.map tr.stage) remaining) := by
  -- on the parts that are left; the stages that are done grow with each of them
  induction remaining generalizing done with
  | nil => exact carried_pure done
  | cons part rest ih =>
      obtain ⟨kind, text⟩ := part
      apply (carried_call (hdevices.createStage kind)).bind
      intro created
      cases created with
      | error reason =>
          apply (releaseStages_carried hdevices done).bind
          intro _
          exact carried_throw _
      | ok stage =>
          apply (carried_call (hdevices.compileStage stage text)).bind
          intro compiled
          cases compiled with
          | error diagnostic =>
              apply (carried_note (.stageFailed kind diagnostic)).bind
              intro _
              apply (carried_call (hdevices.destroyStage stage)).bind
              intro _
              apply (releaseStages_carried hdevices done).bind
              intro _
              exact carried_throw _
          | ok =>
              apply (carried_note (.stageCompiled kind stage)).bind
              intro _
              have hrest := ih (done ++ [stage])
              rwa [List.map_append] at hrest

theorem compileStages_carried (sources : Sources) :
    (compileStages original sources).CarriedBy tr (List.map tr.stage)
      (compileStages image sources) :=
  compileRemaining_carried hdevices [] sources.stages

theorem attachStages_carried (program : P) (stages : List S) :
    (attachStages original program stages).CarriedBy tr id
      (attachStages image (tr.program program) (stages.map tr.stage)) := by
  induction stages with
  | nil => exact carried_pure ()
  | cons stage rest ih =>
      apply (carried_call (hdevices.attachStage program stage)).bind
      intro _
      exact ih

theorem linkProgram_carried (stages : List S) :
    (linkProgram original stages).CarriedBy tr tr.program
      (linkProgram image (stages.map tr.stage)) := by
  apply (carried_call hdevices.createProgram).bind
  intro created
  cases created with
  | error reason => exact carried_throw _
  | ok program =>
      apply (attachStages_carried hdevices program stages).bind
      intro _
      apply (carried_call (hdevices.linkProgram program)).bind
      intro linked
      cases linked with
      | ok =>
          simp only [id, List.length_map]
          apply (carried_note (.programLinked program stages.length)).bind
          intro _
          exact carried_pure program
      | error diagnostic =>
          apply (carried_note (.programFailed diagnostic)).bind
          intro _
          apply (carried_call (hdevices.destroyProgram program)).bind
          intro _
          exact carried_throw _

theorem linkProgramReleasing_carried (stages : List S) :
    (linkProgramReleasing original stages).CarriedBy tr tr.program
      (linkProgramReleasing image (stages.map tr.stage)) := by
  apply (linkProgram_carried hdevices stages).attempt.bind
  intro result
  apply (releaseStages_carried hdevices stages).bind
  intro _
  exact carried_conclude result

theorem buildProgram_carried (release : Bool) (sources : Sources) :
    (buildProgram original release sources).CarriedBy tr tr.program
      (buildProgram image release sources) := by
  apply (compileStages_carried hdevices sources).bind
  intro stages
  cases release with
  | true => exact linkProgramReleasing_carried hdevices stages
  | false => exact linkProgram_carried hdevices stages

/-! ## Locations -/

theorem lookUp_carried (program : P) (slot : Slot) :
    (lookUp original program slot).CarriedBy tr tr.location
      (lookUp image (tr.program program) slot) := by
  rcases slot with name | name
  · apply (carried_call (hdevices.attributeLocation program name)).bind
    intro location
    rw [tr.isFound_location]
    cases location.isFound with
    | true => exact carried_pure location
    | false =>
        exact (carried_note (.attributeMissing name program)).bind fun _ =>
          carried_pure location
  · apply (carried_call (hdevices.uniformLocation program name)).bind
    intro location
    rw [tr.isFound_location]
    cases location.isFound with
    | true => exact carried_pure location
    | false =>
        exact (carried_note (.uniformMissing name program)).bind fun _ =>
          carried_pure location

end

theorem carriedBy_sequential :
    Sequential (α := α) (m := Work σ S P) (n := Work τ T Q) fun _ _ _ results work image =>
      work.CarriedBy tr results image where
  pure _ value := carried_pure value
  bind := CarriedBy.bind

/-! ## Families -/

section

variable {original : Device σ S P} {image : Device τ T Q}
  (hdevices : original.CarriedBy tr image)
include hdevices

theorem resolve_carried (program : P) (kind : TableKind) :
    (resolve original program kind).CarriedBy tr tr.table
      (resolve image (tr.program program) kind) :=
  carriedBy_sequential.table (lookUp_carried hdevices program) kind.slots

theorem buildVariant_carried (release : Bool) (family : Family) (sources : Sources) :
    (buildVariant original release family sources).CarriedBy tr tr.program
      (buildVariant image release family sources) := by
  apply (buildProgram_carried hdevices release sources).attempt.bind
  intro result
  cases result with
  | ok program =>
      apply (carried_note (.familyBuilt family program)).bind
      intro _
      exact carried_pure program
  | error error =>
      apply (carried_note (.familyFailed family error)).bind
      intro _
      exact carried_throw error

theorem buildSingle_carried (release : Bool) (family : Family) (plan : VariantPlan)
    (kind : TableKind) (paths : Paths) :
    (buildSingle original release family plan kind paths).CarriedBy tr tr.linked
      (buildSingle image release family plan kind paths) := by
  apply (loadSources_carried paths).bind
  intro templates
  apply (buildVariant_carried hdevices release family (plan.apply templates)).bind
  intro program
  apply (resolve_carried hdevices program kind).bind
  intro locations
  exact carried_pure (LinkedProgram.mk program locations)

theorem buildDirectional_carried (release : Bool) (family : Family)
    (plans : DirectionalPair VariantPlan) (kind : TableKind) (paths : Paths) :
    (buildDirectional original release family plans kind paths).CarriedBy tr
      (fun pair => ⟨tr.linked pair.horizontal, tr.linked pair.vertical⟩)
      (buildDirectional image release family plans kind paths) := by
  apply (loadSources_carried paths).bind
  intro templates
  apply (buildVariant_carried hdevices release family
    (plans.horizontal.apply templates)).bind
  intro horizontal
  apply (buildVariant_carried hdevices release family
    (plans.vertical.apply templates)).attempt.bind
  intro result
  cases result with
  | ok vertical =>
      apply (resolve_carried hdevices horizontal kind).bind
      intro horizontalLocations
      apply (resolve_carried hdevices vertical kind).bind
      intro verticalLocations
      exact carried_pure (DirectionalPair.mk (LinkedProgram.mk horizontal horizontalLocations)
        (LinkedProgram.mk vertical verticalLocations))
  | error error =>
      apply (carried_call (hdevices.destroyProgram horizontal)).bind
      intro _
      exact carried_throw error

theorem buildFamily_carried (config : Configuration) (release : Bool) (family : Family)
    (paths : Paths) :
    (buildFamily original config release family paths).CarriedBy tr (List.map tr.linked)
      (buildFamily image config release family paths) := by
  cases family with
  | dofBlur | blur =>
      exact (buildDirectional_carried hdevices release _ _ _ paths).bind fun pair =>
        carried_pure pair.toList
  | color | shadow | dofCoc | blend | ssr | bloomSearch | cubemap =>
      exact (buildSingle_carried hdevices release _ _ _ paths).bind fun linked =>
        carried_pure [linked]

end

end

end ShaderFamilies
