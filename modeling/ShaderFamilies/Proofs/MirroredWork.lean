import ShaderFamilies.Proofs.CarriedWork

/-!
# Work that mirrors other work

Work over one device mirrors work over another if it takes the image of each
workbench to the image of what the other work makes of the workbench, and its
result is the image of the other result.  Both name their objects alike.  A build
over a device that mirrors another device mirrors the build over that device.
-/

namespace ShaderFamilies

variable {σ τ S P α β : Type} {states : σ → τ}

/-! ## Locations -/

/-- The location, or the standard one if it is not found. -/
def Location.standard (location : Location) : Location :=
  if location.isFound then location else notFound

theorem Location.isFound_standard (location : Location) :
    location.standard.isFound = location.isFound := by
  unfold standard
  cases hfound : location.isFound with
  | true => exact hfound
  | false => rfl

/-- The table with standard locations where a name is not found. -/
def Table.standard (table : Table Location) : Table Location :=
  table.map Location.standard

/-- The program with standard locations where a name is not found. -/
def LinkedProgram.standard (linked : LinkedProgram P) : LinkedProgram P :=
  ⟨linked.program, linked.locations.standard⟩

/-! ## Mirrored operations -/

/-- An operation takes the image of each state to the image of what the other
operation makes of the state, with the image of its answer. -/
def Mirrors (states : σ → τ) (answers : α → β) (original : StateM σ α)
    (image : StateM τ β) : Prop :=
  ∀ state, image (states state) = (answers (original state).1, states (original state).2)

/-- Each operation of a device mirrors that of the other; a location that is not
found becomes the standard one. -/
structure Device.MirroredBy (original : Device σ S P) (states : σ → τ)
    (image : Device τ S P) : Prop where
  createStage : ∀ kind, Mirrors states id (original.createStage kind) (image.createStage kind)
  compileStage : ∀ stage source,
    Mirrors states id (original.compileStage stage source) (image.compileStage stage source)
  destroyStage : ∀ stage,
    Mirrors states id (original.destroyStage stage) (image.destroyStage stage)
  createProgram : Mirrors states id original.createProgram image.createProgram
  attachStage : ∀ program stage,
    Mirrors states id (original.attachStage program stage) (image.attachStage program stage)
  linkProgram : ∀ program,
    Mirrors states id (original.linkProgram program) (image.linkProgram program)
  destroyProgram : ∀ program,
    Mirrors states id (original.destroyProgram program) (image.destroyProgram program)
  attributeLocation : ∀ program name,
    Mirrors states Location.standard (original.attributeLocation program name)
      (image.attributeLocation program name)
  uniformLocation : ∀ program name,
    Mirrors states Location.standard (original.uniformLocation program name)
      (image.uniformLocation program name)

/-! ## Mirrored work -/

/-- The workbench over the image of its device. -/
def Workbench.mapDevice (bench : Workbench σ S P) (states : σ → τ) : Workbench τ S P where
  files := bench.files
  device := states bench.device
  log := bench.log

/-- The image of the work, with the image of its result. -/
def Work.MirroredBy (original : Work σ S P α) (states : σ → τ) (results : α → β)
    (image : Work τ S P β) : Prop :=
  ∀ bench, image.run (bench.mapDevice states) =
    ((original.run bench).1.map results, (original.run bench).2.mapDevice states)

/-- The translation of the states only, which takes a location that is not found to
the standard one. -/
def Translation.mirror (states : σ → τ) : Translation σ τ S S P P where
  holds := fun _ => True
  states := states
  stage := id
  program := id
  location := Location.standard
  isFound_location := Location.isFound_standard

theorem bench_mirror (bench : Workbench σ S P) :
    (Translation.mirror states).bench bench = bench.mapDevice states := by
  have hrename : (LogEvent.rename id id : LogEvent S P → LogEvent S P) = id :=
    funext LogEvent.rename_id
  simp only [Translation.bench, Translation.mirror, hrename, Array.map_id_fun, id]
  rfl

theorem Work.CarriedBy.mirrored {original : Work σ S P α} {image : Work τ S P β}
    {results : α → β} (hwork : original.CarriedBy (.mirror states) results image) :
    original.MirroredBy states results image := by
  intro bench
  obtain ⟨_, himage⟩ := hwork bench trivial
  rw [bench_mirror, bench_mirror] at himage
  exact himage

theorem Mirrors.carries {original : StateM σ α} {image : StateM τ β} {answers : α → β}
    (hoperation : Mirrors states answers original image) :
    (Translation.mirror states : Translation σ τ S S P P).Carries answers original image :=
  fun state _ => ⟨trivial, hoperation state⟩

theorem Mirrors.carries_map {ε : Type} {original : StateM σ (Except ε α)}
    {image : StateM τ (Except ε α)} (hoperation : Mirrors states id original image) :
    (Translation.mirror states : Translation σ τ S S P P).Carries (Except.map id) original
      image := by
  rw [Except.map_id]
  exact hoperation.carries

theorem Device.MirroredBy.carried {original : Device σ S P} {image : Device τ S P}
    (hdevices : original.MirroredBy states image) :
    original.CarriedBy (.mirror states) image where
  createStage kind := (hdevices.createStage kind).carries_map
  compileStage stage source := (hdevices.compileStage stage source).carries
  destroyStage stage := (hdevices.destroyStage stage).carries
  createProgram := hdevices.createProgram.carries_map
  attachStage program stage := (hdevices.attachStage program stage).carries
  linkProgram program := (hdevices.linkProgram program).carries
  destroyProgram program := (hdevices.destroyProgram program).carries
  attributeLocation program name := (hdevices.attributeLocation program name).carries
  uniformLocation program name := (hdevices.uniformLocation program name).carries

/-! ## Files -/

theorem loadSources_mirrored (paths : Paths) :
    (loadSources paths : Work σ S P Sources).MirroredBy states id (loadSources paths) :=
  (loadSources_carried paths).mirrored

theorem saveSources_mirrored (sources : Sources) (paths : Paths) :
    (saveSources sources paths : Work σ S P Unit).MirroredBy states id
      (saveSources sources paths) :=
  (saveSources_carried sources paths).mirrored

theorem loadConfiguration_mirrored (path : String) :
    (loadConfiguration path : Work σ S P Configuration).MirroredBy states id
      (loadConfiguration path) :=
  (loadConfiguration_carried path).mirrored

theorem dumpVariants_mirrored (config : Configuration) (family : Family) (paths : Paths)
    (outputs : List Paths) :
    (dumpVariants config family paths outputs : Work σ S P Unit).MirroredBy states id
      (dumpVariants config family paths outputs) :=
  (dumpVariants_carried config family paths outputs).mirrored

/-! ## Programs -/

section

variable {original : Device σ S P} {image : Device τ S P}
  (hdevices : original.MirroredBy states image)
include hdevices

theorem compileStages_mirrored (sources : Sources) :
    (compileStages original sources).MirroredBy states id (compileStages image sources) := by
  have hwork := (compileStages_carried hdevices.carried sources).mirrored
  rwa [show List.map (Translation.mirror states : Translation σ τ S S P P).stage = id from
    List.map_id_fun] at hwork

theorem linkProgram_mirrored (stages : List S) :
    (linkProgram original stages).MirroredBy states id (linkProgram image stages) := by
  have hwork := (linkProgram_carried hdevices.carried stages).mirrored
  rwa [show stages.map (Translation.mirror states : Translation σ τ S S P P).stage = stages from
    List.map_id stages] at hwork

theorem linkProgramReleasing_mirrored (stages : List S) :
    (linkProgramReleasing original stages).MirroredBy states id
      (linkProgramReleasing image stages) := by
  have hwork := (linkProgramReleasing_carried hdevices.carried stages).mirrored
  rwa [show stages.map (Translation.mirror states : Translation σ τ S S P P).stage = stages from
    List.map_id stages] at hwork

theorem buildProgram_mirrored (release : Bool) (sources : Sources) :
    (buildProgram original release sources).MirroredBy states id
      (buildProgram image release sources) :=
  (buildProgram_carried hdevices.carried release sources).mirrored

theorem resolve_mirrored (program : P) (kind : TableKind) :
    (resolve original program kind).MirroredBy states Table.standard
      (resolve image program kind) :=
  (resolve_carried hdevices.carried program kind).mirrored

theorem buildFamily_mirrored (config : Configuration) (release : Bool) (family : Family)
    (paths : Paths) :
    (buildFamily original config release family paths).MirroredBy states
      (List.map LinkedProgram.standard) (buildFamily image config release family paths) :=
  (buildFamily_carried hdevices.carried config release family paths).mirrored

end

end ShaderFamilies
