import ShaderFamilies.Proofs.BuildConduct

/-!
# What is written

Saving stage texts writes a list of texts, each to a path, and stops at the
first that cannot be written.  What came before stays written.
-/

namespace ShaderFamilies

variable {σ S P : Type}

/-- Writes texts to paths in order, up to the first fault. -/
def FileTree.writeTexts (files : FileTree) :
    List (String × String) → Except ShaderError Unit × FileTree
  | [] => (.ok (), files)
  | (path, text) :: rest =>
      match files.write path (Utf8.encode text) with
      | .ok written => written.writeTexts rest
      | .error fault => (.error (.file path fault), files)

theorem FileTree.writeTexts_append (files : FileTree) (first second : List (String × String)) :
    files.writeTexts (first ++ second) =
      match files.writeTexts first with
      | (.ok (), written) => written.writeTexts second
      | (.error error, written) => (.error error, written) := by
  induction first generalizing files with
  | nil => rfl
  | cons head rest ih =>
      obtain ⟨path, text⟩ := head
      rw [List.cons_append, FileTree.writeTexts, FileTree.writeTexts]
      cases files.write path (Utf8.encode text) with
      | ok written => exact ih written
      | error fault => rfl

namespace FileTree

/-- Each of the texts is written to its path, in order. -/
inductive Written : FileTree → List (String × String) → FileTree → Prop
  | nothing (files : FileTree) : Written files [] files
  | wrote {files next after : FileTree} {path text : String} {rest : List (String × String)}
      (hwrite : files.write path (Utf8.encode text) = .ok next)
      (hrest : Written next rest after) : Written files ((path, text) :: rest) after

/-- The texts are written up to the first one that cannot be written to its path. -/
inductive WrittenUpToFault (files : FileTree) :
    List (String × String) → Except ShaderError Unit → FileTree → Prop
  | all {texts : List (String × String)} {after : FileTree} (hall : files.Written texts after) :
      WrittenUpToFault files texts (.ok ()) after
  | fault {done rest : List (String × String)} {path text : String} {fault : FileFault}
      {after : FileTree} (hdone : files.Written done after)
      (hfault : after.write path (Utf8.encode text) = .error fault) :
      WrittenUpToFault files (done ++ (path, text) :: rest) (.error (.file path fault)) after

variable {files next after : FileTree} {path text : String} {texts : List (String × String)}

theorem WrittenUpToFault.cons {result : Except ShaderError Unit}
    (hwrite : files.write path (Utf8.encode text) = .ok next)
    (hrest : next.WrittenUpToFault texts result after) :
    files.WrittenUpToFault ((path, text) :: texts) result after := by
  cases hrest with
  | all hall => exact .all (.wrote hwrite hall)
  | fault hdone hfault => exact .fault (.wrote hwrite hdone) hfault

theorem Written.writeTexts_eq (hwritten : files.Written texts after) :
    files.writeTexts texts = (.ok (), after) := by
  induction hwritten with
  | nothing files => rfl
  | wrote hwrite hrest ih =>
      unfold writeTexts
      rw [hwrite]
      exact ih

end FileTree

/-- The texts that stage texts have for some paths: the geometry text is one of
them if it is not empty and there is a path for it. -/
def Sources.textsAt (sources : Sources) (paths : Paths) : List (String × String) :=
  (paths.vertex, sources.vertex) :: (paths.fragment, sources.fragment) ::
    match paths.geometryPath with
    | some path => if sources.hasGeometry then [(path, sources.geometry)] else []
    | none => []

/-- The texts of variants, each for its own paths. -/
def variantTexts (variants : List Sources) (outputs : List Paths) :
    List (String × String) :=
  (variants.zip outputs).flatMap fun output => output.1.textsAt output.2

/-- Work that writes the texts and does nothing else. -/
def Work.Writes (work : Work σ S P Unit) (texts : List (String × String)) : Prop :=
  ∀ bench, work.run bench =
    ((bench.files.writeTexts texts).1,
      { bench with files := (bench.files.writeTexts texts).2 })

theorem writes_pure : (pure () : Work σ S P Unit).Writes [] := by
  intro bench
  rfl

theorem Work.Writes.bind {first second : Work σ S P Unit}
    {texts later : List (String × String)} (hfirst : first.Writes texts)
    (hsecond : second.Writes later) :
    (do first; second : Work σ S P Unit).Writes (texts ++ later) := by
  intro bench
  rw [Work.run_bind, hfirst bench, FileTree.writeTexts_append]
  rcases bench.files.writeTexts texts with ⟨result, written⟩
  cases result with
  | ok value => exact hsecond _
  | error error => rfl

theorem writeStage_writes (path text : String) :
    (writeStage path text : Work σ S P Unit).Writes [(path, text)] := by
  intro bench
  simp only [writeStage, Work.writeFile, FileTree.writeTexts]
  cases hwrite : bench.files.write path (Utf8.encode text) with
  | ok written => simp [hwrite]
  | error fault => simp [hwrite]

theorem saveSources_writes (sources : Sources) (paths : Paths) :
    (saveSources sources paths : Work σ S P Unit).Writes (sources.textsAt paths) := by
  unfold saveSources Sources.textsAt
  apply (writeStage_writes paths.vertex sources.vertex).bind
  apply (writeStage_writes paths.fragment sources.fragment).bind
  cases paths.geometryPath with
  | none => exact writes_pure
  | some path =>
      cases hgeometry : sources.hasGeometry with
      | true => exact writeStage_writes path sources.geometry
      | false => exact writes_pure

theorem saveVariants_writes (variants : List Sources) (outputs : List Paths) :
    (saveVariants variants outputs : Work σ S P Unit).Writes
      (variantTexts variants outputs) := by
  induction variants generalizing outputs with
  | nil => exact writes_pure
  | cons sources variants ih =>
      cases outputs with
      | nil => exact writes_pure
      | cons paths outputs => exact (saveSources_writes sources paths).bind (ih outputs)

/-- The variants are written if there are as many outputs as variants, and
otherwise nothing is.  But for the log, nothing else changes. -/
theorem dumpVariants_leaves (config : Configuration) (family : Family) (paths : Paths)
    (outputs : List Paths) (bench : Workbench σ S P) {templates : Sources}
    (hload : bench.files.sources paths = .ok templates) :
    let variants := family.variants config templates
    let written :=
      if variants.length = outputs.length then
        bench.files.writeTexts (variantTexts variants outputs)
      else
        (.error (.configuration (.outputCount family variants.length outputs.length)),
          bench.files)
    ∃ log, (dumpVariants config family paths outputs).run bench =
      (written.1, { bench with files := written.2, log }) := by
  intro variants written
  unfold dumpVariants
  rw [Work.run_bind, loadSources_run, hload]
  dsimp only
  by_cases hcount : variants.length = outputs.length
  · have hwritten : written = bench.files.writeTexts (variantTexts variants outputs) :=
      if_pos hcount
    rw [if_neg (not_not_intro hcount), hwritten, Work.run_bind,
      saveVariants_writes variants outputs]
    dsimp only
    rcases bench.files.writeTexts (variantTexts variants outputs) with ⟨result, after⟩
    cases result with
    | ok value => exact ⟨_, rfl⟩
    | error error => exact ⟨_, rfl⟩
  · have hwritten : written = (.error (.configuration (.outputCount family variants.length
        outputs.length)), bench.files) := if_neg hcount
    rw [if_pos hcount, hwritten]
    exact ⟨_, rfl⟩

theorem dumpVariants_run (config : Configuration) (family : Family) (paths : Paths)
    (outputs : List Paths) (bench : Workbench (Recorded σ (DeviceCall S P)) S P)
    {templates : Sources} (hload : bench.files.sources paths = .ok templates) :
    let variants := family.variants config templates
    let outcome := (dumpVariants config family paths outputs).run bench
    (outcome.1, outcome.2.files) =
      if variants.length = outputs.length then
        bench.files.writeTexts (variantTexts variants outputs)
      else
        (.error (.configuration (.outputCount family variants.length outputs.length)),
          bench.files) := by
  intro variants outcome
  rcases dumpVariants_leaves config family paths outputs bench hload with ⟨log, hrun⟩
  have houtcome : outcome = _ := hrun
  rw [houtcome]

end ShaderFamilies
