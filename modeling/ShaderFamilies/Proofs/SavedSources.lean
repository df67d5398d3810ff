import Mathlib.Data.List.Forall2
import ShaderFamilies.Proofs.EncodedText
import ShaderFamilies.Proofs.FilePlaces
import ShaderFamilies.Proofs.FirstFailure
import ShaderFamilies.Proofs.WrittenTexts

/-!
# Sources that were saved

Texts that are written to different places stand there side by side, and what is at
any other place stays.  So stage texts that were saved are loaded as they were: their
encoding is always taken for what it is, whatever the characters.
-/

namespace ShaderFamilies

variable {σ S P : Type}

namespace FileTree

variable {files after : FileTree} {path text : String} {place : Place}
  {texts : List (String × String)} {places : List Place}

/-! ## Texts at their places -/

/-- What files become when texts are written to places. -/
structure FilledBy (files after : FileTree) (texts : List (String × String))
    (places : List Place) : Prop where
  written : files.Written texts after
  names : ∀ path place, files.Names path place → after.Names path place
  elsewhere : ∀ place ∉ places, after.node? place = files.node? place
  contents : ∀ output ∈ texts, after.read output.1 = .ok (Utf8.encode output.2)

theorem FilledBy.nothing (files : FileTree) : files.FilledBy files [] [] where
  written := .nothing files
  names := fun _ _ => id
  elsewhere := fun _ _ => rfl
  contents := List.forall_mem_nil _

theorem FilledBy.cons (htarget : files.target path = .ok place) (hnew : place ∉ places)
    (hrest : (files.insert place (.file (Utf8.encode text))).FilledBy after texts places) :
    files.FilledBy after ((path, text) :: texts) (place :: places) := by
  rcases target_eq_ok_iff.mp htarget with ⟨hnames, hplace⟩
  constructor
  · exact .wrote (write_of_target htarget) hrest.written
  · intro path other hother
    exact hrest.names path other (hother.insert hplace)
  · intro other hother
    rw [List.mem_cons, not_or] at hother
    rw [hrest.elsewhere other hother.2, node?_insert hplace, if_neg hother.1]
  · rw [List.forall_mem_cons]
    refine ⟨?_, hrest.contents⟩
    apply read_eq_ok_iff.mpr
    refine ⟨place, hrest.names path place (hnames.insert hplace), ?_⟩
    rw [hrest.elsewhere place hnew, node?_insert hplace, if_pos rfl]

/-- Texts for different places can all be written. -/
theorem exists_filledBy
    (hplaces : List.Forall₂ (fun output place => files.target output.1 = .ok place)
      texts places)
    (hdistinct : places.Nodup) : ∃ after, files.FilledBy after texts places := by
  induction texts generalizing files places with
  | nil =>
      cases hplaces
      exact ⟨files, .nothing files⟩
  | cons output texts ih =>
      obtain ⟨path, text⟩ := output
      cases hplaces with
      | @cons _ place _ places htarget hrest =>
          rcases List.nodup_cons.mp hdistinct with ⟨hnew, hdistinct⟩
          have hplace := (target_eq_ok_iff.mp htarget).2
          have hkept : List.Forall₂ (fun output place =>
              (files.insert _ (.file (Utf8.encode text))).target output.1 = .ok place)
              texts places :=
            hrest.imp fun _ _ => target_insert hplace
          rcases ih hkept hdistinct with ⟨after, hfilled⟩
          exact ⟨after, .cons htarget hnew hfilled⟩

/-- What another path reads is still there. -/
theorem FilledBy.read_eq (hfilled : files.FilledBy after texts places) {content : Bytes}
    (hread : files.read path = .ok content)
    (hother : ∀ place ∈ places, files.target path ≠ .ok place) :
    after.read path = .ok content := by
  rcases read_eq_ok_iff.mp hread with ⟨place, hnames, hnode⟩
  have hplace : place ∉ places := by
    intro hmem
    have htarget := target_eq_ok_iff.mpr ⟨hnames, by simp [hnode]⟩
    exact hother place hmem htarget
  apply read_eq_ok_iff.mpr
  refine ⟨place, hfilled.names path place hnames, ?_⟩
  rw [hfilled.elsewhere place hplace]
  exact hnode

theorem stageText_of_read (hread : files.read path = .ok (Utf8.encode text)) :
    files.stageText path = .ok text := by
  unfold stageText
  rw [hread]
  dsimp only
  rw [Utf8.lenient_encode]

end FileTree

/-! ## Saving and loading -/

/-- Stage texts and paths agree on whether there is a geometry stage. -/
theorem Sources.map_textsAt (sources : Sources) {paths : Paths}
    (hgeometry : sources.hasGeometry = paths.geometryPath.isSome) :
    (sources.textsAt paths).map Prod.fst = paths.files := by
  unfold textsAt Paths.files
  cases hpath : paths.geometryPath with
  | none => rfl
  | some path =>
      rw [hpath] at hgeometry
      dsimp only
      rw [hgeometry]
      rfl

theorem FileTree.sources_of_contents {files : FileTree} {sources : Sources} {paths : Paths}
    (hgeometry : sources.hasGeometry = paths.geometryPath.isSome)
    (hcontents : ∀ output ∈ sources.textsAt paths,
      files.read output.1 = .ok (Utf8.encode output.2)) :
    files.sources paths = .ok sources := by
  unfold Sources.textsAt at hcontents
  rw [List.forall_mem_cons, List.forall_mem_cons] at hcontents
  rcases hcontents with ⟨hvertex, hfragment, hrest⟩
  have hgeometryText : files.geometryText paths = .ok sources.geometry := by
    unfold geometryText
    cases hpath : paths.geometryPath with
    | none =>
        have hempty : sources.geometry = "" := by
          simpa [hpath, Sources.hasGeometry] using hgeometry
        rw [hempty]
    | some path =>
        rw [hpath, Option.isSome_some] at hgeometry
        rw [hpath] at hrest
        dsimp only at hrest
        rw [if_pos hgeometry, List.forall_mem_singleton] at hrest
        exact stageText_of_read hrest
  unfold FileTree.sources
  rw [stageText_of_read hvertex, stageText_of_read hfragment, hgeometryText]
  rfl

theorem observe_saveSources {files after : FileTree} {sources : Sources} {paths : Paths}
    (hwritten : files.Written (sources.textsAt paths) after) (state : σ) :
    observe (saveSources sources paths : Work (Recorded σ (DeviceCall S P)) S P Unit)
      files state =
      { result := .ok (), calls := [], log := [], files := after, state } := by
  have hrun := saveSources_writes (S := S) (P := P) sources paths
    { files, device := (⟨state, #[]⟩ : Recorded σ (DeviceCall S P)), log := #[] }
  rw [hwritten.writeTexts_eq] at hrun
  exact observe_of_run hrun

theorem observe_readStage {files : FileTree} {path text : String}
    (htext : files.stageText path = .ok text) (state : σ) :
    (observe (readStage path : Work (Recorded σ (DeviceCall S P)) S P String)
      files state).result = .ok text := by
  rw [observe_of_run (readStage_run path _)]
  exact htext

/-- A text that was read, whatever the bytes, is read again where it is written. -/
theorem readStage_writeStage {files : FileTree} {path other : String} {place : Place}
    {content : Bytes} (hread : files.read path = .ok content)
    (htarget : files.target other = .ok place) (state : σ) :
    ∃ text, (observe (readStage path :
        Work (Recorded σ (DeviceCall S P)) S P String) files state).result = .ok text ∧
      let save := observe (writeStage other text :
        Work (Recorded σ (DeviceCall S P)) S P Unit) files state
      save.result = .ok () ∧
        (observe (readStage other : Work (Recorded σ (DeviceCall S P)) S P String)
          save.files save.state).result = .ok text := by
  have htext : files.stageText path = .ok (Utf8.lenient content) := by
    unfold FileTree.stageText
    rw [hread]
  have hfilled := FileTree.FilledBy.cons htarget List.not_mem_nil
    (FileTree.FilledBy.nothing
      (files.insert place (.file (Utf8.encode (Utf8.lenient content)))))
  have hrun := writeStage_writes (S := S) (P := P) other (Utf8.lenient content)
    { files, device := (⟨state, #[]⟩ : Recorded σ (DeviceCall S P)), log := #[] }
  rw [hfilled.written.writeTexts_eq] at hrun
  refine ⟨Utf8.lenient content, observe_readStage htext state, ?_⟩
  rw [observe_of_run hrun]
  have hagain := FileTree.stageText_of_read (hfilled.contents _ List.mem_cons_self)
  exact ⟨rfl, observe_readStage hagain state⟩

/-- Stage texts that are saved to different places for files, a geometry text among
them exactly if there is a path for it, are loaded as they were; all other places and
what other paths read stay.  A text that was loaded from any bytes comes back when it
is written and loaded again. -/
theorem saveSources_loadSources (files : FileTree) (state : σ) :
    (∀ (sources : Sources) (paths : Paths) (places : List Place),
      List.Forall₂ (fun path place => files.target path = .ok place) paths.files places →
      places.Nodup →
      (sources.geometry ≠ "" ∧ paths.geometryPath.isSome = true ∨
        sources.geometry = "" ∧ paths.geometryPath = none) →
      let save := observe (saveSources sources paths :
        Work (Recorded σ (DeviceCall S P)) S P Unit) files state
      let load := observe (loadSources paths :
        Work (Recorded σ (DeviceCall S P)) S P Sources) save.files save.state
      save.result = .ok () ∧ load.result = .ok sources ∧
        (∀ place ∉ places, save.files.node? place = files.node? place) ∧
        ∀ path content, files.read path = .ok content →
          (∀ place ∈ places, files.target path ≠ .ok place) →
          save.files.read path = .ok content) ∧
    ∀ (path other : String) (place : Place) (content : Bytes),
      files.read path = .ok content → files.target other = .ok place →
      ∃ text, (observe (readStage path :
          Work (Recorded σ (DeviceCall S P)) S P String) files state).result = .ok text ∧
        let save := observe (writeStage other text :
          Work (Recorded σ (DeviceCall S P)) S P Unit) files state
        save.result = .ok () ∧
          (observe (readStage other : Work (Recorded σ (DeviceCall S P)) S P String)
            save.files save.state).result = .ok text := by
  constructor
  · intro sources paths places hplaces hdistinct hstage save load
    have hgeometry : sources.hasGeometry = paths.geometryPath.isSome := by
      rcases hstage with ⟨hfilled, hpath⟩ | ⟨hempty, hpath⟩
      · rw [hpath]
        exact sources.hasGeometry_iff.mpr hfilled
      · simp [Sources.hasGeometry, hempty, hpath]
    rw [← sources.map_textsAt hgeometry, List.forall₂_map_left_iff] at hplaces
    rcases FileTree.exists_filledBy hplaces hdistinct with ⟨after, hfilled⟩
    have hsave : save = ⟨.ok (), [], [], after, state⟩ :=
      observe_saveSources hfilled.written state
    have hload : load.result = save.files.sources paths :=
      observe_loadSources paths save.files save.state
    rw [hload, hsave]
    refine ⟨rfl, FileTree.sources_of_contents hgeometry hfilled.contents,
      hfilled.elsewhere, ?_⟩
    intro path content hread hother
    exact hfilled.read_eq hread hother
  · intro path other place content hread htarget
    exact readStage_writeStage hread htarget state

/-- A directory, and a file that is no valid text. -/
def strayFiles : FileTree :=
  ⟨[(["d"], .directory), (["v"], .file [0x61, 0xFF])]⟩

def spreadPaths : Paths where
  vertex := "v"
  fragment := "d/f"
  geometry := some "d/../g"

def accentedSources : Sources where
  vertex := "é"
  fragment := "b"
  geometry := "→"

theorem saveSources_loadSources_accented :
    let save := observe (saveSources accentedSources spreadPaths :
      Work (Recorded Unit (DeviceCall Nat Nat)) Nat Nat Unit) strayFiles ()
    [["v"], ["d", "f"], ["g"]].Nodup ∧
      strayFiles.target "v" = .ok ["v"] ∧ strayFiles.target "d/f" = .ok ["d", "f"] ∧
      strayFiles.target "d/../g" = .ok ["g"] ∧ strayFiles.read "v" = .ok [0x61, 0xFF] ∧
      save.result = .ok () ∧
      (observe (loadSources spreadPaths :
        Work (Recorded Unit (DeviceCall Nat Nat)) Nat Nat Sources)
        save.files save.state).result = .ok accentedSources ∧
      save.files.node? ["d"] = some .directory ∧
      ∃ text, (observe (readStage "v" :
          Work (Recorded Unit (DeviceCall Nat Nat)) Nat Nat String)
          strayFiles ()).result = .ok text ∧
        let copy := observe (writeStage "d/f" text :
          Work (Recorded Unit (DeviceCall Nat Nat)) Nat Nat Unit) strayFiles ()
        copy.result = .ok () ∧
          (observe (readStage "d/f" :
            Work (Recorded Unit (DeviceCall Nat Nat)) Nat Nat String)
            copy.files copy.state).result = .ok text := by
  intro save
  have hvertex : strayFiles.target "v" = .ok ["v"] := rfl
  have hfragment : strayFiles.target "d/f" = .ok ["d", "f"] := rfl
  have hgeometry : strayFiles.target "d/../g" = .ok ["g"] := rfl
  have hread : strayFiles.read "v" = .ok [0x61, 0xFF] := rfl
  have hdistinct : ([["v"], ["d", "f"], ["g"]] : List Place).Nodup := by decide
  have hplaces : List.Forall₂ (fun path place => strayFiles.target path = .ok place)
      spreadPaths.files [["v"], ["d", "f"], ["g"]] :=
    .cons hvertex (.cons hfragment (.cons hgeometry .nil))
  rcases saveSources_loadSources (S := Nat) (P := Nat) strayFiles () with ⟨hsaved, hcopied⟩
  rcases hsaved accentedSources spreadPaths _ hplaces hdistinct (.inl (by decide)) with
    ⟨hsave, hload, hkept, _⟩
  refine ⟨hdistinct, hvertex, hfragment, hgeometry, hread, hsave, hload, ?_, ?_⟩
  · exact hkept ["d"] (by decide)
  · exact hcopied "v" "d/f" ["d", "f"] [0x61, 0xFF] hread hfragment

end ShaderFamilies
