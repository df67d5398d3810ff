import ShaderFamilies.Proofs.FirstFailure
import ShaderFamilies.Proofs.WrittenTexts
import ShaderFamilies.ScriptedDevice

/-!
# What is compiled and what is dumped

A build compiles the stages of the specialized variants in order, as far as it
comes, and a dump writes the texts of the same variants.
-/

namespace ShaderFamilies

variable {σ S P : Type}

/-- The stage that a step compiles. -/
def BuildStep.compiled? : BuildStep → Option (Stage × String)
  | .compileStage kind text => some (kind, text)
  | _ => none

theorem filterMap_stageSteps (stages : List (Stage × String)) :
    (stages.flatMap stageSteps).filterMap BuildStep.compiled? = stages := by
  induction stages with
  | nil => rfl
  | cons stage rest ih =>
      rw [List.flatMap_cons, List.filterMap_append, ih]
      rfl

theorem Sources.filterMap_steps (sources : Sources) :
    sources.steps.filterMap BuildStep.compiled? = sources.stages := by
  unfold Sources.steps
  rw [List.filterMap_append, filterMap_stageSteps]
  exact List.append_nil _

/-- The steps of a family compile the stages of its variants. -/
theorem Family.filterMap_steps (family : Family) (config : Configuration)
    (templates : Sources) :
    (family.steps config templates).filterMap BuildStep.compiled? =
      (family.variants config templates).flatMap Sources.stages := by
  unfold Family.steps
  induction family.variants config templates with
  | nil => rfl
  | cons sources rest ih =>
      rw [List.flatMap_cons, List.filterMap_append, Sources.filterMap_steps, ih,
        List.flatMap_cons]

variable [DecidableEq S] {kinds : S → Stage}

/-- The stages that calls compile: the kind with which each was created, and
the text. -/
def compiledStages (kinds : S → Stage) (calls : List (DeviceCall S P)) :
    List (Stage × String) :=
  (attempts kinds calls).filterMap fun attempt => attempt.step.compiled?

theorem compiledStages_eq (kinds : S → Stage) (calls : List (DeviceCall S P)) :
    compiledStages kinds calls =
      ((attempts kinds calls).map (·.step)).filterMap BuildStep.compiled? := by
  rw [List.filterMap_map]
  rfl

theorem TakesAll.compiledStages_eq {steps : List BuildStep}
    {calls : List (DeviceCall S P)} (htakes : TakesAll kinds steps calls) :
    compiledStages kinds calls = steps.filterMap BuildStep.compiled? := by
  rw [ShaderFamilies.compiledStages_eq, htakes, List.map_map]
  congr 1
  exact List.map_id steps

theorem StopsAt.compiledStages_prefix {steps : List BuildStep}
    {calls : List (DeviceCall S P)} {error : ShaderError}
    (hstops : StopsAt kinds steps calls error) :
    compiledStages kinds calls <+: steps.filterMap BuildStep.compiled? := by
  obtain ⟨taken, failing, left, diagnostic, hsteps, hattempts, _⟩ := hstops.attempts_eq
  have htried : (attempts kinds calls).map (·.step) = taken ++ [failing] := by
    rw [hattempts, List.map_append, List.map_map]
    congr 1
    exact List.map_id taken
  have hprefix : taken ++ [failing] <+: steps := by
    rw [hsteps]
    exact ⟨left, by simp⟩
  rw [ShaderFamilies.compiledStages_eq, htried]
  exact hprefix.filterMap BuildStep.compiled?

theorem Conducts.compiledStages_prefix {α : Type} {steps : List BuildStep}
    {calls : List (DeviceCall S P)} {result : Except ShaderError α}
    (hcalls : Conducts kinds steps calls result) :
    compiledStages kinds calls <+: steps.filterMap BuildStep.compiled? := by
  cases result with
  | ok value =>
      have hall := TakesAll.compiledStages_eq hcalls
      exact ⟨[], by rw [hall, List.append_nil]⟩
  | error error => exact StopsAt.compiledStages_prefix hcalls

/-- Where the templates can be read, the build compiles the stages of their
variants, each with its kind and text: all of them if it ends well, and
otherwise the first ones.  The variants are two for a separable pass, and the
texts that a dump writes, each to its output, are the texts of these variants. -/
theorem compiled_and_dumped_variants (device : Device σ S P) (config : Configuration)
    (release : Bool) (family : Family) (paths : Paths) (outputs : List Paths)
    (files : FileTree) (state : σ) (kinds : S → Stage) (templates : Sources)
    (hload : (observe
      (loadSources paths : Work (Recorded σ (DeviceCall S P)) S P Sources)
      files state).result = .ok templates) :
    let variants := family.variants config templates
    let build := observeFamily device config release family paths files state
    let dump := observe (dumpVariants config family paths outputs :
      Work (Recorded σ (DeviceCall S P)) S P Unit) files state
    compiledStages kinds build.calls <+: variants.flatMap Sources.stages ∧
    (∀ linked, build.result = .ok linked →
      compiledStages kinds build.calls = variants.flatMap Sources.stages) ∧
    (variants.length = 2 ↔ family.isDirectional = true) ∧
    (dump.result, dump.files) =
      if variants.length = outputs.length then
        files.writeTexts (variantTexts variants outputs)
      else
        (.error (.configuration (.outputCount family variants.length outputs.length)),
          files) := by
  intro variants build dump
  rw [observe_loadSources] at hload
  obtain ⟨deeds, hrun, hcalls⟩ :=
    observeFamily_builds device files config release family paths state
  change BuildsFamily files paths release family _ deeds build.result at hrun
  change build.calls = callsOf deeds at hcalls
  have hconducts : Conducts kinds (family.steps config templates) build.calls
      build.result := by
    rw [hcalls]
    exact hrun.conducts hload kinds
  have hstages : (family.steps config templates).filterMap BuildStep.compiled? =
      variants.flatMap Sources.stages := family.filterMap_steps config templates
  rw [← hstages]
  refine ⟨hconducts.compiledStages_prefix, ?_, ?_, ?_⟩
  · intro linked hresult
    rw [hresult] at hconducts
    exact TakesAll.compiledStages_eq hconducts
  · rw [family.length_variants config templates]
    cases family.isDirectional <;> decide
  · exact dumpVariants_run config family paths outputs _ hload

/-- Two templates, and a device that compiles no fragment stage. -/
def plainFiles : FileTree :=
  ⟨[(["v"], .file (Utf8.encode "a")), (["f"], .file (Utf8.encode "b"))]⟩

def fragmentFails : ScriptedObjects :=
  { script := { compileRules := [{ kind := some .fragment, log := "no main" }] } }

theorem compiled_and_dumped_variants_blur :
    (observe (loadSources { vertex := "v", fragment := "f" } :
        Work (Recorded ScriptedObjects (DeviceCall Nat Nat)) Nat Nat Sources)
      plainFiles fragmentFails).result = .ok { vertex := "a", fragment := "b" } ∧
    compiledStages (fun _ => .geometry)
      (observeFamily scriptedDevice {} true .blur { vertex := "v", fragment := "f" }
        plainFiles fragmentFails).calls = [(.vertex, "a"), (.fragment, "b")] ∧
    compiledStages (fun _ => .geometry)
      (observeFamily scriptedDevice {} true .blur { vertex := "v", fragment := "f" }
        plainFiles fragmentFails).calls <+:
      [(.vertex, "a"), (.fragment, "b"), (.vertex, "a"), (.fragment, "b")] := by
  have hload : (observe (loadSources { vertex := "v", fragment := "f" } :
        Work (Recorded ScriptedObjects (DeviceCall Nat Nat)) Nat Nat Sources)
      plainFiles fragmentFails).result = .ok { vertex := "a", fragment := "b" } := by
    rfl
  have hvariants : (Family.blur.variants {} { vertex := "a", fragment := "b" }).flatMap
      Sources.stages =
        [(.vertex, "a"), (.fragment, "b"), (.vertex, "a"), (.fragment, "b")] := by
    decide +kernel
  have hagree := compiled_and_dumped_variants scriptedDevice {} true .blur
    { vertex := "v", fragment := "f" } [] plainFiles fragmentFails (fun _ => .geometry)
    { vertex := "a", fragment := "b" } hload
  refine ⟨hload, by decide +kernel, ?_⟩
  rw [← hvariants]
  exact hagree.1

end ShaderFamilies
