import ShaderFamilies.FamilyVariants
import ShaderFamilies.Proofs.MarkerSearch

/-!
# What a variant leaves alone

A family replaces the marker in some stages.  The other stages keep their texts,
except that the variants of a separable pass have no geometry stage, whatever the
templates have.
-/

namespace ShaderFamilies

/-- The stages in which a family replaces the marker. -/
def Family.specializedStages : Family → List Stage
  | .color | .shadow => [.vertex, .fragment]
  | .ssr | .bloomSearch => []
  | .dofBlur | .dofCoc | .blend | .blur | .cubemap => [.fragment]

theorem Family.geometry_not_mem_specializedStages (family : Family) :
    Stage.geometry ∉ family.specializedStages := by
  cases family <;> decide

/-! ## Plans by stage -/

/-- The block of a stage.  No plan has one for the geometry stage. -/
def VariantPlan.block (plan : VariantPlan) : Stage → Option DefineBlock
  | .vertex => plan.vertex
  | .fragment => plan.fragment
  | .geometry => none

theorem VariantPlan.text_apply (plan : VariantPlan) (templates : Sources) {stage : Stage}
    (hstage : stage ≠ .geometry) :
    (plan.apply templates).text stage =
      specializeStage (plan.block stage) (templates.text stage) := by
  cases stage with
  | vertex => rfl
  | fragment => rfl
  | geometry => exact absurd rfl hstage

theorem Sources.ext_text {first second : Sources}
    (htext : ∀ stage, first.text stage = second.text stage) : first = second := by
  have hvertex := htext .vertex
  have hfragment := htext .fragment
  have hgeometry := htext .geometry
  cases first
  cases second
  simp_all [Sources.text]

namespace Family

variable {family : Family} {config : Configuration} {plan : VariantPlan}

theorem isSome_block (hplan : plan ∈ family.plans config) (stage : Stage) :
    (plan.block stage).isSome = decide (stage ∈ family.specializedStages) := by
  cases family
  case dofBlur | blur =>
    rcases List.mem_pair.mp hplan with rfl | rfl <;> cases stage <;> rfl
  all_goals
    rw [List.mem_singleton.mp hplan]
    cases stage <;> rfl

theorem keepsGeometry_of_mem (hplan : plan ∈ family.plans config) :
    plan.keepsGeometry = !family.isDirectional := by
  cases family
  case dofBlur | blur =>
    rcases List.mem_pair.mp hplan with rfl | rfl <;> rfl
  all_goals
    rw [List.mem_singleton.mp hplan]
    rfl

/-! ## Variants by stage -/

variable {templates variant : Sources}

theorem exists_plan (hvariant : variant ∈ family.variants config templates) :
    ∃ plan ∈ family.plans config, variant = plan.apply templates := by
  obtain ⟨plan, hplan, happly⟩ := List.mem_map.mp hvariant
  exact ⟨plan, hplan, happly.symm⟩

theorem exists_block (hvariant : variant ∈ family.variants config templates) {stage : Stage}
    (hstage : stage ∈ family.specializedStages) :
    ∃ plan ∈ family.plans config, ∃ block, plan.block stage = some block ∧
      variant.text stage = block.apply (templates.text stage) := by
  obtain ⟨plan, hplan, rfl⟩ := exists_plan hvariant
  have hsome : (plan.block stage).isSome = true := by
    rw [isSome_block hplan stage]
    exact decide_eq_true hstage
  obtain ⟨block, hblock⟩ := Option.isSome_iff_exists.mp hsome
  have hne : stage ≠ .geometry := by
    intro heq
    exact family.geometry_not_mem_specializedStages (heq ▸ hstage)
  refine ⟨plan, hplan, block, hblock, ?_⟩
  rw [plan.text_apply templates hne, hblock]
  rfl

theorem text_of_not_mem (hvariant : variant ∈ family.variants config templates)
    {stage : Stage} (hstage : stage ∉ family.specializedStages) (hne : stage ≠ .geometry) :
    variant.text stage = templates.text stage := by
  obtain ⟨plan, hplan, rfl⟩ := exists_plan hvariant
  have hnone : plan.block stage = none := by
    rw [← Option.not_isSome_iff_eq_none, isSome_block hplan stage]
    simpa using hstage
  rw [plan.text_apply templates hne, hnone]
  rfl

theorem geometry_of_mem (hvariant : variant ∈ family.variants config templates) :
    variant.geometry = if family.isDirectional then "" else templates.geometry := by
  obtain ⟨plan, hplan, rfl⟩ := exists_plan hvariant
  have hkeeps := keepsGeometry_of_mem hplan
  cases hdirectional : family.isDirectional <;>
    simp [VariantPlan.apply, hkeeps, hdirectional]

/-- Without markers, only the geometry stage may be lost. -/
theorem eq_of_not_marked (hvariant : variant ∈ family.variants config templates)
    (hmarked : ∀ stage ∈ family.specializedStages, ¬ Marked (templates.text stage)) :
    variant = { templates with
      geometry := if family.isDirectional then "" else templates.geometry } := by
  apply Sources.ext_text
  intro stage
  by_cases hstage : stage ∈ family.specializedStages
  · obtain ⟨plan, _, block, _, htext⟩ := exists_block hvariant hstage
    rw [htext, block.apply_of_not_marked (hmarked stage hstage)]
    cases stage with
    | vertex => rfl
    | fragment => rfl
    | geometry => exact absurd hstage family.geometry_not_mem_specializedStages
  · cases stage with
    | vertex => exact text_of_not_mem hvariant hstage (by decide)
    | fragment => exact text_of_not_mem hvariant hstage (by decide)
    | geometry => exact geometry_of_mem hvariant

end Family

/-- The geometry stage survives exactly where the pass is not separable or there
is none.  The other stages that a family does not specialize keep their texts, and
templates without markers come through as a whole where their geometry stage does. -/
theorem variants_keep_stages (family : Family) (config : Configuration)
    (templates variant : Sources) (hvariant : variant ∈ family.variants config templates) :
    let survives := family.isDirectional = true → templates.geometry = ""
    (variant.geometry = templates.geometry ↔ survives) ∧
    (∀ stage ∉ family.specializedStages, stage ≠ .geometry →
      variant.text stage = templates.text stage) ∧
    ((∀ stage, ¬ Marked (templates.text stage)) → (variant = templates ↔ survives)) := by
  intro survives
  have hgeometry := Family.geometry_of_mem hvariant
  have hsurvives : variant.geometry = templates.geometry ↔ survives := by
    rw [hgeometry]
    cases hdirectional : family.isDirectional with
    | false =>
        have hvacuous : survives := by
          intro hseparable
          rw [hdirectional] at hseparable
          cases hseparable
        exact ⟨fun _ => hvacuous, fun _ => rfl⟩
    | true => exact ⟨fun heq _ => heq.symm, fun hsurvives => (hsurvives hdirectional).symm⟩
  refine ⟨hsurvives, ?_, ?_⟩
  · intro stage hstage hne
    exact Family.text_of_not_mem hvariant hstage hne
  · intro hmarked
    rw [← hsurvives]
    constructor
    · intro heq
      rw [heq]
    · intro hsame
      have hwhole := Family.eq_of_not_marked hvariant fun stage _ => hmarked stage
      rw [hwhole, ← hgeometry, hsame]

theorem variants_keep_stages_cubemap :
    let templates : Sources := { vertex := "#algdef", geometry := "layout(points) in;" }
    let variant := (cubemapPlan {}).apply templates
    variant ∈ Family.cubemap.variants {} templates ∧
      variant.vertex = "#algdef" ∧ variant.geometry = "layout(points) in;" := by
  intro templates variant
  have hvariant : variant ∈ Family.cubemap.variants {} templates := List.mem_singleton_self _
  obtain ⟨hgeometry, hkept, _⟩ := variants_keep_stages .cubemap {} templates variant hvariant
  refine ⟨hvariant, hkept .vertex (by decide) (by decide), ?_⟩
  exact hgeometry.mpr fun hdirectional => Bool.noConfusion hdirectional

/-- Both variants of a separable pass lose a geometry stage, also where there is
no marker at all. -/
theorem separable_variants_drop_geometry :
    let templates : Sources := {
      vertex := "in vec3 inPos;\n"
      fragment := "out vec4 fragColor;\n"
      geometry := "layout(triangles) in;\n" }
    (∀ stage, ¬ Marked (templates.text stage)) ∧
      Family.dofBlur.variants {} templates =
        [{ templates with geometry := "" }, { templates with geometry := "" }] ∧
      ∀ variant ∈ Family.dofBlur.variants {} templates,
        variant.geometry ≠ templates.geometry ∧ variant ≠ templates := by
  intro templates
  have hvariants : Family.dofBlur.variants {} templates =
      [{ templates with geometry := "" }, { templates with geometry := "" }] := by
    decide +kernel
  refine ⟨?_, hvariants, ?_⟩
  · intro stage
    cases stage <;> decide +kernel
  · rw [hvariants]
    decide +kernel

end ShaderFamilies
