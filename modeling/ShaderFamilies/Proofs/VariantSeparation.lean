import ShaderFamilies.Proofs.DirectiveLines

/-!
# What the texts of a family depend on

Where the stages that a family specializes carry a marker, the texts of its
variants tell apart exactly the configurations that differ in a setting of the
family.  No other setting has any influence.
-/

namespace ShaderFamilies

/-- Agreement of two configurations in all settings of a family. -/
def Family.Agree (family : Family) (first second : Configuration) : Prop :=
  match family with
  | .color =>
      first.flags.normalMapping = second.flags.normalMapping ∧
      first.flags.boneSystem = second.flags.boneSystem ∧
      first.flags.shadowMapping = second.flags.shadowMapping ∧
      first.flags.textureMapping = second.flags.textureMapping ∧
      first.flags.lighting = second.flags.lighting ∧
      first.flags.attenuation = second.flags.attenuation ∧
      first.flags.reflections = second.flags.reflections ∧
      first.color = second.color
  | .shadow =>
      first.flags.boneSystem = second.flags.boneSystem ∧
      first.flags.shadowLight = second.flags.shadowLight ∧
      first.shadow = second.shadow
  | .dofBlur => first.dofBlur = second.dofBlur
  | .dofCoc => first.dofBlur.algorithm = .cinematic ↔ second.dofBlur.algorithm = .cinematic
  | .blend =>
      first.flags.bloom = second.flags.bloom ∧
      first.flags.bloomBlend = second.flags.bloomBlend
  | .ssr | .bloomSearch => True
  | .blur => first.blur = second.blur
  | .cubemap => first.cubemap = second.cubemap

/-! ## Lines and settings -/

theorem append_optionalLine_inj {first second : List String} {line : String}
    (hfirst : line ∉ first) (hsecond : line ∉ second) (shown other : Bool) :
    first ++ optionalLine shown line = second ++ optionalLine other line ↔
      first = second ∧ shown = other := by
  cases shown with
  | true =>
      cases other with
      | true => simp [optionalLine]
      | false =>
          have hne : first ++ [line] ≠ second := by
            intro heq
            apply hsecond
            rw [← heq]
            exact List.mem_append_right first (List.mem_singleton_self line)
          simpa [optionalLine] using hne
  | false =>
      cases other with
      | true =>
          have hne : first ≠ second ++ [line] := by
            intro heq
            apply hfirst
            rw [heq]
            exact List.mem_append_right second (List.mem_singleton_self line)
          simpa [optionalLine] using hne
      | false => simp [optionalLine]

theorem colorLines_inj (flags flags' : FeatureFlags) (color color' : ColorParameters) :
    colorLines flags color = colorLines flags' color' ↔
      flags.normalMapping = flags'.normalMapping ∧
      flags.boneSystem = flags'.boneSystem ∧
      flags.shadowMapping = flags'.shadowMapping ∧
      flags.textureMapping = flags'.textureMapping ∧
      flags.lighting = flags'.lighting ∧
      flags.attenuation = flags'.attenuation ∧
      flags.reflections = flags'.reflections ∧
      color = color' := by
  cases color with | mk bones maxBones points dirs =>
  cases color' with | mk bones' maxBones' points' dirs' =>
  have hvertex : (colorLines flags ⟨bones, maxBones, points, dirs⟩).vertex =
      (colorLines flags' ⟨bones', maxBones', points', dirs'⟩).vertex ↔
        flags.normalMapping = flags'.normalMapping ∧ flags.boneSystem = flags'.boneSystem ∧
          bones = bones' ∧ maxBones = maxBones' := by
    simp [colorLines, mappingMode_words.injective.eq_iff, switch_words.injective.eq_iff,
      decimal_words.injective.eq_iff]
  have hfragment : (colorLines flags ⟨bones, maxBones, points, dirs⟩).fragment =
      (colorLines flags' ⟨bones', maxBones', points', dirs'⟩).fragment ↔
        flags.normalMapping = flags'.normalMapping ∧
          flags.shadowMapping = flags'.shadowMapping ∧
          flags.textureMapping = flags'.textureMapping ∧ flags.lighting = flags'.lighting ∧
          flags.attenuation = flags'.attenuation ∧ flags.reflections = flags'.reflections ∧
          points = points' ∧ dirs = dirs' := by
    simp [colorLines, mappingMode_words.injective.eq_iff, switch_words.injective.eq_iff,
      shadowMode_words.injective.eq_iff, decimal_words.injective.eq_iff]
  rw [StageLines.ext_iff, hvertex, hfragment, ColorParameters.mk.injEq]
  tauto

theorem shadowLines_inj (flags flags' : FeatureFlags) (shadow shadow' : ShadowParameters) :
    shadowLines flags shadow = shadowLines flags' shadow' ↔
      flags.boneSystem = flags'.boneSystem ∧
      flags.shadowLight = flags'.shadowLight ∧
      shadow = shadow' := by
  cases shadow with | mk bones maxBones =>
  cases shadow' with | mk bones' maxBones' =>
  have hvertex : (shadowLines flags ⟨bones, maxBones⟩).vertex =
      (shadowLines flags' ⟨bones', maxBones'⟩).vertex ↔
        flags.boneSystem = flags'.boneSystem ∧ flags.shadowLight = flags'.shadowLight ∧
          bones = bones' ∧ maxBones = maxBones' := by
    simp [shadowLines, switch_words.injective.eq_iff, shadowLight_words.injective.eq_iff,
      decimal_words.injective.eq_iff]
  have hfragment : (shadowLines flags ⟨bones, maxBones⟩).fragment =
      (shadowLines flags' ⟨bones', maxBones'⟩).fragment ↔
        flags.shadowLight = flags'.shadowLight := by
    simp [shadowLines, shadowLight_words.injective.eq_iff]
  rw [StageLines.ext_iff, hvertex, hfragment, ShadowParameters.mk.injEq]
  tauto

theorem blendLines_inj (flags flags' : FeatureFlags) :
    blendLines flags = blendLines flags' ↔
      flags.bloom = flags'.bloom ∧ flags.bloomBlend = flags'.bloomBlend := by
  simp [blendLines, switch_words.injective.eq_iff, bloomBlend_words.injective.eq_iff]

theorem blurLines_inj (blur blur' : BlurParameters) :
    blurLines blur = blurLines blur' ↔ blur = blur' := by
  cases blur
  cases blur'
  simp [blurLines, vectorType_words.injective.eq_iff, channels_words.injective.eq_iff,
    decimal_words.injective.eq_iff]

theorem dofCocLines_inj (dof dof' : DofParameters) :
    dofCocLines dof = dofCocLines dof' ↔
      (dof.algorithm = .cinematic ↔ dof'.algorithm = .cinematic) := by
  unfold dofCocLines
  cases dof.algorithm <;> cases dof'.algorithm <;> decide

/-- Each switch has a line that none of the lines before it can be. -/
theorem dofBlurLines_inj (dof dof' : DofParameters) :
    dofBlurLines dof = dofBlurLines dof' ↔ dof = dof' := by
  have hdeltaZ : ∀ algorithm : DofAlgorithm,
      "#define ALGINE_BLEEDING_ELIM_DZ" ∉ ["#define ALGINE_" ++ algorithm.word] := by
    intro algorithm
    cases algorithm <;> decide
  have hdeltaCoc : ∀ (algorithm : DofAlgorithm) (deltaZ : Bool),
      "#define ALGINE_BLEEDING_ELIM_DCOC" ∉ ["#define ALGINE_" ++ algorithm.word] ++
        optionalLine deltaZ "#define ALGINE_BLEEDING_ELIM_DZ" := by
    intro algorithm deltaZ
    cases algorithm <;> cases deltaZ <;> decide
  have hfocusCoc : ∀ (algorithm : DofAlgorithm) (deltaZ deltaCoc : Bool),
      "#define ALGINE_BLEEDING_ELIM_FCOC" ∉ ["#define ALGINE_" ++ algorithm.word] ++
        optionalLine deltaZ "#define ALGINE_BLEEDING_ELIM_DZ" ++
        optionalLine deltaCoc "#define ALGINE_BLEEDING_ELIM_DCOC" := by
    intro algorithm deltaZ deltaCoc
    cases algorithm <;> cases deltaZ <;> cases deltaCoc <;> decide
  cases dof
  cases dof'
  -- The lines are taken off from the last to the first.
  unfold dofBlurLines
  rw [List.append_singleton_inj,
    append_optionalLine_inj (hfocusCoc _ _ _) (hfocusCoc _ _ _),
    append_optionalLine_inj (hdeltaCoc _ _) (hdeltaCoc _ _),
    append_optionalLine_inj (hdeltaZ _) (hdeltaZ _)]
  simp [dofAlgorithm_words.injective.eq_iff, decimal_words.injective.eq_iff, and_assoc]

theorem cubemapLines_inj (cubemap cubemap' : CubemapParameters) :
    cubemapLines cubemap = cubemapLines cubemap' ↔ cubemap = cubemap' := by
  have houtputs : ∀ (color color' : Bool) (position position' : PositionOutput),
      optionalLine color "#define ALGINE_CUBEMAP_COLOR" ++
          position.words.map ("#define ALGINE_" ++ ·) =
        optionalLine color' "#define ALGINE_CUBEMAP_COLOR" ++
          position'.words.map ("#define ALGINE_" ++ ·) ↔
      color = color' ∧ position = position' := by
    intro color color' position position'
    cases color <;> cases color' <;> cases position <;> cases position' <;> decide
  cases cubemap
  cases cubemap'
  unfold cubemapLines
  rw [List.append_assoc, List.append_assoc]
  simp [houtputs, vectorType_words.injective.eq_iff, decimal_words.injective.eq_iff]

/-- The lines of a family are the same exactly if its settings are. -/
theorem Family.lines_eq_iff (family : Family) (first second : Configuration) :
    family.lines first = family.lines second ↔ family.Agree first second := by
  cases family with
  | color =>
      exact List.singleton_inj.trans
        (colorLines_inj first.flags second.flags first.color second.color)
  | shadow =>
      exact List.singleton_inj.trans
        (shadowLines_inj first.flags second.flags first.shadow second.shadow)
  | dofBlur => simp [Family.lines, Family.Agree, dofBlurLines_inj]
  | dofCoc => simp [Family.lines, Family.Agree, dofCocLines_inj]
  | blend => simp [Family.lines, Family.Agree, blendLines_inj]
  | ssr => exact iff_of_true rfl trivial
  | bloomSearch => exact iff_of_true rfl trivial
  | blur => simp [Family.lines, Family.Agree, blurLines_inj]
  | cubemap => simp [Family.lines, Family.Agree, cubemapLines_inj]

/-! ## Texts and lines -/

theorem DefineBlock.apply_eq_iff {first second : DefineBlock} {text : String}
    (hmarked : Marked text) (hfirst : AreDirectives first.lines)
    (hsecond : AreDirectives second.lines) :
    first.apply text = second.apply text ↔ first.lines = second.lines := by
  obtain ⟨before, after, rfl, hbefore⟩ := hmarked.exists_first
  rw [first.apply_of_firstMarkerAfter hbefore, second.apply_of_firstMarkerAfter hbefore,
    String.append_left_inj, String.append_right_inj, first.render_eq_linesText,
    second.render_eq_linesText]
  exact linesText_inj hfirst.each hsecond.each

/-- Of plans for the same stages, whose texts have a marker, the results tell the
lines. -/
theorem specializeStage_eq_iff {first second : Option DefineBlock} {text : String}
    (hstage : first.isSome = second.isSome) (hmarked : first.isSome = true → Marked text)
    (hfirst : ∀ block ∈ first, AreDirectives block.lines)
    (hsecond : ∀ block ∈ second, AreDirectives block.lines) :
    specializeStage first text = specializeStage second text ↔
      first.map DefineBlock.lines = second.map DefineBlock.lines := by
  cases first with
  | none =>
      cases second with
      | none => exact iff_of_true rfl rfl
      | some block => cases hstage
  | some block =>
      cases second with
      | none => cases hstage
      | some other =>
          rw [Option.map_some, Option.map_some, Option.some_inj]
          exact DefineBlock.apply_eq_iff (hmarked rfl) (hfirst block rfl) (hsecond other rfl)

namespace Family

variable {family : Family} {config first second : Configuration} {templates : Sources}

theorem apply_eq_iff_lines {plan other : VariantPlan} (hplan : plan ∈ family.plans first)
    (hother : other ∈ family.plans second)
    (hmarked : ∀ stage ∈ family.specializedStages, Marked (templates.text stage)) :
    plan.apply templates = other.apply templates ↔ plan.lines = other.lines := by
  have hstage : ∀ stage, (plan.block stage).isSome = (other.block stage).isSome := by
    intro stage
    rw [isSome_block hplan stage, isSome_block hother stage]
  have hmarker : ∀ stage, (plan.block stage).isSome = true →
      Marked (templates.text stage) := by
    intro stage hsome
    rw [isSome_block hplan stage] at hsome
    exact hmarked stage (of_decide_eq_true hsome)
  have htext : ∀ stage,
      specializeStage (plan.block stage) (templates.text stage) =
          specializeStage (other.block stage) (templates.text stage) ↔
        (plan.block stage).map DefineBlock.lines =
          (other.block stage).map DefineBlock.lines := by
    intro stage
    apply specializeStage_eq_iff (hstage stage) (hmarker stage)
    · intro block hblock
      exact block_directives hplan hblock
    · intro block hblock
      exact block_directives hother hblock
  have hgeometry : (plan.apply templates).geometry = (other.apply templates).geometry := by
    unfold VariantPlan.apply
    rw [keepsGeometry_of_mem hplan, keepsGeometry_of_mem hother]
  rw [StageLines.ext_iff]
  constructor
  · intro heq
    exact ⟨(htext .vertex).mp (congrArg Sources.vertex heq),
      (htext .fragment).mp (congrArg Sources.fragment heq)⟩
  · intro hlines
    apply Sources.ext_text
    intro stage
    cases stage with
    | vertex => exact (htext .vertex).mpr hlines.1
    | fragment => exact (htext .fragment).mpr hlines.2
    | geometry => exact hgeometry

end Family

/-- Two views of lists that make the same distinctions between their items make
the same distinctions between the lists. -/
theorem map_eq_map_iff_of {α β γ : Type} {text : α → β} {lines : α → γ}
    {first second : List α}
    (heach : ∀ item ∈ first, ∀ other ∈ second,
      text item = text other ↔ lines item = lines other) :
    first.map text = second.map text ↔ first.map lines = second.map lines := by
  induction first generalizing second with
  | nil => simp
  | cons item first ih =>
      cases second with
      | nil => simp
      | cons other second =>
          have hhead : text item = text other ↔ lines item = lines other :=
            heach item List.mem_cons_self other List.mem_cons_self
          have htail : first.map text = second.map text ↔
              first.map lines = second.map lines := by
            apply ih
            intro item' hitem other' hother
            exact heach item' (List.mem_cons_of_mem item hitem) other'
              (List.mem_cons_of_mem other hother)
          simp only [List.map_cons, List.cons.injEq, hhead, htail]

namespace Family

variable {family : Family} {templates : Sources}

theorem variants_eq_iff_lines (first second : Configuration)
    (hmarked : ∀ stage ∈ family.specializedStages, Marked (templates.text stage)) :
    family.variants first templates = family.variants second templates ↔
      family.lines first = family.lines second := by
  rw [← family.plans_lines first, ← family.plans_lines second]
  apply map_eq_map_iff_of
  intro plan hplan other hother
  exact apply_eq_iff_lines hplan hother hmarked

/-- The halves of a separable pass differ in their direction. -/
theorem exists_pair (hdirectional : family.isDirectional = true) (config : Configuration) :
    ∃ horizontal vertical, family.plans config = [horizontal, vertical] ∧
      horizontal.lines ≠ vertical.lines := by
  cases family
  case dofBlur =>
    refine ⟨_, _, rfl, ?_⟩
    intro heq
    have hlines := congrArg StageLines.fragment heq
    simp [VariantPlan.lines, dofBlurPlans, VariantPlan.directional] at hlines
  case blur =>
    refine ⟨_, _, rfl, ?_⟩
    intro heq
    have hlines := congrArg StageLines.fragment heq
    simp [VariantPlan.lines, blurPlans, VariantPlan.directional, horizontalFlag,
      verticalFlag] at hlines
  all_goals cases hdirectional

theorem pair_eq_iff (hdirectional : family.isDirectional = true) (config : Configuration) :
    ∃ horizontal vertical, family.variants config templates = [horizontal, vertical] ∧
      (horizontal = vertical ↔ ¬ Marked templates.fragment) := by
  obtain ⟨horizontal, vertical, hplans, hlines⟩ := exists_pair hdirectional config
  have hstages : family.specializedStages = [.fragment] := by
    cases family <;> first | rfl | cases hdirectional
  have hhorizontal : horizontal ∈ family.plans config := by simp [hplans]
  have hvertical : vertical ∈ family.plans config := by simp [hplans]
  refine ⟨horizontal.apply templates, vertical.apply templates, ?_, ?_⟩
  · rw [Family.variants, hplans]
    rfl
  · constructor
    · intro heq hmarked
      apply hlines
      rw [← apply_eq_iff_lines hhorizontal hvertical, heq]
      rw [hstages, List.forall_mem_singleton]
      exact hmarked
    · intro hmarked
      have hunmarked : ∀ stage ∈ family.specializedStages,
          ¬ Marked (templates.text stage) := by
        rw [hstages, List.forall_mem_singleton]
        exact hmarked
      rw [eq_of_not_marked (List.mem_map_of_mem hhorizontal) hunmarked,
        eq_of_not_marked (List.mem_map_of_mem hvertical) hunmarked]

end Family

/-- Where the stages that a family specializes have markers, two configurations
give the same variants exactly if they agree in the settings of the family.  The
two variants of a separable pass are the same exactly if there is no marker for
their direction. -/
theorem variants_separate (family : Family) (templates : Sources) :
    ((∀ stage ∈ family.specializedStages, Marked (templates.text stage)) →
      ∀ first second, family.variants first templates = family.variants second templates ↔
        family.Agree first second) ∧
    (family.isDirectional = true → ∀ config, ∃ horizontal vertical,
      family.variants config templates = [horizontal, vertical] ∧
        (horizontal = vertical ↔ ¬ Marked templates.fragment)) := by
  constructor
  · intro hmarked first second
    rw [Family.variants_eq_iff_lines first second hmarked]
    exact family.lines_eq_iff first second
  · intro hdirectional config
    exact Family.pair_eq_iff hdirectional config

theorem variants_separate_blur :
    let templates : Sources := { fragment := "in vec2 uv;\n#algdef\n" }
    let wide : Configuration := { blur := { kernelRadius := 5 } }
    let dark : Configuration := { flags := { lighting := .disabled } }
    Marked templates.fragment ∧ Family.blur.isDirectional = true ∧
      Family.blur.variants {} templates ≠ Family.blur.variants wide templates ∧
      Family.blur.variants {} templates = Family.blur.variants dark templates ∧
      ∃ horizontal vertical, Family.blur.variants {} templates = [horizontal, vertical] ∧
        horizontal ≠ vertical := by
  intro templates wide dark
  have hmarked : Marked templates.fragment := by decide +kernel
  obtain ⟨hseparate, hpair⟩ := variants_separate .blur templates
  have hagree := hseparate (List.forall_mem_singleton.mpr hmarked) {}
  obtain ⟨horizontal, vertical, hvariants, hsame⟩ := hpair rfl {}
  refine ⟨hmarked, rfl, ?_, ?_, horizontal, vertical, hvariants, ?_⟩
  · intro heq
    have hblur : ({} : BlurParameters) = { kernelRadius := 5 } := (hagree wide).mp heq
    exact absurd hblur (by decide)
  · exact (hagree dark).mpr rfl
  · intro heq
    exact hsame.mp heq hmarked

end ShaderFamilies
