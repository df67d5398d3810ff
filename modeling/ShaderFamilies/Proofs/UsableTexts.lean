import ShaderFamilies.Proofs.ShownLines
import ShaderFamilies.ShaderError

/-!
# Validation and the emitted text

What validation refuses can be seen in the text that the families emit.  The text of
a marker alone is just the lines of a family, and a configuration is valid exactly
if none of these texts is one that the templates cannot handle.
-/

namespace ShaderFamilies

/-- Stage texts that are nothing but the marker. -/
def markerSources : Sources where
  vertex := definitionsMarker
  fragment := definitionsMarker

namespace Configuration

variable (config : Configuration)

/-- A variant of the family has an empty kernel. -/
def EmptyKernel (family : Family) : Prop :=
  ∃ variant ∈ family.variants config markerSources,
    HasLine variant.fragment "#define KERNEL_RADIUS 0"

/-- A variant of the family moves vertices by bones and has none for a vertex. -/
def EmptyBones (family : Family) : Prop :=
  ∃ variant ∈ family.variants config markerSources,
    HasLine variant.vertex "#define ALGINE_BONE_SYSTEM_ENABLED" ∧
    HasLine variant.vertex "#define MAX_BONE_ATTRIBS_PER_VERTEX 0"

/-- The cubemap pass writes colors and positions to one output, with this number. -/
def SharedOutput (value : String) : Prop :=
  ∃ variant ∈ Family.cubemap.variants config markerSources,
    HasLine variant.fragment "#define ALGINE_CUBEMAP_COLOR" ∧
    (HasLine variant.fragment "#define ALGINE_CUBE_POSITIONS" ∨
      HasLine variant.fragment "#define ALGINE_SPHERE_POSITIONS") ∧
    HasLine variant.fragment
      ("#define ALGINE_CUBEMAP_COLOR_OUT_COLOR_COMPONENT " ++ value) ∧
    HasLine variant.fragment ("#define ALGINE_POS_OUT_COLOR_COMPONENT " ++ value)

/-- The first thing in the texts that the templates cannot handle. -/
def ShowsFirst : ConfigurationFault → Prop
  | .dofKernelEmpty => config.EmptyKernel .dofBlur
  | .blurKernelEmpty => ¬ config.EmptyKernel .dofBlur ∧ config.EmptyKernel .blur
  | .colorBonesEmpty =>
      ¬ config.EmptyKernel .dofBlur ∧ ¬ config.EmptyKernel .blur ∧
        config.EmptyBones .color
  | .shadowBonesEmpty =>
      ¬ config.EmptyKernel .dofBlur ∧ ¬ config.EmptyKernel .blur ∧
        ¬ config.EmptyBones .color ∧ config.EmptyBones .shadow
  | .outputsShared component =>
      ¬ config.EmptyKernel .dofBlur ∧ ¬ config.EmptyKernel .blur ∧
        ¬ config.EmptyBones .color ∧ ¬ config.EmptyBones .shadow ∧
        config.SharedOutput (decimal component)

end Configuration

/-! ## The text of a marker -/

/-- The text that lines make of a marker; without lines it stays. -/
def markerText (lines : Option (List String)) : String :=
  (lines.map linesText).getD definitionsMarker

theorem hasLine_markerText {lines : Option (List String)}
    (hlines : ∀ block ∈ lines, AreDirectives block) {line : String}
    (hline : BeginsWith line "#define ") :
    HasLine (markerText lines) line ↔ ∃ block ∈ lines, line ∈ block := by
  cases lines with
  | none =>
      have hmarker : ¬ HasLine definitionsMarker line := by
        intro hmem
        have honly : textLines definitionsMarker = [definitionsMarker.toList] := by decide
        unfold HasLine at hmem
        rw [honly, List.mem_singleton, String.toList_inj] at hmem
        rw [hmem] at hline
        exact absurd hline (by decide)
      simpa [markerText] using hmarker
  | some block =>
      have hempty : line ≠ "" := by
        rintro rfl
        exact absurd hline (by decide)
      have hblock := hasLine_linesText (hlines block rfl).each hempty
      simpa [markerText] using hblock

theorem DefineBlock.apply_marker (block : DefineBlock) :
    block.apply definitionsMarker = linesText block.lines := by
  have hfirst : FirstMarkerAfter "" := firstMarkerAfter_iff.mpr (onlyAtEnd_nil _)
  have happly := block.apply_of_firstMarkerAfter hfirst ""
  rw [String.empty_append, String.append_empty, String.empty_append,
    String.append_empty] at happly
  rw [happly, block.render_eq_linesText]

theorem specializeStage_marker (block : Option DefineBlock) :
    specializeStage block definitionsMarker = markerText (block.map DefineBlock.lines) := by
  cases block with
  | none => rfl
  | some block => exact block.apply_marker

/-- The stage texts that lines make of markers. -/
def StageLines.markerTexts (stages : StageLines) : Sources where
  vertex := markerText stages.vertex
  fragment := markerText stages.fragment

theorem VariantPlan.apply_markerSources (plan : VariantPlan) :
    plan.apply markerSources = plan.lines.markerTexts := by
  have hgeometry : (if plan.keepsGeometry then markerSources.geometry else "") = "" :=
    ite_self _
  unfold VariantPlan.apply StageLines.markerTexts
  rw [hgeometry]
  congr 1
  · exact specializeStage_marker plan.vertex
  · exact specializeStage_marker plan.fragment

theorem Family.mem_variants_markerSources {family : Family} {config : Configuration}
    {variant : Sources} :
    variant ∈ family.variants config markerSources ↔
      ∃ stages ∈ family.lines config, stages.markerTexts = variant := by
  unfold Family.variants
  rw [← family.plans_lines config]
  simp only [List.mem_map, VariantPlan.apply_markerSources, exists_exists_and_eq_and]

/-! ## Lines that show a setting -/

theorem kernelLine_eq : "#define KERNEL_RADIUS 0" = "#define KERNEL_RADIUS " ++ decimal 0 := by
  decide

theorem kernelLine_mem_dofBlurLines (dof : DofParameters) :
    "#define KERNEL_RADIUS 0" ∈ dofBlurLines dof ↔ dof.kernelRadius = 0 := by
  have hbefore : ∀ line ∈ ["#define ALGINE_" ++ dof.algorithm.word] ++
      optionalLine dof.eliminateDeltaZ "#define ALGINE_BLEEDING_ELIM_DZ" ++
      optionalLine dof.eliminateDeltaCoc "#define ALGINE_BLEEDING_ELIM_DCOC" ++
      optionalLine dof.eliminateFocusCoc "#define ALGINE_BLEEDING_ELIM_FCOC",
      ¬ BeginsWith line "#define KERNEL_RADIUS " := by
    simp only [List.forall_mem_append, List.forall_mem_singleton]
    refine ⟨⟨⟨?_, ?_⟩, ?_⟩, ?_⟩
    · exact not_beginsWith_append (by decide) _
    · exact forall_mem_optionalLine (by decide) _
    · exact forall_mem_optionalLine (by decide) _
    · exact forall_mem_optionalLine (by decide) _
  rw [kernelLine_eq, dofBlurLines, shown_mem_iff hbefore (List.forall_mem_nil _),
    decimal_words.injective.eq_iff, eq_comm]

theorem kernelLine_mem_blurLines (blur : BlurParameters) :
    "#define KERNEL_RADIUS 0" ∈ blurLines blur ↔ blur.kernelRadius = 0 := by
  have hlines : blurLines blur = [] ++ ("#define KERNEL_RADIUS " ++ decimal blur.kernelRadius) ::
      ["#define vecout " ++ blur.output.typeName,
        "#define texComponent " ++ blur.channels.swizzle] :=
    rfl
  rw [kernelLine_eq, hlines, shown_mem_iff (List.forall_mem_nil _), decimal_words.injective.eq_iff,
    eq_comm]
  rw [List.forall_mem_cons, List.forall_mem_singleton]
  exact ⟨not_beginsWith_append (by decide) _, not_beginsWith_append (by decide) _⟩

/-- The lines about bones, which the color and the shadow pass put between others. -/
theorem bonesLines_mem_iff {lines before between : List String} {system : Switch}
    {attributes bones : UInt32}
    (hbefore : ∀ line ∈ before, ¬ BeginsWith line "#define ALGINE_BONE_SYSTEM_" ∧
      ¬ BeginsWith line "#define MAX_BONE_ATTRIBS_PER_VERTEX ")
    (hbetween : ∀ line ∈ between, ¬ BeginsWith line "#define ALGINE_BONE_SYSTEM_" ∧
      ¬ BeginsWith line "#define MAX_BONE_ATTRIBS_PER_VERTEX ")
    (hlines : lines = before ++ ("#define ALGINE_BONE_SYSTEM_" ++ system.word) :: (between ++
      ["#define MAX_BONE_ATTRIBS_PER_VERTEX " ++ decimal attributes,
        "#define MAX_BONES " ++ decimal bones])) :
    "#define ALGINE_BONE_SYSTEM_ENABLED" ∈ lines ∧
        "#define MAX_BONE_ATTRIBS_PER_VERTEX 0" ∈ lines ↔
      system = .enabled ∧ attributes = 0 := by
  rw [hlines]
  have henabled : "#define ALGINE_BONE_SYSTEM_ENABLED" =
      "#define ALGINE_BONE_SYSTEM_" ++ Switch.word .enabled := by decide
  have hzero : "#define MAX_BONE_ATTRIBS_PER_VERTEX 0" =
      "#define MAX_BONE_ATTRIBS_PER_VERTEX " ++ decimal 0 := by decide
  apply and_congr
  · rw [henabled, shown_mem_iff (fun line hline => (hbefore line hline).1),
      switch_words.injective.eq_iff, eq_comm]
    simp only [List.forall_mem_append, List.forall_mem_cons]
    refine ⟨fun line hline => (hbetween line hline).1, ?_, ?_, List.forall_mem_nil _⟩
    · exact not_beginsWith_append (by decide) _
    · exact not_beginsWith_append (by decide) _
  · rw [hzero, ← List.cons_append, ← List.append_assoc, shown_mem_iff,
      decimal_words.injective.eq_iff, eq_comm]
    · simp only [List.forall_mem_append, List.forall_mem_cons]
      refine ⟨fun line hline => (hbefore line hline).2, ?_, fun line hline => (hbetween line hline).2⟩
      exact not_beginsWith_append (by decide) _
    · exact List.forall_mem_singleton.mpr (not_beginsWith_append (by decide) _)

/-- A line that shows no value of the cubemap pass shows what it writes, or is none
of its lines. -/
theorem outputLine_mem_iff {line : String}
    (hcolor : ¬ BeginsWith line "#define ALGINE_CUBEMAP_COLOR_OUT_COLOR_COMPONENT ")
    (hposition : ¬ BeginsWith line "#define ALGINE_POS_OUT_COLOR_COMPONENT ")
    (houtput : ¬ BeginsWith line "#define vecout ") (cubemap : CubemapParameters) :
    line ∈ cubemapLines cubemap ↔
      line ∈ optionalLine cubemap.colorOutput "#define ALGINE_CUBEMAP_COLOR" ++
        cubemap.positionOutput.words.map ("#define ALGINE_" ++ ·) := by
  unfold cubemapLines
  rw [List.append_assoc, List.mem_append]
  apply or_iff_right
  simp only [List.mem_cons, not_or]
  refine ⟨?_, ?_, ?_, List.not_mem_nil⟩
  · exact ne_append_of_not_beginsWith hcolor _
  · exact ne_append_of_not_beginsWith hposition _
  · exact ne_append_of_not_beginsWith houtput _

theorem colorLine_mem_cubemapLines (cubemap : CubemapParameters) :
    "#define ALGINE_CUBEMAP_COLOR" ∈ cubemapLines cubemap ↔ cubemap.colorOutput = true := by
  rw [outputLine_mem_iff (by decide) (by decide) (by decide)]
  cases cubemap.colorOutput <;> cases cubemap.positionOutput <;> decide

theorem positionLine_mem_cubemapLines (cubemap : CubemapParameters) :
    "#define ALGINE_CUBE_POSITIONS" ∈ cubemapLines cubemap ∨
      "#define ALGINE_SPHERE_POSITIONS" ∈ cubemapLines cubemap ↔
        cubemap.positionOutput ≠ .none := by
  rw [outputLine_mem_iff (by decide) (by decide) (by decide),
    outputLine_mem_iff (by decide) (by decide) (by decide)]
  cases cubemap.colorOutput <;> cases cubemap.positionOutput <;> decide

theorem colorComponent_mem_cubemapLines (cubemap : CubemapParameters) (value : String) :
    "#define ALGINE_CUBEMAP_COLOR_OUT_COLOR_COMPONENT " ++ value ∈ cubemapLines cubemap ↔
      value = decimal cubemap.colorComponent := by
  have hlines : cubemapLines cubemap =
      [] ++ ("#define ALGINE_CUBEMAP_COLOR_OUT_COLOR_COMPONENT " ++
        decimal cubemap.colorComponent) ::
        ("#define ALGINE_POS_OUT_COLOR_COMPONENT " ++ decimal cubemap.positionComponent) ::
          ("#define vecout " ++ cubemap.output.typeName) ::
            (optionalLine cubemap.colorOutput "#define ALGINE_CUBEMAP_COLOR" ++
              cubemap.positionOutput.words.map ("#define ALGINE_" ++ ·)) :=
    List.append_assoc ..
  rw [hlines, shown_mem_iff (List.forall_mem_nil _)]
  rw [List.forall_mem_cons, List.forall_mem_cons, List.forall_mem_append]
  refine ⟨?_, ?_, forall_mem_optionalLine (by decide) _, ?_⟩
  · exact not_beginsWith_append (by decide) _
  · exact not_beginsWith_append (by decide) _
  · cases cubemap.positionOutput <;> decide

theorem positionComponent_mem_cubemapLines (cubemap : CubemapParameters) (value : String) :
    "#define ALGINE_POS_OUT_COLOR_COMPONENT " ++ value ∈ cubemapLines cubemap ↔
      value = decimal cubemap.positionComponent := by
  have hlines : cubemapLines cubemap =
      ["#define ALGINE_CUBEMAP_COLOR_OUT_COLOR_COMPONENT " ++ decimal cubemap.colorComponent] ++
        ("#define ALGINE_POS_OUT_COLOR_COMPONENT " ++ decimal cubemap.positionComponent) ::
          ("#define vecout " ++ cubemap.output.typeName) ::
            (optionalLine cubemap.colorOutput "#define ALGINE_CUBEMAP_COLOR" ++
              cubemap.positionOutput.words.map ("#define ALGINE_" ++ ·)) :=
    List.append_assoc ..
  rw [hlines, shown_mem_iff]
  · exact List.forall_mem_singleton.mpr (not_beginsWith_append (by decide) _)
  · rw [List.forall_mem_cons, List.forall_mem_append]
    refine ⟨not_beginsWith_append (by decide) _, forall_mem_optionalLine (by decide) _, ?_⟩
    cases cubemap.positionOutput <;> decide

/-! ## What the texts show -/

namespace Configuration

variable (config : Configuration)

theorem emptyKernel_iff_lines (family : Family) :
    config.EmptyKernel family ↔ ∃ stages ∈ family.lines config,
      ∃ lines ∈ stages.fragment, "#define KERNEL_RADIUS 0" ∈ lines := by
  unfold EmptyKernel
  simp only [Family.mem_variants_markerSources, exists_exists_and_eq_and]
  refine exists_congr fun stages => and_congr_right fun hstages => ?_
  exact hasLine_markerText (Family.lines_directives hstages).fragment (by decide)

theorem emptyBones_iff_lines (family : Family) :
    config.EmptyBones family ↔ ∃ stages ∈ family.lines config, ∃ lines ∈ stages.vertex,
      "#define ALGINE_BONE_SYSTEM_ENABLED" ∈ lines ∧
        "#define MAX_BONE_ATTRIBS_PER_VERTEX 0" ∈ lines := by
  unfold EmptyBones
  simp only [Family.mem_variants_markerSources, exists_exists_and_eq_and]
  refine exists_congr fun stages => and_congr_right fun hstages => ?_
  have hlines := (Family.lines_directives hstages).vertex
  unfold StageLines.markerTexts
  rw [hasLine_markerText hlines (by decide), hasLine_markerText hlines (by decide)]
  cases stages.vertex <;> simp

theorem emptyKernel_dofBlur :
    config.EmptyKernel .dofBlur ↔ config.dofBlur.kernelRadius = 0 := by
  rw [emptyKernel_iff_lines, ← kernelLine_mem_dofBlurLines]
  simp [Family.lines]

theorem emptyKernel_blur : config.EmptyKernel .blur ↔ config.blur.kernelRadius = 0 := by
  rw [emptyKernel_iff_lines, ← kernelLine_mem_blurLines]
  simp [Family.lines]

theorem emptyBones_color :
    config.EmptyBones .color ↔
      config.flags.boneSystem = .enabled ∧ config.color.maxBoneAttribsPerVertex = 0 := by
  have hbefore : ∀ line ∈
      ["#define ALGINE_NORMAL_MAPPING_MODE_" ++ config.flags.normalMapping.word],
      ¬ BeginsWith line "#define ALGINE_BONE_SYSTEM_" ∧
        ¬ BeginsWith line "#define MAX_BONE_ATTRIBS_PER_VERTEX " :=
    List.forall_mem_singleton.mpr
      ⟨not_beginsWith_append (by decide) _, not_beginsWith_append (by decide) _⟩
  rw [emptyBones_iff_lines]
  simp only [Family.lines, List.mem_singleton, exists_eq_left, colorLines, Option.mem_some_iff,
    exists_eq_left']
  exact bonesLines_mem_iff hbefore (List.forall_mem_nil _) rfl

theorem emptyBones_shadow :
    config.EmptyBones .shadow ↔
      config.flags.boneSystem = .enabled ∧ config.shadow.maxBoneAttribsPerVertex = 0 := by
  have hbetween : ∀ line ∈
      ["#define ALGINE_SHADOW_MAPPING_TYPE_" ++ config.flags.shadowLight.word],
      ¬ BeginsWith line "#define ALGINE_BONE_SYSTEM_" ∧
        ¬ BeginsWith line "#define MAX_BONE_ATTRIBS_PER_VERTEX " :=
    List.forall_mem_singleton.mpr
      ⟨not_beginsWith_append (by decide) _, not_beginsWith_append (by decide) _⟩
  rw [emptyBones_iff_lines]
  simp only [Family.lines, List.mem_singleton, exists_eq_left, shadowLines, Option.mem_some_iff,
    exists_eq_left']
  exact bonesLines_mem_iff (List.forall_mem_nil _) hbetween rfl

theorem sharedOutput_iff (value : String) :
    config.SharedOutput value ↔
      config.cubemap.colorOutput = true ∧ config.cubemap.positionOutput ≠ .none ∧
        value = decimal config.cubemap.colorComponent ∧
        value = decimal config.cubemap.positionComponent := by
  have hlines : ∀ line, BeginsWith line "#define " →
      (HasLine (markerText (some (cubemapLines config.cubemap))) line ↔
        line ∈ cubemapLines config.cubemap) := by
    intro line hline
    have hdirectives := cubemapLines_directives config.cubemap
    rw [hasLine_markerText (by simpa using hdirectives) hline]
    simp
  unfold SharedOutput
  simp only [Family.mem_variants_markerSources, Family.lines, List.mem_singleton,
    exists_eq_left, exists_eq_left', StageLines.markerTexts]
  rw [hlines _ (by decide), hlines _ (by decide), hlines _ (by decide),
    hlines _ (.append (by decide) value), hlines _ (.append (by decide) value),
    colorLine_mem_cubemapLines, positionLine_mem_cubemapLines,
    colorComponent_mem_cubemapLines, positionComponent_mem_cubemapLines]

theorem exists_sharedOutput_iff :
    (∃ value, config.SharedOutput value) ↔
      config.cubemap.colorOutput = true ∧ config.cubemap.positionOutput ≠ .none ∧
        config.cubemap.colorComponent = config.cubemap.positionComponent := by
  simp only [sharedOutput_iff]
  constructor
  · rintro ⟨value, hcolor, hposition, hone, hother⟩
    exact ⟨hcolor, hposition, decimal_words.injective (hone.symm.trans hother)⟩
  · rintro ⟨hcolor, hposition, hequal⟩
    exact ⟨_, hcolor, hposition, rfl, congrArg decimal hequal⟩

/-! ## Validation -/

theorem fault_of_checks_cons (holds : Bool) (fault : ConfigurationFault)
    (rest : List (Bool × ConfigurationFault)) :
    (((holds, fault) :: rest).find? (·.1)).map (·.2) =
      if holds = true then some fault else (rest.find? (·.1)).map (·.2) := by
  cases holds <;> rfl

theorem fault?_eq :
    config.fault? =
      if config.dofBlur.kernelRadius = 0 then some .dofKernelEmpty
      else if config.blur.kernelRadius = 0 then some .blurKernelEmpty
      else if config.flags.boneSystem = .enabled ∧ config.color.maxBoneAttribsPerVertex = 0 then
        some .colorBonesEmpty
      else if config.flags.boneSystem = .enabled ∧ config.shadow.maxBoneAttribsPerVertex = 0 then
        some .shadowBonesEmpty
      else if config.cubemap.colorOutput = true ∧ config.cubemap.positionOutput ≠ .none ∧
          config.cubemap.colorComponent = config.cubemap.positionComponent then
        some (.outputsShared config.cubemap.positionComponent)
      else none := by
  unfold fault? checks
  simp only [fault_of_checks_cons, List.find?_nil, Option.map_none, Bool.and_eq_true,
    beq_iff_eq, bne_iff_ne, and_assoc]

theorem fault?_eq_none_iff :
    config.fault? = none ↔
      ¬ config.EmptyKernel .dofBlur ∧ ¬ config.EmptyKernel .blur ∧
        ¬ config.EmptyBones .color ∧ ¬ config.EmptyBones .shadow ∧
        ¬ ∃ value, config.SharedOutput value := by
  rw [emptyKernel_dofBlur, emptyKernel_blur, emptyBones_color, emptyBones_shadow,
    exists_sharedOutput_iff, fault?_eq]
  split_ifs <;> simp [*]

/-- The fault that validation finds is the first one that the texts show. -/
theorem fault?_eq_some_iff (fault : ConfigurationFault) :
    config.fault? = some fault ↔ config.ShowsFirst fault := by
  have hshared : ∀ component, config.SharedOutput (decimal component) ↔
      (config.cubemap.colorOutput = true ∧ config.cubemap.positionOutput ≠ .none ∧
        config.cubemap.colorComponent = config.cubemap.positionComponent) ∧
        component = config.cubemap.positionComponent := by
    intro component
    rw [sharedOutput_iff, decimal_words.injective.eq_iff, decimal_words.injective.eq_iff]
    constructor
    · rintro ⟨hcolor, hposition, rfl, hother⟩
      exact ⟨⟨hcolor, hposition, hother⟩, hother⟩
    · rintro ⟨⟨hcolor, hposition, hequal⟩, rfl⟩
      exact ⟨hcolor, hposition, hequal.symm, rfl⟩
  rw [fault?_eq]
  cases fault <;>
    simp only [ShowsFirst, emptyKernel_dofBlur, emptyKernel_blur, emptyBones_color,
      emptyBones_shadow, hshared] <;>
    grind

/-- Validation accepts exactly the configurations without a text that the templates
cannot handle, and otherwise reports the first such text. -/
theorem validate_by_text :
    (config.validate = .ok () ↔
      ¬ config.EmptyKernel .dofBlur ∧ ¬ config.EmptyKernel .blur ∧
        ¬ config.EmptyBones .color ∧ ¬ config.EmptyBones .shadow ∧
        ¬ ∃ value, config.SharedOutput value) ∧
      ∀ error, config.validate = .error error ↔
        ∃ fault, error = .configuration (.parameters fault) ∧ config.ShowsFirst fault := by
  unfold validate
  rw [← fault?_eq_none_iff]
  constructor
  · cases config.fault? <;> simp
  · intro error
    simp only [← fault?_eq_some_iff]
    cases config.fault? with
    | none => simp
    | some fault => simp [eq_comm]

end Configuration

end ShaderFamilies
