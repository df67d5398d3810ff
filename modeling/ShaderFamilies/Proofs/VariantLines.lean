import Mathlib.Data.List.Forall2
import ShaderFamilies.FamilyVariants
import ShaderFamilies.Proofs.MarkerSearch

/-!
# The lines of the variants

The documentation lists, for each family and stage, the lines that stand in the
place of the marker, in order.  The list is written out here as plain text lines,
and the variants of a family are shown to be the templates with these lines put
in: in the place of the first marker if there is one, and nowhere otherwise.
-/

namespace ShaderFamilies

/-! ## The documented lines -/

def Switch.word : Switch → String
  | .enabled => "ENABLED"
  | .disabled => "DISABLED"

def MappingMode.word : MappingMode → String
  | .enabled => "ENABLED"
  | .dual => "DUAL"
  | .disabled => "DISABLED"

def ShadowMode.word : ShadowMode → String
  | .enabled => "ENABLED"
  | .simple => "SIMPLE"
  | .disabled => "DISABLED"

def ShadowLight.word : ShadowLight → String
  | .point => "POINT_LIGHTING"
  | .directional => "DIR_LIGHTING"

def BloomBlend.word : BloomBlend → String
  | .add => "ADD"
  | .screen => "SCREEN"

def DofAlgorithm.word : DofAlgorithm → String
  | .cinematic => "CINEMATIC_DOF"
  | .linear => "LINEAR_DOF"
  | .fromCocMap => "DOF_FROM_COC_MAP"

def PositionOutput.words : PositionOutput → List String
  | .none => []
  | .cube => ["CUBE_POSITIONS"]
  | .sphere => ["SPHERE_POSITIONS"]

def decimal (value : UInt32) : String :=
  toString value.toNat

/-- A line that stands only where it is enabled. -/
def optionalLine (enabled : Bool) (line : String) : List String :=
  if enabled then [line] else []

/-- The lines for the stages of a variant.  A stage without lines is not
specialized. -/
@[ext] structure StageLines where
  vertex : Option (List String) := none
  fragment : Option (List String) := none

def colorLines (flags : FeatureFlags) (color : ColorParameters) : StageLines where
  vertex := some [
    "#define ALGINE_NORMAL_MAPPING_MODE_" ++ flags.normalMapping.word,
    "#define ALGINE_BONE_SYSTEM_" ++ flags.boneSystem.word,
    "#define MAX_BONE_ATTRIBS_PER_VERTEX " ++ decimal color.maxBoneAttribsPerVertex,
    "#define MAX_BONES " ++ decimal color.maxBones]
  fragment := some [
    "#define ALGINE_NORMAL_MAPPING_MODE_" ++ flags.normalMapping.word,
    "#define ALGINE_SHADOW_MAPPING_MODE_" ++ flags.shadowMapping.word,
    "#define ALGINE_TEXTURE_MAPPING_MODE_" ++ flags.textureMapping.word,
    "#define ALGINE_LIGHTING_MODE_" ++ flags.lighting.word,
    "#define ALGINE_ATTENUATION_MODE_" ++ flags.attenuation.word,
    "#define ALGINE_SSR_MODE_" ++ flags.reflections.word,
    "#define MAX_POINT_LIGHTS_COUNT " ++ decimal color.maxPointLights,
    "#define MAX_DIR_LIGHTS_COUNT " ++ decimal color.maxDirLights]

def shadowLines (flags : FeatureFlags) (shadow : ShadowParameters) : StageLines where
  vertex := some [
    "#define ALGINE_BONE_SYSTEM_" ++ flags.boneSystem.word,
    "#define ALGINE_SHADOW_MAPPING_TYPE_" ++ flags.shadowLight.word,
    "#define MAX_BONE_ATTRIBS_PER_VERTEX " ++ decimal shadow.maxBoneAttribsPerVertex,
    "#define MAX_BONES " ++ decimal shadow.maxBones]
  fragment := some ["#define ALGINE_SHADOW_MAPPING_TYPE_" ++ flags.shadowLight.word]

def dofBlurLines (dof : DofParameters) : List String :=
  ["#define ALGINE_" ++ dof.algorithm.word] ++
    optionalLine dof.eliminateDeltaZ "#define ALGINE_BLEEDING_ELIM_DZ" ++
    optionalLine dof.eliminateDeltaCoc "#define ALGINE_BLEEDING_ELIM_DCOC" ++
    optionalLine dof.eliminateFocusCoc "#define ALGINE_BLEEDING_ELIM_FCOC" ++
    ["#define KERNEL_RADIUS " ++ decimal dof.kernelRadius]

/-- Only the cinematic algorithm has a line of its own. -/
def dofCocLines (dof : DofParameters) : List String :=
  match dof.algorithm with
  | .cinematic => ["#define ALGINE_CINEMATIC_DOF"]
  | .linear | .fromCocMap => ["#define ALGINE_LINEAR_DOF"]

def blendLines (flags : FeatureFlags) : List String :=
  ["#define ALGINE_BLOOM_" ++ flags.bloom.word,
    "#define ALGINE_BLOOM_TYPE_" ++ flags.bloomBlend.word]

def blurLines (blur : BlurParameters) : List String :=
  ["#define KERNEL_RADIUS " ++ decimal blur.kernelRadius,
    "#define vecout " ++ blur.output.typeName,
    "#define texComponent " ++ blur.channels.swizzle]

def cubemapLines (cubemap : CubemapParameters) : List String :=
  ["#define ALGINE_CUBEMAP_COLOR_OUT_COLOR_COMPONENT " ++
      decimal cubemap.colorComponent,
    "#define ALGINE_POS_OUT_COLOR_COMPONENT " ++ decimal cubemap.positionComponent,
    "#define vecout " ++ cubemap.output.typeName] ++
    optionalLine cubemap.colorOutput "#define ALGINE_CUBEMAP_COLOR" ++
    cubemap.positionOutput.words.map ("#define ALGINE_" ++ ·)

/-- The lines of the variants of a family, horizontal before vertical. -/
def Family.lines (family : Family) (config : Configuration) : List StageLines :=
  match family with
  | .color => [colorLines config.flags config.color]
  | .shadow => [shadowLines config.flags config.shadow]
  | .dofBlur => [
      { fragment := some (dofBlurLines config.dofBlur ++ ["#define ALGINE_HORIZONTAL"]) },
      { fragment := some (dofBlurLines config.dofBlur) }]
  | .dofCoc => [{ fragment := some (dofCocLines config.dofBlur) }]
  | .blend => [{ fragment := some (blendLines config.flags) }]
  | .ssr | .bloomSearch => [{}]
  | .blur => [
      { fragment := some (blurLines config.blur ++ ["#define ALGINE_HORIZONTAL"]) },
      { fragment := some (blurLines config.blur ++ ["#define ALGINE_VERTICAL"]) }]
  | .cubemap => [{ fragment := some (cubemapLines config.cubemap) }]

/-! ## The lines of a block -/

/-- The lines as text, each with its line end. -/
def linesText (lines : List String) : String :=
  String.join (lines.map (· ++ "\n"))

namespace DefineBlock

def lines (block : DefineBlock) : List String :=
  block.defines.map Define.directive

theorem render_eq_linesText (block : DefineBlock) : block.render = linesText block.lines := by
  unfold render linesText lines
  induction block.defines with
  | nil => rfl
  | cons define rest ih =>
      rw [renderDefines_cons, ih, List.map_cons, List.map_cons, String.join_cons]

variable (block : DefineBlock)

@[simp] theorem lines_empty : empty.lines = [] :=
  rfl

@[simp] theorem lines_flag (name : String) :
    (block.flag name).lines = block.lines ++ ["#define " ++ name] :=
  List.map_append

@[simp] theorem lines_value (name value : String) :
    (block.value name value).lines = block.lines ++ ["#define " ++ name ++ " " ++ value] :=
  List.map_append

@[simp] theorem lines_number (name : String) (value : UInt32) :
    (block.number name value).lines =
      block.lines ++ ["#define " ++ name ++ " " ++ decimal value] :=
  lines_value block name (decimal value)

@[simp] theorem lines_flagIf (enabled : Bool) (name : String) :
    (block.flagIf enabled name).lines =
      block.lines ++ optionalLine enabled ("#define " ++ name) := by
  cases enabled with
  | true => exact lines_flag block name
  | false => exact (List.append_nil block.lines).symm

@[simp] theorem lines_flagOption (name : Option String) :
    (block.flagOption name).lines =
      block.lines ++ name.toList.map ("#define " ++ ·) := by
  cases name with
  | some name => exact lines_flag block name
  | none => exact (List.append_nil block.lines).symm

end DefineBlock

/-! ## The plans put in the documented lines -/

def VariantPlan.lines (plan : VariantPlan) : StageLines where
  vertex := plan.vertex.map DefineBlock.lines
  fragment := plan.fragment.map DefineBlock.lines

theorem normalMappingFlag_eq (mode : MappingMode) :
    normalMappingFlag mode = "ALGINE_NORMAL_MAPPING_MODE_" ++ mode.word := by
  cases mode <;> rfl

theorem boneSystemFlag_eq (mode : Switch) :
    boneSystemFlag mode = "ALGINE_BONE_SYSTEM_" ++ mode.word := by
  cases mode <;> rfl

theorem shadowMappingFlag_eq (mode : ShadowMode) :
    shadowMappingFlag mode = "ALGINE_SHADOW_MAPPING_MODE_" ++ mode.word := by
  cases mode <;> rfl

theorem shadowLightFlag_eq (light : ShadowLight) :
    shadowLightFlag light = "ALGINE_SHADOW_MAPPING_TYPE_" ++ light.word := by
  cases light <;> rfl

theorem textureMappingFlag_eq (mode : MappingMode) :
    textureMappingFlag mode = "ALGINE_TEXTURE_MAPPING_MODE_" ++ mode.word := by
  cases mode <;> rfl

theorem lightingFlag_eq (mode : Switch) :
    lightingFlag mode = "ALGINE_LIGHTING_MODE_" ++ mode.word := by
  cases mode <;> rfl

theorem attenuationFlag_eq (mode : Switch) :
    attenuationFlag mode = "ALGINE_ATTENUATION_MODE_" ++ mode.word := by
  cases mode <;> rfl

theorem reflectionsFlag_eq (mode : Switch) :
    reflectionsFlag mode = "ALGINE_SSR_MODE_" ++ mode.word := by
  cases mode <;> rfl

theorem bloomFlag_eq (mode : Switch) :
    bloomFlag mode = "ALGINE_BLOOM_" ++ mode.word := by
  cases mode <;> rfl

theorem bloomBlendFlag_eq (blend : BloomBlend) :
    bloomBlendFlag blend = "ALGINE_BLOOM_TYPE_" ++ blend.word := by
  cases blend <;> rfl

theorem dofAlgorithmFlag_eq (algorithm : DofAlgorithm) :
    dofAlgorithmFlag algorithm = "ALGINE_" ++ algorithm.word := by
  cases algorithm <;> rfl

theorem positionOutputFlag_eq (output : PositionOutput) :
    (positionOutputFlag output).toList = output.words.map ("ALGINE_" ++ ·) := by
  cases output <;> rfl

theorem colorPlan_lines (flags : FeatureFlags) (color : ColorParameters) :
    (colorPlan flags color).lines = colorLines flags color := by
  simp [VariantPlan.lines, colorPlan, colorVertexBlock, colorFragmentBlock, colorLines,
    normalMappingFlag_eq, boneSystemFlag_eq, shadowMappingFlag_eq, textureMappingFlag_eq,
    lightingFlag_eq, attenuationFlag_eq, reflectionsFlag_eq, ← String.append_assoc]

theorem shadowPlan_lines (flags : FeatureFlags) (shadow : ShadowParameters) :
    (shadowPlan flags shadow).lines = shadowLines flags shadow := by
  simp [VariantPlan.lines, shadowPlan, shadowVertexBlock, shadowFragmentBlock, shadowLines,
    boneSystemFlag_eq, shadowLightFlag_eq, ← String.append_assoc]

theorem dofBlurBlock_lines (dof : DofParameters) :
    (dofBlurBlock dof).lines = dofBlurLines dof := by
  simp [dofBlurBlock, dofBlurLines, dofAlgorithmFlag_eq, ← String.append_assoc]

theorem dofCocBlock_lines (dof : DofParameters) :
    (dofCocBlock dof).lines = dofCocLines dof := by
  unfold dofCocBlock dofCocLines
  cases dof.algorithm <;> rfl

theorem blendBlock_lines (flags : FeatureFlags) :
    (blendBlock flags).lines = blendLines flags := by
  simp [blendBlock, blendLines, bloomFlag_eq, bloomBlendFlag_eq, ← String.append_assoc]

theorem blurBlock_lines (blur : BlurParameters) :
    (blurBlock blur).lines = blurLines blur := by
  simp [blurBlock, blurLines]

theorem cubemapBlock_lines (cubemap : CubemapParameters) :
    (cubemapBlock cubemap).lines = cubemapLines cubemap := by
  simp [cubemapBlock, cubemapLines, positionOutputFlag_eq, ← String.append_assoc]

theorem Family.plans_lines (family : Family) (config : Configuration) :
    (family.plans config).map VariantPlan.lines = family.lines config := by
  cases family with
  | color => exact congrArg (fun lines => [lines]) (colorPlan_lines config.flags config.color)
  | shadow =>
      exact congrArg (fun lines => [lines]) (shadowPlan_lines config.flags config.shadow)
  | dofBlur =>
      simp [Family.plans, Family.lines, dofBlurPlans, DirectionalPair.toList,
        VariantPlan.lines, VariantPlan.directional, dofBlurBlock_lines, horizontalFlag]
  | blur =>
      simp [Family.plans, Family.lines, blurPlans, DirectionalPair.toList,
        VariantPlan.lines, VariantPlan.directional, blurBlock_lines, horizontalFlag,
        verticalFlag]
  | dofCoc =>
      simp [Family.plans, Family.lines, VariantPlan.lines, dofCocPlan, dofCocBlock_lines]
  | blend =>
      simp [Family.plans, Family.lines, VariantPlan.lines, blendPlan, blendBlock_lines]
  | cubemap =>
      simp [Family.plans, Family.lines, VariantPlan.lines, cubemapPlan, cubemapBlock_lines]
  | ssr => rfl
  | bloomSearch => rfl

/-! ## The variants -/

/-- What becomes of a text when another takes the place of its first marker: a
text without a marker stays, and wherever the first marker is, what stands before
and after it stays. -/
structure Replaces (inserted text result : String) : Prop where
  unmarked : ¬ Marked text → result = text
  found : Marked text → ∃ before after,
    text = before ++ definitionsMarker ++ after ∧ FirstMarkerAfter before
  replaced : ∀ before after, text = before ++ definitionsMarker ++ after →
    FirstMarkerAfter before → result = before ++ inserted ++ after

theorem DefineBlock.replaces (block : DefineBlock) (text : String) :
    Replaces (linesText block.lines) text (block.apply text) where
  unmarked hmarked := block.apply_of_not_marked hmarked
  found hmarked := hmarked.exists_first
  replaced := by
    intro before after htext hfirst
    rw [htext, block.apply_of_firstMarkerAfter hfirst, block.render_eq_linesText]

/-- A stage with lines has them in the place of its first marker, and one without
lines is left as it is. -/
def Specializes (lines : Option (List String)) (text result : String) : Prop :=
  match lines with
  | some lines => Replaces (linesText lines) text result
  | none => result = text

theorem specializeStage_specializes (block : Option DefineBlock) (text : String) :
    Specializes (block.map DefineBlock.lines) text (specializeStage block text) := by
  cases block with
  | none => rfl
  | some block => exact block.replaces text

/-- The variants of a family are, one for one and in order, what the documented
lines make of the templates. -/
theorem variants_specialize_lines (family : Family) (config : Configuration)
    (templates : Sources) :
    List.Forall₂
      (fun lines variant =>
        Specializes lines.vertex templates.vertex variant.vertex ∧
        Specializes lines.fragment templates.fragment variant.fragment)
      (family.lines config) (family.variants config templates) := by
  rw [← family.plans_lines config, Family.variants, List.forall₂_map_left_iff,
    List.forall₂_map_right_iff, List.forall₂_same]
  intro plan _
  constructor
  · exact specializeStage_specializes plan.vertex templates.vertex
  · exact specializeStage_specializes plan.fragment templates.fragment

/-- The lines of a horizontal blur, in the place of the first of two markers. -/
example :
    ((Family.blur.variants {} { fragment := "a#algdef b#algdef" }).map (·.fragment))[0]? =
      some ("a#define KERNEL_RADIUS 4\n#define vecout vec3\n#define texComponent rgb\n" ++
        "#define ALGINE_HORIZONTAL\n b#algdef") := by
  decide +kernel

end ShaderFamilies
