import ShaderFamilies.Configuration
import ShaderFamilies.MarkerReplacement
import ShaderFamilies.StageSources

/-!
# Shader families and their variants

A family turns its templates into one variant, or, for a separable pass, into
a horizontal and a vertical one.  What a variant does to the templates is a
plan: for each stage that it specializes, the block which replaces the marker.
A stage without a block keeps its text.  The variants of a separable pass have
no geometry stage.
-/

namespace ShaderFamilies

inductive Family
  | color
  | shadow
  | dofBlur
  | dofCoc
  | blend
  | ssr
  | bloomSearch
  | blur
  | cubemap
  deriving DecidableEq

namespace Family

def all : List Family :=
  [.color, .shadow, .dofBlur, .dofCoc, .blend, .ssr, .bloomSearch, .blur, .cubemap]

def name : Family → String
  | .color => "color"
  | .shadow => "shadow"
  | .dofBlur => "dof_blur"
  | .dofCoc => "dof_coc"
  | .blend => "blend"
  | .ssr => "ssr"
  | .bloomSearch => "bloom_search"
  | .blur => "blur"
  | .cubemap => "cubemap"

def ofName? (name : String) : Option Family :=
  all.find? (·.name == name)

/-- Whether a family is a separable pass, with a variant per direction. -/
def isDirectional : Family → Bool
  | .dofBlur | .blur => true
  | _ => false

end Family

/-! ## The words that defines use for the options -/

def normalMappingFlag : MappingMode → String
  | .disabled => "ALGINE_NORMAL_MAPPING_MODE_DISABLED"
  | .enabled => "ALGINE_NORMAL_MAPPING_MODE_ENABLED"
  | .dual => "ALGINE_NORMAL_MAPPING_MODE_DUAL"

def boneSystemFlag : Switch → String
  | .disabled => "ALGINE_BONE_SYSTEM_DISABLED"
  | .enabled => "ALGINE_BONE_SYSTEM_ENABLED"

def shadowMappingFlag : ShadowMode → String
  | .disabled => "ALGINE_SHADOW_MAPPING_MODE_DISABLED"
  | .simple => "ALGINE_SHADOW_MAPPING_MODE_SIMPLE"
  | .enabled => "ALGINE_SHADOW_MAPPING_MODE_ENABLED"

def shadowLightFlag : ShadowLight → String
  | .point => "ALGINE_SHADOW_MAPPING_TYPE_POINT_LIGHTING"
  | .directional => "ALGINE_SHADOW_MAPPING_TYPE_DIR_LIGHTING"

def textureMappingFlag : MappingMode → String
  | .disabled => "ALGINE_TEXTURE_MAPPING_MODE_DISABLED"
  | .enabled => "ALGINE_TEXTURE_MAPPING_MODE_ENABLED"
  | .dual => "ALGINE_TEXTURE_MAPPING_MODE_DUAL"

def lightingFlag : Switch → String
  | .disabled => "ALGINE_LIGHTING_MODE_DISABLED"
  | .enabled => "ALGINE_LIGHTING_MODE_ENABLED"

def attenuationFlag : Switch → String
  | .disabled => "ALGINE_ATTENUATION_MODE_DISABLED"
  | .enabled => "ALGINE_ATTENUATION_MODE_ENABLED"

def reflectionsFlag : Switch → String
  | .disabled => "ALGINE_SSR_MODE_DISABLED"
  | .enabled => "ALGINE_SSR_MODE_ENABLED"

def bloomFlag : Switch → String
  | .disabled => "ALGINE_BLOOM_DISABLED"
  | .enabled => "ALGINE_BLOOM_ENABLED"

def bloomBlendFlag : BloomBlend → String
  | .add => "ALGINE_BLOOM_TYPE_ADD"
  | .screen => "ALGINE_BLOOM_TYPE_SCREEN"

def dofAlgorithmFlag : DofAlgorithm → String
  | .cinematic => "ALGINE_CINEMATIC_DOF"
  | .linear => "ALGINE_LINEAR_DOF"
  | .fromCocMap => "ALGINE_DOF_FROM_COC_MAP"

def positionOutputFlag : PositionOutput → Option String
  | .none => none
  | .cube => some "ALGINE_CUBE_POSITIONS"
  | .sphere => some "ALGINE_SPHERE_POSITIONS"

def horizontalFlag : String := "ALGINE_HORIZONTAL"

def verticalFlag : String := "ALGINE_VERTICAL"

/-! ## The blocks of the families -/

def colorVertexBlock (flags : FeatureFlags) (color : ColorParameters) : DefineBlock :=
  DefineBlock.empty
    |>.flag (normalMappingFlag flags.normalMapping)
    |>.flag (boneSystemFlag flags.boneSystem)
    |>.number "MAX_BONE_ATTRIBS_PER_VERTEX" color.maxBoneAttribsPerVertex
    |>.number "MAX_BONES" color.maxBones

def colorFragmentBlock (flags : FeatureFlags) (color : ColorParameters) : DefineBlock :=
  DefineBlock.empty
    |>.flag (normalMappingFlag flags.normalMapping)
    |>.flag (shadowMappingFlag flags.shadowMapping)
    |>.flag (textureMappingFlag flags.textureMapping)
    |>.flag (lightingFlag flags.lighting)
    |>.flag (attenuationFlag flags.attenuation)
    |>.flag (reflectionsFlag flags.reflections)
    |>.number "MAX_POINT_LIGHTS_COUNT" color.maxPointLights
    |>.number "MAX_DIR_LIGHTS_COUNT" color.maxDirLights

def shadowVertexBlock (flags : FeatureFlags) (shadow : ShadowParameters) : DefineBlock :=
  DefineBlock.empty
    |>.flag (boneSystemFlag flags.boneSystem)
    |>.flag (shadowLightFlag flags.shadowLight)
    |>.number "MAX_BONE_ATTRIBS_PER_VERTEX" shadow.maxBoneAttribsPerVertex
    |>.number "MAX_BONES" shadow.maxBones

def shadowFragmentBlock (flags : FeatureFlags) : DefineBlock :=
  DefineBlock.empty.flag (shadowLightFlag flags.shadowLight)

/-- The block of the vertical depth of field blur.  The horizontal one adds
its direction at the end. -/
def dofBlurBlock (dof : DofParameters) : DefineBlock :=
  DefineBlock.empty
    |>.flag (dofAlgorithmFlag dof.algorithm)
    |>.flagIf dof.eliminateDeltaZ "ALGINE_BLEEDING_ELIM_DZ"
    |>.flagIf dof.eliminateDeltaCoc "ALGINE_BLEEDING_ELIM_DCOC"
    |>.flagIf dof.eliminateFocusCoc "ALGINE_BLEEDING_ELIM_FCOC"
    |>.number "KERNEL_RADIUS" dof.kernelRadius

/-- The pass that computes the circle of confusion cannot take it from a map,
so only the cinematic algorithm differs from the linear one. -/
def dofCocBlock (dof : DofParameters) : DefineBlock :=
  DefineBlock.empty.flag <| dofAlgorithmFlag <|
    if dof.algorithm = .cinematic then .cinematic else .linear

def blendBlock (flags : FeatureFlags) : DefineBlock :=
  DefineBlock.empty
    |>.flag (bloomFlag flags.bloom)
    |>.flag (bloomBlendFlag flags.bloomBlend)

def blurBlock (blur : BlurParameters) : DefineBlock :=
  DefineBlock.empty
    |>.number "KERNEL_RADIUS" blur.kernelRadius
    |>.value "vecout" blur.output.typeName
    |>.value "texComponent" blur.channels.swizzle

def cubemapBlock (cubemap : CubemapParameters) : DefineBlock :=
  DefineBlock.empty
    |>.number "ALGINE_CUBEMAP_COLOR_OUT_COLOR_COMPONENT" cubemap.colorComponent
    |>.number "ALGINE_POS_OUT_COLOR_COMPONENT" cubemap.positionComponent
    |>.value "vecout" cubemap.output.typeName
    |>.flagIf cubemap.colorOutput "ALGINE_CUBEMAP_COLOR"
    |>.flagOption (positionOutputFlag cubemap.positionOutput)

/-! ## Plans -/

/-- What a variant makes of the templates. -/
structure VariantPlan where
  vertex : Option DefineBlock := none
  fragment : Option DefineBlock := none
  keepsGeometry : Bool := true

/-- The text of a stage under an optional block. -/
def specializeStage (block : Option DefineBlock) (text : String) : String :=
  match block with
  | some block => block.apply text
  | none => text

def VariantPlan.apply (plan : VariantPlan) (templates : Sources) : Sources where
  vertex := specializeStage plan.vertex templates.vertex
  fragment := specializeStage plan.fragment templates.fragment
  geometry := if plan.keepsGeometry then templates.geometry else ""

def VariantPlan.directional (fragment : DefineBlock) : VariantPlan where
  fragment := some fragment
  keepsGeometry := false

structure DirectionalPair (α : Type) where
  horizontal : α
  vertical : α

def DirectionalPair.toList {α : Type} (pair : DirectionalPair α) : List α :=
  [pair.horizontal, pair.vertical]

def colorPlan (flags : FeatureFlags) (color : ColorParameters) : VariantPlan where
  vertex := some (colorVertexBlock flags color)
  fragment := some (colorFragmentBlock flags color)

def shadowPlan (flags : FeatureFlags) (shadow : ShadowParameters) : VariantPlan where
  vertex := some (shadowVertexBlock flags shadow)
  fragment := some (shadowFragmentBlock flags)

def dofBlurPlans (dof : DofParameters) : DirectionalPair VariantPlan where
  horizontal := .directional ((dofBlurBlock dof).flag horizontalFlag)
  vertical := .directional (dofBlurBlock dof)

def dofCocPlan (dof : DofParameters) : VariantPlan where
  fragment := some (dofCocBlock dof)

def blendPlan (flags : FeatureFlags) : VariantPlan where
  fragment := some (blendBlock flags)

def ssrPlan : VariantPlan := {}

def bloomSearchPlan : VariantPlan := {}

def blurPlans (blur : BlurParameters) : DirectionalPair VariantPlan where
  horizontal := .directional ((blurBlock blur).flag horizontalFlag)
  vertical := .directional ((blurBlock blur).flag verticalFlag)

def cubemapPlan (cubemap : CubemapParameters) : VariantPlan where
  fragment := some (cubemapBlock cubemap)

def Family.plans (family : Family) (config : Configuration) : List VariantPlan :=
  match family with
  | .color => [colorPlan config.flags config.color]
  | .shadow => [shadowPlan config.flags config.shadow]
  | .dofBlur => (dofBlurPlans config.dofBlur).toList
  | .dofCoc => [dofCocPlan config.dofBlur]
  | .blend => [blendPlan config.flags]
  | .ssr => [ssrPlan]
  | .bloomSearch => [bloomSearchPlan]
  | .blur => (blurPlans config.blur).toList
  | .cubemap => [cubemapPlan config.cubemap]

/-- The specialized texts of a family, horizontal before vertical. -/
def Family.variants (family : Family) (config : Configuration) (templates : Sources) :
    List Sources :=
  (family.plans config).map (·.apply templates)

theorem Family.length_variants (family : Family) (config : Configuration)
    (templates : Sources) :
    (family.variants config templates).length =
      if family.isDirectional then 2 else 1 := by
  cases family <;> rfl

end ShaderFamilies
