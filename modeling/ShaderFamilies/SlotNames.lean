/-!
# Names that the templates declare

The attributes and uniforms of each pass, which the tables look up, by the key under
which rendering code refers to them, and the names of the elements of uniform arrays.
A name that a template does not declare is no error: it has no location.
-/

namespace ShaderFamilies

inductive Slot
  | attribute (name : String)
  | uniform (name : String)
  deriving DecidableEq

def arrayElement (array : String) (index : Nat) : String :=
  array ++ "[" ++ toString index ++ "]"

def structElement (array : String) (index : Nat) (field : String) : String :=
  array ++ "[" ++ toString index ++ "]." ++ field

inductive NameGroup
  | color
  | shadow
  | dof
  | blend
  | ssr
  | bloomSearch
  | blur
  | cubemap
  deriving DecidableEq

def NameGroup.name : NameGroup → String
  | .color => "color"
  | .shadow => "shadow"
  | .dof => "dof"
  | .blend => "blend"
  | .ssr => "ssr"
  | .bloomSearch => "bloom_search"
  | .blur => "blur"
  | .cubemap => "cubemap"

def NameGroup.all : List NameGroup :=
  [.color, .shadow, .dof, .blend, .ssr, .bloomSearch, .blur, .cubemap]

def NameGroup.ofName? (name : String) : Option NameGroup :=
  all.find? (·.name == name)

/-! ## The color pass -/

namespace ColorNames

def matModel : String := "modelMatrix"
def matView : String := "viewMatrix"
def matPvm : String := "MVPMatrix"
def matVm : String := "MVMatrix"
def bones : String := "bones"
def switchNormalMapping : String := "normalMappingSwitcher"
def boneAttribsPerVertex : String := "boneAttribsPerVertex"
def inPosition : String := "inPos"
def inNormal : String := "inNormal"
def inTangent : String := "inTangent"
def inBitangent : String := "inBitangent"
def inTexCoord : String := "inTexCoord"
def inBoneIds : String := "inBoneIds"
def inBoneWeights : String := "inBoneWeights"
def viewPosition : String := "viewPos"
def pointLightsCount : String := "pointLightsCount"
def dirLightsCount : String := "dirLightsCount"
def shadowDiskRadiusK : String := "diskRadius_k"
def shadowDiskRadiusMin : String := "diskRadius_min"
def shadowOpacity : String := "shadowOpacity"
def switchTextureMapping : String := "textureMappingSwitcher"
def materialAmbientTex : String := "material.ambient"
def materialDiffuseTex : String := "material.diffuse"
def materialSpecularTex : String := "material.specular"
def materialNormalTex : String := "material.normal"
def materialReflectionStrengthTex : String := "material.reflectionStrength"
def materialJitterTex : String := "material.jitter"
def materialAmbientColor : String := "material.cambient"
def materialDiffuseColor : String := "material.cdiffuse"
def materialSpecularColor : String := "material.cspecular"
def materialAmbientStrength : String := "material.ambientStrength"
def materialDiffuseStrength : String := "material.diffuseStrength"
def materialSpecularStrength : String := "material.specularStrength"
def materialShininess : String := "material.shininess"
def pointLights : String := "pointLights"
def dirLights : String := "dirLights"
def lightKc : String := "kc"
def lightKl : String := "kl"
def lightKq : String := "kq"
def lightPos : String := "pos"
def lightColor : String := "color"
def lightFar : String := "far"
def lightBias : String := "bias"
def lightMatrix : String := "lightMatrix"
def lightMinBias : String := "minBias"
def lightMaxBias : String := "maxBias"
def pointLightShadowMaps : String := "pointLightShadowMaps"
def dirLightShadowMaps : String := "dirLightShadowMaps"

/-- The names by their keys. -/
def byKey : List (String × String) :=
  [("MAT_MODEL", matModel),
    ("MAT_VIEW", matView),
    ("MAT_PVM", matPvm),
    ("MAT_VM", matVm),
    ("BONES", bones),
    ("SWITCH_NORMAL_MAPPING", switchNormalMapping),
    ("BONE_ATTRIBS_PER_VERTEX", boneAttribsPerVertex),
    ("IN_POSITION", inPosition),
    ("IN_NORMAL", inNormal),
    ("IN_TANGENT", inTangent),
    ("IN_BITANGENT", inBitangent),
    ("IN_TEXCOORD", inTexCoord),
    ("IN_BONE_IDS", inBoneIds),
    ("IN_BONE_WEIGHTS", inBoneWeights),
    ("VIEW_POSITION", viewPosition),
    ("POINT_LIGHTS_COUNT", pointLightsCount),
    ("DIR_LIGHTS_COUNT", dirLightsCount),
    ("SHADOW_DISK_RADIUS_K", shadowDiskRadiusK),
    ("SHADOW_DISK_RADIUS_MIN", shadowDiskRadiusMin),
    ("SHADOW_OPACITY", shadowOpacity),
    ("SWITCH_TEXTURE_MAPPING", switchTextureMapping),
    ("MATERIAL_AMBIENT_TEX", materialAmbientTex),
    ("MATERIAL_DIFFUSE_TEX", materialDiffuseTex),
    ("MATERIAL_SPECULAR_TEX", materialSpecularTex),
    ("MATERIAL_NORMAL_TEX", materialNormalTex),
    ("MATERIAL_REFLECTION_STRENGTH_TEX", materialReflectionStrengthTex),
    ("MATERIAL_JITTER_TEX", materialJitterTex),
    ("MATERIAL_AMBIENT_COLOR", materialAmbientColor),
    ("MATERIAL_DIFFUSE_COLOR", materialDiffuseColor),
    ("MATERIAL_SPECULAR_COLOR", materialSpecularColor),
    ("MATERIAL_AMBIENT_STRENGTH", materialAmbientStrength),
    ("MATERIAL_DIFFUSE_STRENGTH", materialDiffuseStrength),
    ("MATERIAL_SPECULAR_STRENGTH", materialSpecularStrength),
    ("MATERIAL_SHININESS", materialShininess),
    ("POINT_LIGHTS", pointLights),
    ("DIR_LIGHTS", dirLights),
    ("LIGHT_KC", lightKc),
    ("LIGHT_KL", lightKl),
    ("LIGHT_KQ", lightKq),
    ("LIGHT_POS", lightPos),
    ("LIGHT_COLOR", lightColor),
    ("LIGHT_FAR", lightFar),
    ("LIGHT_BIAS", lightBias),
    ("LIGHT_MATRIX", lightMatrix),
    ("LIGHT_MIN_BIAS", lightMinBias),
    ("LIGHT_MAX_BIAS", lightMaxBias),
    ("POINT_LIGHT_SHADOW_MAPS", pointLightShadowMaps),
    ("DIR_LIGHT_SHADOW_MAPS", dirLightShadowMaps)]

end ColorNames

/-! ## The shadow pass -/

namespace ShadowNames

def matShadow : String := "shadowMatrices"
def matLightSpace : String := "lightSpaceMatrix"
def matModel : String := "model"
def bones : String := "bones"
def boneAttribsPerVertex : String := "boneAttribsPerVertex"
def inPosition : String := "inPosition"
def inBoneIds : String := "inBoneIds"
def inBoneWeights : String := "inBoneWeights"
def lampPosition : String := "lampPos"
def farPlane : String := "far"

/-- The names by their keys. -/
def byKey : List (String × String) :=
  [("MAT_SHADOW", matShadow),
    ("MAT_LIGHT_SPACE", matLightSpace),
    ("MAT_MODEL", matModel),
    ("BONES", bones),
    ("BONE_ATTRIBS_PER_VERTEX", boneAttribsPerVertex),
    ("IN_POSITION", inPosition),
    ("IN_BONE_IDS", inBoneIds),
    ("IN_BONE_WEIGHTS", inBoneWeights),
    ("LAMP_POSITION", lampPosition),
    ("FAR_PLANE", farPlane)]

end ShadowNames

/-! ## The depth of field passes -/

namespace DofNames

def inPosition : String := "inPosition"
def inTexCoord : String := "inTexCoord"
def samplerImage : String := "image"
def samplerMapPosition : String := "positionMap"
def samplerMapCoc : String := "cocMap"
def focalDepth : String := "focalDepth"
def focalRange : String := "focalRange"
def sigmaMin : String := "sigmaMin"
def sigmaMax : String := "sigmaMax"
def cinematicPlaneInFocus : String := "cinematicDOF.p"
def cinematicAperture : String := "cinematicDOF.a"
def cinematicImageDistance : String := "cinematicDOF.i"
def bleedingElimMinDz : String := "bleedingEliminationMinDeltaZ"
def bleedingElimMinDcoc : String := "bleedingEliminationMinDeltaCoC"
def bleedingElimMaxFcoc : String := "bleedingEliminationMaxFocusCoC"

/-- The names by their keys. -/
def byKey : List (String × String) :=
  [("IN_POSITION", inPosition),
    ("IN_TEXCOORD", inTexCoord),
    ("SAMPLER_IMAGE", samplerImage),
    ("SAMPLER_MAP_POSITION", samplerMapPosition),
    ("SAMPLER_MAP_COC", samplerMapCoc),
    ("FOCAL_DEPTH", focalDepth),
    ("FOCAL_RANGE", focalRange),
    ("SIGMA_MIN", sigmaMin),
    ("SIGMA_MAX", sigmaMax),
    ("CINEMATIC_PLANE_IN_FOCUS", cinematicPlaneInFocus),
    ("CINEMATIC_APERTURE", cinematicAperture),
    ("CINEMATIC_IMAGE_DISTANCE", cinematicImageDistance),
    ("BLEEDING_ELIM_MIN_DZ", bleedingElimMinDz),
    ("BLEEDING_ELIM_MIN_DCOC", bleedingElimMinDcoc),
    ("BLEEDING_ELIM_MAX_FCOC", bleedingElimMaxFcoc)]

end DofNames

/-! ## The blend pass -/

namespace BlendNames

def inPosition : String := "inPosition"
def inTexCoord : String := "inTexCoord"
def samplerBloom : String := "bloomScene"
def samplerImage : String := "image"
def exposure : String := "exposure"
def gamma : String := "gamma"

/-- The names by their keys. -/
def byKey : List (String × String) :=
  [("IN_POSITION", inPosition),
    ("IN_TEXCOORD", inTexCoord),
    ("SAMPLER_BLOOM", samplerBloom),
    ("SAMPLER_IMAGE", samplerImage),
    ("EXPOSURE", exposure),
    ("GAMMA", gamma)]

end BlendNames

/-! ## Screen-space reflections -/

namespace SsrNames

def inPosition : String := "inPosition"
def inTexCoord : String := "inTexCoord"
def samplerMapColor : String := "colorMap"
def samplerMapNormal : String := "normalMap"
def samplerMapSsrValues : String := "ssrValuesMap"
def samplerMapPosition : String := "positionMap"
def matProjection : String := "projection"
def matView : String := "view"
def skyColor : String := "skyColor"
def binarySearchCount : String := "binarySearchCount"
def rayMarchCount : String := "rayMarchCount"
def step : String := "step"
def lLimiter : String := "LLimiter"
def minRayStep : String := "minRayStep"

/-- The names by their keys. -/
def byKey : List (String × String) :=
  [("IN_POSITION", inPosition),
    ("IN_TEXCOORD", inTexCoord),
    ("SAMPLER_MAP_COLOR", samplerMapColor),
    ("SAMPLER_MAP_NORMAL", samplerMapNormal),
    ("SAMPLER_MAP_SSR_VALUES", samplerMapSsrValues),
    ("SAMPLER_MAP_POSITION", samplerMapPosition),
    ("MAT_PROJECTION", matProjection),
    ("MAT_VIEW", matView),
    ("SKY_COLOR", skyColor),
    ("BINARY_SEARCH_COUNT", binarySearchCount),
    ("RAY_MARCH_COUNT", rayMarchCount),
    ("STEP", step),
    ("L_LIMITER", lLimiter),
    ("MIN_RAY_STEP", minRayStep)]

end SsrNames

/-! ## The search for bright pixels -/

namespace BloomSearchNames

def inPosition : String := "inPosition"
def inTexCoord : String := "inTexCoord"
def threshold : String := "threshold"
def brightnessThreshold : String := "brightnessThreshold"
def image : String := "image"

/-- The names by their keys. -/
def byKey : List (String × String) :=
  [("IN_POSITION", inPosition),
    ("IN_TEXCOORD", inTexCoord),
    ("THRESHOLD", threshold),
    ("BRIGHTNESS_THRESHOLD", brightnessThreshold),
    ("IMAGE", image)]

end BloomSearchNames

/-! ## The separable blur -/

namespace BlurNames

def inPosition : String := "inPosition"
def inTexCoord : String := "inTexCoord"
def image : String := "image"
def kernel : String := "kernel"

/-- The names by their keys. -/
def byKey : List (String × String) :=
  [("IN_POSITION", inPosition),
    ("IN_TEXCOORD", inTexCoord),
    ("IMAGE", image),
    ("KERNEL", kernel)]

end BlurNames

/-! ## The cubemap pass -/

namespace CubemapNames

def inPosition : String := "inPos"
def matTransform : String := "transform"
def cubemap : String := "cubemap"
def color : String := "color"
def positionScaling : String := "scaling"

/-- The names by their keys. -/
def byKey : List (String × String) :=
  [("IN_POSITION", inPosition),
    ("MAT_TRANSFORM", matTransform),
    ("CUBEMAP", cubemap),
    ("COLOR", color),
    ("POSITION_SCALING", positionScaling)]

end CubemapNames

/-! ## All passes -/

def NameGroup.names : NameGroup → List (String × String)
  | .color => ColorNames.byKey
  | .shadow => ShadowNames.byKey
  | .dof => DofNames.byKey
  | .blend => BlendNames.byKey
  | .ssr => SsrNames.byKey
  | .bloomSearch => BloomSearchNames.byKey
  | .blur => BlurNames.byKey
  | .cubemap => CubemapNames.byKey

end ShaderFamilies
