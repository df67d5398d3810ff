import ShaderFamilies.SlotNames

/-!
# The location tables of the other passes

Each table is given by its entries, by the slots that it looks up, and by the
order in which its entries are visited.
-/

namespace ShaderFamilies

variable {m : Type → Type} [Monad m] {α β : Type}

structure ShadowTable (α : Type) where
  shadowMatrices : α
  matLightSpace : α
  matModel : α
  bones : α
  boneAttribsPerVertex : α
  inPosition : α
  inBoneIds : α
  inBoneWeights : α
  lampPos : α
  far : α
  deriving DecidableEq

def ShadowTable.slots : ShadowTable Slot where
  shadowMatrices := .uniform ShadowNames.matShadow
  matLightSpace := .uniform ShadowNames.matLightSpace
  matModel := .uniform ShadowNames.matModel
  bones := .uniform ShadowNames.bones
  boneAttribsPerVertex := .uniform ShadowNames.boneAttribsPerVertex
  inPosition := .attribute ShadowNames.inPosition
  inBoneIds := .attribute ShadowNames.inBoneIds
  inBoneWeights := .attribute ShadowNames.inBoneWeights
  lampPos := .uniform ShadowNames.lampPosition
  far := .uniform ShadowNames.farPlane

def ShadowTable.traverse (visit : α → m β) (table : ShadowTable α) :
    m (ShadowTable β) := do
  return {
    shadowMatrices := ← visit table.shadowMatrices
    matLightSpace := ← visit table.matLightSpace
    matModel := ← visit table.matModel
    bones := ← visit table.bones
    boneAttribsPerVertex := ← visit table.boneAttribsPerVertex
    inPosition := ← visit table.inPosition
    inBoneIds := ← visit table.inBoneIds
    inBoneWeights := ← visit table.inBoneWeights
    lampPos := ← visit table.lampPos
    far := ← visit table.far
  }

def ShadowTable.entries (table : ShadowTable α) : List (String × α) :=
  [("shadow_matrices", table.shadowMatrices),
    ("mat_light_space", table.matLightSpace),
    ("mat_model", table.matModel),
    ("bones", table.bones),
    ("bone_attribs_per_vertex", table.boneAttribsPerVertex),
    ("in_position", table.inPosition),
    ("in_bone_ids", table.inBoneIds),
    ("in_bone_weights", table.inBoneWeights),
    ("lamp_pos", table.lampPos),
    ("far", table.far)]

structure DofTable (α : Type) where
  inPosition : α
  inTexCoord : α
  samplerPositionMap : α
  focalDepth : α
  focalRange : α
  sigmaMin : α
  sigmaMax : α
  cinematicPlaneInFocus : α
  cinematicAperture : α
  cinematicImageDistance : α
  deriving DecidableEq

def DofTable.slots : DofTable Slot where
  inPosition := .attribute DofNames.inPosition
  inTexCoord := .attribute DofNames.inTexCoord
  samplerPositionMap := .uniform DofNames.samplerMapPosition
  focalDepth := .uniform DofNames.focalDepth
  focalRange := .uniform DofNames.focalRange
  sigmaMin := .uniform DofNames.sigmaMin
  sigmaMax := .uniform DofNames.sigmaMax
  cinematicPlaneInFocus := .uniform DofNames.cinematicPlaneInFocus
  cinematicAperture := .uniform DofNames.cinematicAperture
  cinematicImageDistance := .uniform DofNames.cinematicImageDistance

def DofTable.traverse (visit : α → m β) (table : DofTable α) :
    m (DofTable β) := do
  return {
    inPosition := ← visit table.inPosition
    inTexCoord := ← visit table.inTexCoord
    samplerPositionMap := ← visit table.samplerPositionMap
    focalDepth := ← visit table.focalDepth
    focalRange := ← visit table.focalRange
    sigmaMin := ← visit table.sigmaMin
    sigmaMax := ← visit table.sigmaMax
    cinematicPlaneInFocus := ← visit table.cinematicPlaneInFocus
    cinematicAperture := ← visit table.cinematicAperture
    cinematicImageDistance := ← visit table.cinematicImageDistance
  }

def DofTable.entries (table : DofTable α) : List (String × α) :=
  [("in_position", table.inPosition),
    ("in_tex_coord", table.inTexCoord),
    ("sampler_position_map", table.samplerPositionMap),
    ("focal_depth", table.focalDepth),
    ("focal_range", table.focalRange),
    ("sigma_min", table.sigmaMin),
    ("sigma_max", table.sigmaMax),
    ("cinematic_plane_in_focus", table.cinematicPlaneInFocus),
    ("cinematic_aperture", table.cinematicAperture),
    ("cinematic_image_distance", table.cinematicImageDistance)]

structure DofBlurTable (α : Type) where
  dof : DofTable α
  samplerImage : α
  samplerCocMap : α
  bleedingEliminationMinDeltaZ : α
  bleedingEliminationMinDeltaCoc : α
  bleedingEliminationMaxFocusCoc : α
  deriving DecidableEq

def DofBlurTable.slots : DofBlurTable Slot where
  dof := DofTable.slots
  samplerImage := .uniform DofNames.samplerImage
  samplerCocMap := .uniform DofNames.samplerMapCoc
  bleedingEliminationMinDeltaZ := .uniform DofNames.bleedingElimMinDz
  bleedingEliminationMinDeltaCoc := .uniform DofNames.bleedingElimMinDcoc
  bleedingEliminationMaxFocusCoc := .uniform DofNames.bleedingElimMaxFcoc

def DofBlurTable.traverse (visit : α → m β) (table : DofBlurTable α) :
    m (DofBlurTable β) := do
  return {
    dof := ← table.dof.traverse visit
    samplerImage := ← visit table.samplerImage
    samplerCocMap := ← visit table.samplerCocMap
    bleedingEliminationMinDeltaZ := ← visit table.bleedingEliminationMinDeltaZ
    bleedingEliminationMinDeltaCoc := ← visit table.bleedingEliminationMinDeltaCoc
    bleedingEliminationMaxFocusCoc := ← visit table.bleedingEliminationMaxFocusCoc
  }

def DofBlurTable.entries (table : DofBlurTable α) : List (String × α) :=
  [("sampler_image", table.samplerImage),
    ("sampler_coc_map", table.samplerCocMap),
    ("bleeding_elimination_min_delta_z", table.bleedingEliminationMinDeltaZ),
    ("bleeding_elimination_min_delta_coc", table.bleedingEliminationMinDeltaCoc),
    ("bleeding_elimination_max_focus_coc", table.bleedingEliminationMaxFocusCoc)]

structure DofCocTable (α : Type) where
  dof : DofTable α
  deriving DecidableEq

def DofCocTable.slots : DofCocTable Slot where
  dof := DofTable.slots

def DofCocTable.traverse (visit : α → m β) (table : DofCocTable α) :
    m (DofCocTable β) := do
  return {
    dof := ← table.dof.traverse visit
  }

structure BlendTable (α : Type) where
  inPosition : α
  inTexCoord : α
  samplerBloom : α
  samplerImage : α
  exposure : α
  gamma : α
  deriving DecidableEq

def BlendTable.slots : BlendTable Slot where
  inPosition := .attribute BlendNames.inPosition
  inTexCoord := .attribute BlendNames.inTexCoord
  samplerBloom := .uniform BlendNames.samplerBloom
  samplerImage := .uniform BlendNames.samplerImage
  exposure := .uniform BlendNames.exposure
  gamma := .uniform BlendNames.gamma

def BlendTable.traverse (visit : α → m β) (table : BlendTable α) :
    m (BlendTable β) := do
  return {
    inPosition := ← visit table.inPosition
    inTexCoord := ← visit table.inTexCoord
    samplerBloom := ← visit table.samplerBloom
    samplerImage := ← visit table.samplerImage
    exposure := ← visit table.exposure
    gamma := ← visit table.gamma
  }

def BlendTable.entries (table : BlendTable α) : List (String × α) :=
  [("in_position", table.inPosition),
    ("in_tex_coord", table.inTexCoord),
    ("sampler_bloom", table.samplerBloom),
    ("sampler_image", table.samplerImage),
    ("exposure", table.exposure),
    ("gamma", table.gamma)]

structure SsrTable (α : Type) where
  inPosition : α
  inTexCoord : α
  samplerColorMap : α
  samplerNormalMap : α
  samplerSsrValuesMap : α
  samplerPositionMap : α
  matProjection : α
  matView : α
  skyColor : α
  binarySearchCount : α
  rayMarchCount : α
  step : α
  lLimiter : α
  minRayStep : α
  deriving DecidableEq

def SsrTable.slots : SsrTable Slot where
  inPosition := .attribute SsrNames.inPosition
  inTexCoord := .attribute SsrNames.inTexCoord
  samplerColorMap := .uniform SsrNames.samplerMapColor
  samplerNormalMap := .uniform SsrNames.samplerMapNormal
  samplerSsrValuesMap := .uniform SsrNames.samplerMapSsrValues
  samplerPositionMap := .uniform SsrNames.samplerMapPosition
  matProjection := .uniform SsrNames.matProjection
  matView := .uniform SsrNames.matView
  skyColor := .uniform SsrNames.skyColor
  binarySearchCount := .uniform SsrNames.binarySearchCount
  rayMarchCount := .uniform SsrNames.rayMarchCount
  step := .uniform SsrNames.step
  lLimiter := .uniform SsrNames.lLimiter
  minRayStep := .uniform SsrNames.minRayStep

def SsrTable.traverse (visit : α → m β) (table : SsrTable α) :
    m (SsrTable β) := do
  return {
    inPosition := ← visit table.inPosition
    inTexCoord := ← visit table.inTexCoord
    samplerColorMap := ← visit table.samplerColorMap
    samplerNormalMap := ← visit table.samplerNormalMap
    samplerSsrValuesMap := ← visit table.samplerSsrValuesMap
    samplerPositionMap := ← visit table.samplerPositionMap
    matProjection := ← visit table.matProjection
    matView := ← visit table.matView
    skyColor := ← visit table.skyColor
    binarySearchCount := ← visit table.binarySearchCount
    rayMarchCount := ← visit table.rayMarchCount
    step := ← visit table.step
    lLimiter := ← visit table.lLimiter
    minRayStep := ← visit table.minRayStep
  }

def SsrTable.entries (table : SsrTable α) : List (String × α) :=
  [("in_position", table.inPosition),
    ("in_tex_coord", table.inTexCoord),
    ("sampler_color_map", table.samplerColorMap),
    ("sampler_normal_map", table.samplerNormalMap),
    ("sampler_ssr_values_map", table.samplerSsrValuesMap),
    ("sampler_position_map", table.samplerPositionMap),
    ("mat_projection", table.matProjection),
    ("mat_view", table.matView),
    ("sky_color", table.skyColor),
    ("binary_search_count", table.binarySearchCount),
    ("ray_march_count", table.rayMarchCount),
    ("step", table.step),
    ("l_limiter", table.lLimiter),
    ("min_ray_step", table.minRayStep)]

structure BloomSearchTable (α : Type) where
  inPosition : α
  inTexCoord : α
  threshold : α
  brightnessThreshold : α
  image : α
  deriving DecidableEq

def BloomSearchTable.slots : BloomSearchTable Slot where
  inPosition := .attribute BloomSearchNames.inPosition
  inTexCoord := .attribute BloomSearchNames.inTexCoord
  threshold := .uniform BloomSearchNames.threshold
  brightnessThreshold := .uniform BloomSearchNames.brightnessThreshold
  image := .uniform BloomSearchNames.image

def BloomSearchTable.traverse (visit : α → m β) (table : BloomSearchTable α) :
    m (BloomSearchTable β) := do
  return {
    inPosition := ← visit table.inPosition
    inTexCoord := ← visit table.inTexCoord
    threshold := ← visit table.threshold
    brightnessThreshold := ← visit table.brightnessThreshold
    image := ← visit table.image
  }

def BloomSearchTable.entries (table : BloomSearchTable α) : List (String × α) :=
  [("in_position", table.inPosition),
    ("in_tex_coord", table.inTexCoord),
    ("threshold", table.threshold),
    ("brightness_threshold", table.brightnessThreshold),
    ("image", table.image)]

structure BlurTable (α : Type) where
  inPosition : α
  inTexCoord : α
  image : α
  kernel : α
  deriving DecidableEq

def BlurTable.slots : BlurTable Slot where
  inPosition := .attribute BlurNames.inPosition
  inTexCoord := .attribute BlurNames.inTexCoord
  image := .uniform BlurNames.image
  kernel := .uniform BlurNames.kernel

def BlurTable.traverse (visit : α → m β) (table : BlurTable α) :
    m (BlurTable β) := do
  return {
    inPosition := ← visit table.inPosition
    inTexCoord := ← visit table.inTexCoord
    image := ← visit table.image
    kernel := ← visit table.kernel
  }

def BlurTable.entries (table : BlurTable α) : List (String × α) :=
  [("in_position", table.inPosition),
    ("in_tex_coord", table.inTexCoord),
    ("image", table.image),
    ("kernel", table.kernel)]

structure CubemapTable (α : Type) where
  inPosition : α
  matTransform : α
  cubemap : α
  color : α
  positionScaling : α
  deriving DecidableEq

def CubemapTable.slots : CubemapTable Slot where
  inPosition := .attribute CubemapNames.inPosition
  matTransform := .uniform CubemapNames.matTransform
  cubemap := .uniform CubemapNames.cubemap
  color := .uniform CubemapNames.color
  positionScaling := .uniform CubemapNames.positionScaling

def CubemapTable.traverse (visit : α → m β) (table : CubemapTable α) :
    m (CubemapTable β) := do
  return {
    inPosition := ← visit table.inPosition
    matTransform := ← visit table.matTransform
    cubemap := ← visit table.cubemap
    color := ← visit table.color
    positionScaling := ← visit table.positionScaling
  }

def CubemapTable.entries (table : CubemapTable α) : List (String × α) :=
  [("in_position", table.inPosition),
    ("mat_transform", table.matTransform),
    ("cubemap", table.cubemap),
    ("color", table.color),
    ("position_scaling", table.positionScaling)]

end ShaderFamilies
