import ShaderFamilies.SlotNames

/-!
# The location table of the color pass

A table has one entry for each attribute and uniform that the rendering code
uses.  Its shape does not depend on what the entries hold: a table of slots
says what is looked up, and visiting its entries in order turns it into a table
of locations.  The color pass has arrays of lights, whose lengths are chosen by
the configuration.
-/

namespace ShaderFamilies

variable {m : Type → Type} [Monad m] {α β : Type}

/-! ## Lights -/

structure LightTable (α : Type) where
  kc : α
  kl : α
  kq : α
  pos : α
  color : α
  deriving DecidableEq

def LightTable.slots (array : String) (index : Nat) : LightTable Slot where
  kc := .uniform (structElement array index ColorNames.lightKc)
  kl := .uniform (structElement array index ColorNames.lightKl)
  kq := .uniform (structElement array index ColorNames.lightKq)
  pos := .uniform (structElement array index ColorNames.lightPos)
  color := .uniform (structElement array index ColorNames.lightColor)

def LightTable.traverse (visit : α → m β) (table : LightTable α) :
    m (LightTable β) := do
  return {
    kc := ← visit table.kc
    kl := ← visit table.kl
    kq := ← visit table.kq
    pos := ← visit table.pos
    color := ← visit table.color
  }

def LightTable.entries (table : LightTable α) : List (String × α) :=
  [("kc", table.kc),
    ("kl", table.kl),
    ("kq", table.kq),
    ("pos", table.pos),
    ("color", table.color)]

structure PointLightTable (α : Type) where
  light : LightTable α
  far : α
  bias : α
  shadowMap : α
  deriving DecidableEq

def PointLightTable.slots (index : Nat) : PointLightTable Slot where
  light := LightTable.slots ColorNames.pointLights index
  far := .uniform (structElement ColorNames.pointLights index ColorNames.lightFar)
  bias := .uniform (structElement ColorNames.pointLights index ColorNames.lightBias)
  shadowMap := .uniform (arrayElement ColorNames.pointLightShadowMaps index)

def PointLightTable.traverse (visit : α → m β) (table : PointLightTable α) :
    m (PointLightTable β) := do
  return {
    light := ← table.light.traverse visit
    far := ← visit table.far
    bias := ← visit table.bias
    shadowMap := ← visit table.shadowMap
  }

/-- The entries beside those of the light itself, by name. -/
def PointLightTable.entries (table : PointLightTable α) : List (String × α) :=
  [("far", table.far),
    ("bias", table.bias),
    ("shadow_map", table.shadowMap)]

structure DirLightTable (α : Type) where
  light : LightTable α
  lightMatrix : α
  minBias : α
  maxBias : α
  shadowMap : α
  deriving DecidableEq

def DirLightTable.slots (index : Nat) : DirLightTable Slot where
  light := LightTable.slots ColorNames.dirLights index
  lightMatrix := .uniform (structElement ColorNames.dirLights index ColorNames.lightMatrix)
  minBias := .uniform (structElement ColorNames.dirLights index ColorNames.lightMinBias)
  maxBias := .uniform (structElement ColorNames.dirLights index ColorNames.lightMaxBias)
  shadowMap := .uniform (arrayElement ColorNames.dirLightShadowMaps index)

def DirLightTable.traverse (visit : α → m β) (table : DirLightTable α) :
    m (DirLightTable β) := do
  return {
    light := ← table.light.traverse visit
    lightMatrix := ← visit table.lightMatrix
    minBias := ← visit table.minBias
    maxBias := ← visit table.maxBias
    shadowMap := ← visit table.shadowMap
  }

def DirLightTable.entries (table : DirLightTable α) : List (String × α) :=
  [("light_matrix", table.lightMatrix),
    ("min_bias", table.minBias),
    ("max_bias", table.maxBias),
    ("shadow_map", table.shadowMap)]

/-! ## The color pass -/

/-- Locations of the color pass.  The lights come first, in the order of
their indices. -/
structure ColorTable (α : Type) where
  pointLights : List (PointLightTable α)
  dirLights : List (DirLightTable α)
  matModel : α
  matView : α
  matPvm : α
  matVm : α
  bones : α
  normalMappingSwitcher : α
  boneAttribsPerVertex : α
  inPosition : α
  inNormal : α
  inTangent : α
  inBitangent : α
  inTexCoord : α
  inBoneIds : α
  inBoneWeights : α
  viewPos : α
  pointLightsCount : α
  dirLightsCount : α
  shadowDiskRadiusK : α
  shadowDiskRadiusMin : α
  shadowOpacity : α
  textureMappingSwitcher : α
  materialAmbientTex : α
  materialDiffuseTex : α
  materialSpecularTex : α
  materialNormalTex : α
  materialReflectionStrengthTex : α
  materialJitterTex : α
  materialAmbientColor : α
  materialDiffuseColor : α
  materialSpecularColor : α
  materialAmbientStrength : α
  materialDiffuseStrength : α
  materialSpecularStrength : α
  materialShininess : α
  deriving DecidableEq

def ColorTable.slots (points directions : Nat) : ColorTable Slot where
  pointLights := (List.range points).map PointLightTable.slots
  dirLights := (List.range directions).map DirLightTable.slots
  matModel := .uniform ColorNames.matModel
  matView := .uniform ColorNames.matView
  matPvm := .uniform ColorNames.matPvm
  matVm := .uniform ColorNames.matVm
  bones := .uniform ColorNames.bones
  normalMappingSwitcher := .uniform ColorNames.switchNormalMapping
  boneAttribsPerVertex := .uniform ColorNames.boneAttribsPerVertex
  inPosition := .attribute ColorNames.inPosition
  inNormal := .attribute ColorNames.inNormal
  inTangent := .attribute ColorNames.inTangent
  inBitangent := .attribute ColorNames.inBitangent
  inTexCoord := .attribute ColorNames.inTexCoord
  inBoneIds := .attribute ColorNames.inBoneIds
  inBoneWeights := .attribute ColorNames.inBoneWeights
  viewPos := .uniform ColorNames.viewPosition
  pointLightsCount := .uniform ColorNames.pointLightsCount
  dirLightsCount := .uniform ColorNames.dirLightsCount
  shadowDiskRadiusK := .uniform ColorNames.shadowDiskRadiusK
  shadowDiskRadiusMin := .uniform ColorNames.shadowDiskRadiusMin
  shadowOpacity := .uniform ColorNames.shadowOpacity
  textureMappingSwitcher := .uniform ColorNames.switchTextureMapping
  materialAmbientTex := .uniform ColorNames.materialAmbientTex
  materialDiffuseTex := .uniform ColorNames.materialDiffuseTex
  materialSpecularTex := .uniform ColorNames.materialSpecularTex
  materialNormalTex := .uniform ColorNames.materialNormalTex
  materialReflectionStrengthTex := .uniform ColorNames.materialReflectionStrengthTex
  materialJitterTex := .uniform ColorNames.materialJitterTex
  materialAmbientColor := .uniform ColorNames.materialAmbientColor
  materialDiffuseColor := .uniform ColorNames.materialDiffuseColor
  materialSpecularColor := .uniform ColorNames.materialSpecularColor
  materialAmbientStrength := .uniform ColorNames.materialAmbientStrength
  materialDiffuseStrength := .uniform ColorNames.materialDiffuseStrength
  materialSpecularStrength := .uniform ColorNames.materialSpecularStrength
  materialShininess := .uniform ColorNames.materialShininess

def ColorTable.traverse (visit : α → m β) (table : ColorTable α) :
    m (ColorTable β) := do
  return {
    pointLights := ← table.pointLights.mapM (·.traverse visit)
    dirLights := ← table.dirLights.mapM (·.traverse visit)
    matModel := ← visit table.matModel
    matView := ← visit table.matView
    matPvm := ← visit table.matPvm
    matVm := ← visit table.matVm
    bones := ← visit table.bones
    normalMappingSwitcher := ← visit table.normalMappingSwitcher
    boneAttribsPerVertex := ← visit table.boneAttribsPerVertex
    inPosition := ← visit table.inPosition
    inNormal := ← visit table.inNormal
    inTangent := ← visit table.inTangent
    inBitangent := ← visit table.inBitangent
    inTexCoord := ← visit table.inTexCoord
    inBoneIds := ← visit table.inBoneIds
    inBoneWeights := ← visit table.inBoneWeights
    viewPos := ← visit table.viewPos
    pointLightsCount := ← visit table.pointLightsCount
    dirLightsCount := ← visit table.dirLightsCount
    shadowDiskRadiusK := ← visit table.shadowDiskRadiusK
    shadowDiskRadiusMin := ← visit table.shadowDiskRadiusMin
    shadowOpacity := ← visit table.shadowOpacity
    textureMappingSwitcher := ← visit table.textureMappingSwitcher
    materialAmbientTex := ← visit table.materialAmbientTex
    materialDiffuseTex := ← visit table.materialDiffuseTex
    materialSpecularTex := ← visit table.materialSpecularTex
    materialNormalTex := ← visit table.materialNormalTex
    materialReflectionStrengthTex := ← visit table.materialReflectionStrengthTex
    materialJitterTex := ← visit table.materialJitterTex
    materialAmbientColor := ← visit table.materialAmbientColor
    materialDiffuseColor := ← visit table.materialDiffuseColor
    materialSpecularColor := ← visit table.materialSpecularColor
    materialAmbientStrength := ← visit table.materialAmbientStrength
    materialDiffuseStrength := ← visit table.materialDiffuseStrength
    materialSpecularStrength := ← visit table.materialSpecularStrength
    materialShininess := ← visit table.materialShininess
  }

def ColorTable.entries (table : ColorTable α) : List (String × α) :=
  [("mat_model", table.matModel),
    ("mat_view", table.matView),
    ("mat_pvm", table.matPvm),
    ("mat_vm", table.matVm),
    ("bones", table.bones),
    ("normal_mapping_switcher", table.normalMappingSwitcher),
    ("bone_attribs_per_vertex", table.boneAttribsPerVertex),
    ("in_position", table.inPosition),
    ("in_normal", table.inNormal),
    ("in_tangent", table.inTangent),
    ("in_bitangent", table.inBitangent),
    ("in_tex_coord", table.inTexCoord),
    ("in_bone_ids", table.inBoneIds),
    ("in_bone_weights", table.inBoneWeights),
    ("view_pos", table.viewPos),
    ("point_lights_count", table.pointLightsCount),
    ("dir_lights_count", table.dirLightsCount),
    ("shadow_disk_radius_k", table.shadowDiskRadiusK),
    ("shadow_disk_radius_min", table.shadowDiskRadiusMin),
    ("shadow_opacity", table.shadowOpacity),
    ("texture_mapping_switcher", table.textureMappingSwitcher),
    ("material_ambient_tex", table.materialAmbientTex),
    ("material_diffuse_tex", table.materialDiffuseTex),
    ("material_specular_tex", table.materialSpecularTex),
    ("material_normal_tex", table.materialNormalTex),
    ("material_reflection_strength_tex", table.materialReflectionStrengthTex),
    ("material_jitter_tex", table.materialJitterTex),
    ("material_ambient_color", table.materialAmbientColor),
    ("material_diffuse_color", table.materialDiffuseColor),
    ("material_specular_color", table.materialSpecularColor),
    ("material_ambient_strength", table.materialAmbientStrength),
    ("material_diffuse_strength", table.materialDiffuseStrength),
    ("material_specular_strength", table.materialSpecularStrength),
    ("material_shininess", table.materialShininess)]

end ShaderFamilies
