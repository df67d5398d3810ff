import ShaderFamilies.FeatureOptions

/-!
# The configuration of a pipeline

Feature flags hold for the whole pipeline, parameters for one family each.
Validation refuses the combinations that the templates cannot handle and
reports the first of them.
-/

namespace ShaderFamilies

structure FeatureFlags where
  normalMapping : MappingMode := .disabled
  boneSystem : Switch := .disabled
  shadowMapping : ShadowMode := .disabled
  shadowLight : ShadowLight := .point
  textureMapping : MappingMode := .disabled
  lighting : Switch := .enabled
  attenuation : Switch := .disabled
  reflections : Switch := .disabled
  bloom : Switch := .disabled
  bloomBlend : BloomBlend := .add
  deriving DecidableEq

structure ColorParameters where
  maxBoneAttribsPerVertex : UInt32 := 4
  maxBones : UInt32 := 64
  maxPointLights : UInt32 := 8
  maxDirLights : UInt32 := 8
  deriving DecidableEq

structure ShadowParameters where
  maxBoneAttribsPerVertex : UInt32 := 4
  maxBones : UInt32 := 64
  deriving DecidableEq

structure DofParameters where
  algorithm : DofAlgorithm := .linear
  eliminateDeltaZ : Bool := false
  eliminateDeltaCoc : Bool := false
  eliminateFocusCoc : Bool := false
  kernelRadius : UInt32 := 4
  deriving DecidableEq

structure BlurParameters where
  kernelRadius : UInt32 := 4
  output : VectorType := .vec3
  channels : Channels := .rgb
  deriving DecidableEq

structure CubemapParameters where
  colorComponent : UInt32 := 0
  positionComponent : UInt32 := 1
  output : VectorType := .vec3
  colorOutput : Bool := true
  positionOutput : PositionOutput := .none
  deriving DecidableEq

structure Configuration where
  flags : FeatureFlags := {}
  color : ColorParameters := {}
  shadow : ShadowParameters := {}
  dofBlur : DofParameters := {}
  blur : BlurParameters := {}
  cubemap : CubemapParameters := {}
  deriving DecidableEq

/-- Combinations of parameters that the templates cannot handle. -/
inductive ConfigurationFault
  | dofKernelEmpty
  | blurKernelEmpty
  | colorBonesEmpty
  | shadowBonesEmpty
  | outputsShared (component : UInt32)
  deriving DecidableEq

def ConfigurationFault.message : ConfigurationFault → String
  | .dofKernelEmpty => "dof_blur.blur_kernel_radius must be at least 1"
  | .blurKernelEmpty => "blur.blur_kernel_radius must be at least 1"
  | .colorBonesEmpty =>
      "color.max_bone_attribs_per_vertex must be at least 1 with the bone system enabled"
  | .shadowBonesEmpty =>
      "shadow.max_bone_attribs_per_vertex must be at least 1 with the bone system enabled"
  | .outputsShared component =>
      "cubemap color and position outputs share output component " ++
        toString component.toNat

namespace Configuration

/-- Each fault beside the condition under which it holds, most urgent first. -/
def checks (config : Configuration) : List (Bool × ConfigurationFault) :=
  let bones := config.flags.boneSystem == .enabled
  let cubemap := config.cubemap
  [(config.dofBlur.kernelRadius == 0, .dofKernelEmpty),
    (config.blur.kernelRadius == 0, .blurKernelEmpty),
    (bones && config.color.maxBoneAttribsPerVertex == 0, .colorBonesEmpty),
    (bones && config.shadow.maxBoneAttribsPerVertex == 0, .shadowBonesEmpty),
    (cubemap.colorOutput && cubemap.positionOutput != .none &&
        cubemap.colorComponent == cubemap.positionComponent,
      .outputsShared cubemap.positionComponent)]

def fault? (config : Configuration) : Option ConfigurationFault :=
  (config.checks.find? (·.1)).map (·.2)

end Configuration

end ShaderFamilies
