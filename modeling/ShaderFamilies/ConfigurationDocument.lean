import ShaderFamilies.Configuration
import ShaderFamilies.DocumentRecord

/-!
# Configurations as documents

Each record of a configuration has a schema: its title, its default and its
fields in order, by the names that documents use.
-/

namespace ShaderFamilies

open Document

def FeatureFlags.schema : Schema FeatureFlags where
  title := "FeatureFlags"
  default := {}
  fields :=
    [.of "normal_mapping" (choiceCodec MappingMode) (·.normalMapping)
        fun value flags => { flags with normalMapping := value },
      .of "bone_system" (choiceCodec Switch) (·.boneSystem)
        fun value flags => { flags with boneSystem := value },
      .of "shadow_mapping" (choiceCodec ShadowMode) (·.shadowMapping)
        fun value flags => { flags with shadowMapping := value },
      .of "shadow_mapping_type" (choiceCodec ShadowLight) (·.shadowLight)
        fun value flags => { flags with shadowLight := value },
      .of "texture_mapping" (choiceCodec MappingMode) (·.textureMapping)
        fun value flags => { flags with textureMapping := value },
      .of "lighting" (choiceCodec Switch) (·.lighting)
        fun value flags => { flags with lighting := value },
      .of "attenuation" (choiceCodec Switch) (·.attenuation)
        fun value flags => { flags with attenuation := value },
      .of "ssr" (choiceCodec Switch) (·.reflections)
        fun value flags => { flags with reflections := value },
      .of "bloom" (choiceCodec Switch) (·.bloom)
        fun value flags => { flags with bloom := value },
      .of "bloom_type" (choiceCodec BloomBlend) (·.bloomBlend)
        fun value flags => { flags with bloomBlend := value }]

def ColorParameters.schema : Schema ColorParameters where
  title := "ColorShaderParams"
  default := {}
  fields :=
    [.of "max_bone_attribs_per_vertex" wordCodec (·.maxBoneAttribsPerVertex)
        fun value color => { color with maxBoneAttribsPerVertex := value },
      .of "max_bones" wordCodec (·.maxBones)
        fun value color => { color with maxBones := value },
      .of "max_point_lights" wordCodec (·.maxPointLights)
        fun value color => { color with maxPointLights := value },
      .of "max_dir_lights" wordCodec (·.maxDirLights)
        fun value color => { color with maxDirLights := value }]

def ShadowParameters.schema : Schema ShadowParameters where
  title := "ShadowShaderParams"
  default := {}
  fields :=
    [.of "max_bone_attribs_per_vertex" wordCodec (·.maxBoneAttribsPerVertex)
        fun value shadow => { shadow with maxBoneAttribsPerVertex := value },
      .of "max_bones" wordCodec (·.maxBones)
        fun value shadow => { shadow with maxBones := value }]

def DofParameters.schema : Schema DofParameters where
  title := "DofBlurShaderParams"
  default := {}
  fields :=
    [.of "algorithm" (choiceCodec DofAlgorithm) (·.algorithm)
        fun value dof => { dof with algorithm := value },
      .of "bleeding_elimination_delta_z" truthCodec (·.eliminateDeltaZ)
        fun value dof => { dof with eliminateDeltaZ := value },
      .of "bleeding_elimination_delta_coc" truthCodec (·.eliminateDeltaCoc)
        fun value dof => { dof with eliminateDeltaCoc := value },
      .of "bleeding_elimination_focus_coc" truthCodec (·.eliminateFocusCoc)
        fun value dof => { dof with eliminateFocusCoc := value },
      .of "blur_kernel_radius" wordCodec (·.kernelRadius)
        fun value dof => { dof with kernelRadius := value }]

def BlurParameters.schema : Schema BlurParameters where
  title := "BlurShaderParams"
  default := {}
  fields :=
    [.of "blur_kernel_radius" wordCodec (·.kernelRadius)
        fun value blur => { blur with kernelRadius := value },
      .of "vecout" (choiceCodec VectorType) (·.output)
        fun value blur => { blur with output := value },
      .of "tex_component" (choiceCodec Channels) (·.channels)
        fun value blur => { blur with channels := value }]

def CubemapParameters.schema : Schema CubemapParameters where
  title := "CubemapShaderParams"
  default := {}
  fields :=
    [.of "cubemap_color_out_color_component" wordCodec (·.colorComponent)
        fun value cubemap => { cubemap with colorComponent := value },
      .of "position_out_color_component" wordCodec (·.positionComponent)
        fun value cubemap => { cubemap with positionComponent := value },
      .of "vecout" (choiceCodec VectorType) (·.output)
        fun value cubemap => { cubemap with output := value },
      .of "cubemap_color_output" truthCodec (·.colorOutput)
        fun value cubemap => { cubemap with colorOutput := value },
      .of "position_output" (choiceCodec PositionOutput) (·.positionOutput)
        fun value cubemap => { cubemap with positionOutput := value }]

namespace Configuration

def schema : Schema Configuration where
  title := "ShaderConfig"
  default := {}
  fields :=
    [.of "flags" FeatureFlags.schema.codec (·.flags)
        fun value config => { config with flags := value },
      .of "color" ColorParameters.schema.codec (·.color)
        fun value config => { config with color := value },
      .of "shadow" ShadowParameters.schema.codec (·.shadow)
        fun value config => { config with shadow := value },
      .of "dof_blur" DofParameters.schema.codec (·.dofBlur)
        fun value config => { config with dofBlur := value },
      .of "blur" BlurParameters.schema.codec (·.blur)
        fun value config => { config with blur := value },
      .of "cubemap" CubemapParameters.schema.codec (·.cubemap)
        fun value config => { config with cubemap := value }]

def codec : Codec Configuration := schema.codec

def read (document : String) : Except Fault Configuration :=
  Document.read codec document

def write (config : Configuration) : String :=
  Document.write codec config

end Configuration

end ShaderFamilies
