import ShaderFamilies.Proofs.ElementNames
import ShaderFamilies.Proofs.TableFilling

/-!
# What the color pass looks up

The lookups of a color table are written out here, with the names as the templates
declare them.  Filling the table makes exactly these lookups, in this order, and no
name is among them twice, however many lights there are.
-/

namespace ShaderFamilies

variable {σ S P : Type}

/-! ## The lookups -/

/-- The uniforms of the light with an index: its fields, and its shadow map. -/
def lightUniforms (lights : String) (fields : List String) (maps : String) (index : Nat) :
    List String :=
  fields.map (fun field => lights ++ "[" ++ toString index ++ "]." ++ field) ++
    [maps ++ "[" ++ toString index ++ "]"]

def pointLightUniforms : Nat → List String :=
  lightUniforms "pointLights" ["kc", "kl", "kq", "pos", "color", "far", "bias"]
    "pointLightShadowMaps"

def dirLightUniforms : Nat → List String :=
  lightUniforms "dirLights"
    ["kc", "kl", "kq", "pos", "color", "lightMatrix", "minBias", "maxBias"]
    "dirLightShadowMaps"

/-- The entries of a color table beside the lights, with what they are looked up by. -/
def colorFields : List (String × Slot) :=
  [("mat_model", .uniform "modelMatrix"),
    ("mat_view", .uniform "viewMatrix"),
    ("mat_pvm", .uniform "MVPMatrix"),
    ("mat_vm", .uniform "MVMatrix"),
    ("bones", .uniform "bones"),
    ("normal_mapping_switcher", .uniform "normalMappingSwitcher"),
    ("bone_attribs_per_vertex", .uniform "boneAttribsPerVertex"),
    ("in_position", .attribute "inPos"),
    ("in_normal", .attribute "inNormal"),
    ("in_tangent", .attribute "inTangent"),
    ("in_bitangent", .attribute "inBitangent"),
    ("in_tex_coord", .attribute "inTexCoord"),
    ("in_bone_ids", .attribute "inBoneIds"),
    ("in_bone_weights", .attribute "inBoneWeights"),
    ("view_pos", .uniform "viewPos"),
    ("point_lights_count", .uniform "pointLightsCount"),
    ("dir_lights_count", .uniform "dirLightsCount"),
    ("shadow_disk_radius_k", .uniform "diskRadius_k"),
    ("shadow_disk_radius_min", .uniform "diskRadius_min"),
    ("shadow_opacity", .uniform "shadowOpacity"),
    ("texture_mapping_switcher", .uniform "textureMappingSwitcher"),
    ("material_ambient_tex", .uniform "material.ambient"),
    ("material_diffuse_tex", .uniform "material.diffuse"),
    ("material_specular_tex", .uniform "material.specular"),
    ("material_normal_tex", .uniform "material.normal"),
    ("material_reflection_strength_tex", .uniform "material.reflectionStrength"),
    ("material_jitter_tex", .uniform "material.jitter"),
    ("material_ambient_color", .uniform "material.cambient"),
    ("material_diffuse_color", .uniform "material.cdiffuse"),
    ("material_specular_color", .uniform "material.cspecular"),
    ("material_ambient_strength", .uniform "material.ambientStrength"),
    ("material_diffuse_strength", .uniform "material.diffuseStrength"),
    ("material_specular_strength", .uniform "material.specularStrength"),
    ("material_shininess", .uniform "material.shininess")]

/-- Everything that a color table looks up: the point lights in the order of their
indices, then the directional lights, then the rest. -/
def colorLookups (points directions : Nat) : List Slot :=
  ((List.range points).flatMap pointLightUniforms ++
      (List.range directions).flatMap dirLightUniforms).map .uniform ++
    colorFields.map (·.2)

def Slot.name : Slot → String
  | .attribute name => name
  | .uniform name => name

theorem values_slots (points directions : Nat) :
    (ColorTable.slots points directions).values = colorLookups points directions := by
  unfold colorLookups ColorTable.values
  rw [List.map_append, List.map_flatMap, List.map_flatMap, List.append_assoc]
  congr 1
  · exact List.flatMap_map ..
  · congr 1
    exact List.flatMap_map ..

theorem length_colorLookups (points directions : Nat) :
    (colorLookups points directions).length = 34 + 8 * points + 9 * directions := by
  have hfields : colorFields.length = 34 := rfl
  have hpoint : ∀ index, (pointLightUniforms index).length = 8 := fun _ => rfl
  have hdirection : ∀ index, (dirLightUniforms index).length = 9 := fun _ => rfl
  simp [colorLookups, List.length_flatMap, hfields, hpoint, hdirection]
  omega

/-! ## No name twice -/

section

variable {lights maps : String} {fields : List String}

theorem isElement_of_mem_lightUniforms {index : Nat} {name : String}
    (hname : name ∈ lightUniforms lights fields maps index) :
    IsElement name lights index ∨ IsElement name maps index := by
  rcases List.mem_append.mp hname with hfield | hmap
  · rcases List.mem_map.mp hfield with ⟨field, _, rfl⟩
    exact .inl (isElement_structElement lights index field)
  · rw [List.mem_singleton.mp hmap]
    exact .inr (isElement_arrayElement maps index)

variable (hlights : '[' ∉ lights.toList) (hmaps : '[' ∉ maps.toList)
include hlights hmaps

theorem nodup_lightUniforms (hfields : fields.Nodup) (index : Nat) :
    (lightUniforms lights fields maps index).Nodup := by
  apply List.Nodup.append
  · apply hfields.map
    intro first second heq
    exact ((structElement_inj hlights hlights).mp heq).2.2
  · exact List.nodup_singleton _
  · intro name hfield hmap
    rcases List.mem_map.mp hfield with ⟨field, _, rfl⟩
    exact structElement_ne_arrayElement hlights hmaps (List.mem_singleton.mp hmap)

theorem nodup_lights (hdistinct : lights ≠ maps) (hfields : fields.Nodup) (count : Nat) :
    ((List.range count).flatMap (lightUniforms lights fields maps)).Nodup := by
  rw [List.nodup_flatMap]
  constructor
  · intro index _
    exact nodup_lightUniforms hlights hmaps hfields index
  · apply List.nodup_range.pairwise_of_forall_ne
    intro index _ number _ hne name hfirst hsecond
    -- whichever of the two arrays the name belongs to, it has one index
    rcases isElement_of_mem_lightUniforms hfirst with hfirst | hfirst <;>
      rcases isElement_of_mem_lightUniforms hsecond with hsecond | hsecond
    · exact hne (hfirst.unique hlights hlights hsecond).2
    · exact hdistinct (hfirst.unique hlights hmaps hsecond).1
    · exact hdistinct (hfirst.unique hmaps hlights hsecond).1.symm
    · exact hne (hfirst.unique hmaps hmaps hsecond).2

end

theorem nodup_elements (points directions : Nat) :
    ((List.range points).flatMap pointLightUniforms ++
      (List.range directions).flatMap dirLightUniforms).Nodup := by
  apply List.Nodup.append
  · exact nodup_lights (by decide) (by decide) (by decide) (by decide) points
  · exact nodup_lights (by decide) (by decide) (by decide) (by decide) directions
  · intro name hpoint hdirection
    rcases List.mem_flatMap.mp hpoint with ⟨index, _, hpoint⟩
    rcases List.mem_flatMap.mp hdirection with ⟨number, _, hdirection⟩
    -- no array of point lights is an array of directional lights
    rcases isElement_of_mem_lightUniforms hpoint with hfirst | hfirst <;>
      rcases isElement_of_mem_lightUniforms hdirection with hsecond | hsecond
    all_goals
      have heq := (hfirst.unique (by decide) (by decide) hsecond).1
      revert heq
      decide

theorem bracket_mem_of_mem_elements {points directions : Nat} {name : String}
    (hname : name ∈ (List.range points).flatMap pointLightUniforms ++
      (List.range directions).flatMap dirLightUniforms) :
    '[' ∈ name.toList := by
  rcases List.mem_append.mp hname with hlight | hlight
  all_goals
    rcases List.mem_flatMap.mp hlight with ⟨index, _, hlight⟩
    rcases isElement_of_mem_lightUniforms hlight with helement | helement
    all_goals exact helement.bracket_mem

theorem nodup_colorLookups (points directions : Nat) :
    (colorLookups points directions).Nodup := by
  apply List.Nodup.append
  · apply (nodup_elements points directions).map
    intro first second heq
    exact Slot.uniform.inj heq
  · decide +kernel
  · intro slot helement hfield
    rcases List.mem_map.mp helement with ⟨name, hname, rfl⟩
    have hplain : ∀ field ∈ colorFields, '[' ∉ field.2.name.toList := by decide +kernel
    rcases List.mem_map.mp hfield with ⟨field, hmem, heq⟩
    have hbracket := bracket_mem_of_mem_elements hname
    apply hplain field hmem
    rw [heq]
    exact hbracket

/-! ## The table -/

/-- The entry of a point light by the locations of its uniforms. -/
def pointLightEntry (answer : Slot → Location) (index : Nat) : PointLightTable Location :=
  let field name := answer (.uniform ("pointLights[" ++ toString index ++ "]." ++ name))
  { light := {
      kc := field "kc"
      kl := field "kl"
      kq := field "kq"
      pos := field "pos"
      color := field "color" }
    far := field "far"
    bias := field "bias"
    shadowMap := answer (.uniform ("pointLightShadowMaps[" ++ toString index ++ "]")) }

/-- The entry of a directional light by the locations of its uniforms. -/
def dirLightEntry (answer : Slot → Location) (index : Nat) : DirLightTable Location :=
  let field name := answer (.uniform ("dirLights[" ++ toString index ++ "]." ++ name))
  { light := {
      kc := field "kc"
      kl := field "kl"
      kq := field "kq"
      pos := field "pos"
      color := field "color" }
    lightMatrix := field "lightMatrix"
    minBias := field "minBias"
    maxBias := field "maxBias"
    shadowMap := answer (.uniform ("dirLightShadowMaps[" ++ toString index ++ "]")) }

theorem entries_map (answer : Slot → Location) (points directions : Nat) :
    ((ColorTable.slots points directions).map answer).entries =
      colorFields.map fun field => (field.1, answer field.2) :=
  rfl

/-- A color table has an entry for each light, and each entry of it holds the location
that its own lookup gave.  The lookups are as many as stated, in the stated order and
all different, so on a device that tells the names apart so do the entries. -/
theorem resolve_color (device : Device σ S P) (program : P) (points directions : Nat)
    (files : FileTree) (state : σ) :
    let resolved := observe
      (resolve device.recorded program (.color points directions)) files state
    let lookups := colorLookups points directions
    lookups.length = 34 + 8 * points + 9 * directions ∧ lookups.Nodup ∧
    ∃ table answer, resolved.result = .ok (.color table) ∧
      resolved.calls = lookups.map (fun slot => lookupCall program slot (answer slot)) ∧
      table.pointLights = (List.range points).map (pointLightEntry answer) ∧
      table.dirLights = (List.range directions).map (dirLightEntry answer) ∧
      table.entries = colorFields.map (fun field => (field.1, answer field.2)) ∧
      ((∀ first ∈ lookups, ∀ second ∈ lookups, ∀ before after,
          (device.location program first before).1 =
            (device.location program second after).1 → first = second) →
        table.values.Nodup) := by
  intro resolved lookups
  have hnodup : lookups.Nodup := nodup_colorLookups points directions
  refine ⟨length_colorLookups points directions, hnodup, ?_⟩
  let looked := device.lookups program lookups state
  have hslots : (TableKind.color points directions).lookups = lookups :=
    (ColorTable.map_snd_fields _).trans (values_slots points directions)
  have hlooked : looked.1.map (·.slot) = lookups := slots_lookups device program lookups state
  rcases Lookup.exists_answer (hlooked.symm ▸ hnodup) with ⟨answer, hagree⟩
  have hresolved := observe_resolve device program (.color points directions) files state answer
  rw [hslots] at hresolved
  specialize hresolved hagree
  refine ⟨(ColorTable.slots points directions).map answer, answer,
    congrArg Observation.result hresolved, ?_, ?_, ?_, entries_map answer points directions, ?_⟩
  · refine (congrArg Observation.calls hresolved).trans ?_
    rw [lookupCalls_of_agree program hagree, hlooked]
  · rw [ColorTable.pointLights_map]
    exact List.map_map ..
  · rw [ColorTable.dirLights_map]
    exact List.map_map ..
  · intro hapart
    rw [ColorTable.values_map, values_slots]
    apply hnodup.map_on
    have hanswer : ∀ slot ∈ lookups, ∃ before,
        (device.location program slot before).1 = answer slot := by
      intro slot hslot
      rw [← hlooked] at hslot
      rcases List.mem_map.mp hslot with ⟨lookup, hlookup, rfl⟩
      rw [hagree lookup hlookup]
      exact lookups_givenBy device program lookups state lookup hlookup
    intro first hfirst second hsecond heq
    rcases hanswer first hfirst with ⟨before, hbefore⟩
    rcases hanswer second hsecond with ⟨after, hafter⟩
    apply hapart first hfirst second hsecond before after
    rw [hbefore, hafter, heq]

/-- A device that has some slots in every program and numbers them in order. -/
def numberingDevice (slots : List Slot) : Device Unit Nat Nat where
  createStage _ := pure (.ok 1)
  compileStage _ _ := pure (.ok ())
  destroyStage _ := pure ()
  createProgram := pure (.ok 1)
  attachStage _ _ := pure ()
  linkProgram _ := pure (.ok ())
  destroyProgram _ := pure ()
  attributeLocation _ name := pure ⟨Int32.ofNat (slots.idxOf (.attribute name))⟩
  uniformLocation _ name := pure ⟨Int32.ofNat (slots.idxOf (.uniform name))⟩

theorem location_numberingDevice (slots : List Slot) (program : Nat) (slot : Slot)
    (state : Unit) :
    ((numberingDevice slots).location program slot state).1 =
      ⟨Int32.ofNat (slots.idxOf slot)⟩ := by
  cases slot <;> rfl

theorem numberingDevice_apart {slots : List Slot} (hfew : slots.length < 2147483648)
    (program : Nat) :
    ∀ first ∈ slots, ∀ second ∈ slots, ∀ before after,
      ((numberingDevice slots).location program first before).1 =
        ((numberingDevice slots).location program second after).1 → first = second := by
  intro first hfirst second hsecond before after heq
  rw [location_numberingDevice, location_numberingDevice] at heq
  have hraw := congrArg (fun location => location.raw.toInt) heq
  have hbefore := List.idxOf_lt_length_of_mem hfirst
  have hafter := List.idxOf_lt_length_of_mem hsecond
  simp only at hraw
  rw [Int32.toInt_ofNat_of_lt (hbefore.trans hfew),
    Int32.toInt_ofNat_of_lt (hafter.trans hfew)] at hraw
  exact (List.idxOf_inj hfirst).mp (Int.ofNat.inj hraw)

theorem resolve_color_two_points_one_direction :
    let slots := colorLookups 2 1
    let resolved := observe
      (resolve (numberingDevice slots).recorded 1 (.color 2 1)) {} ()
    slots.length = 59 ∧ ∃ table : ColorTable Location,
      resolved.result = .ok (.color table) ∧ resolved.calls.length = 59 ∧
      table.pointLights.length = 2 ∧ table.dirLights.length = 1 ∧ table.values.Nodup := by
  intro slots resolved
  rcases resolve_color (numberingDevice slots) 1 2 1 {} () with
    ⟨hlength, _, table, answer, hresult, hcalls, hpoints, hdirections, _, hapart⟩
  refine ⟨hlength, table, hresult, ?_, ?_, ?_, ?_⟩
  · rw [hcalls, List.length_map]
    exact hlength
  · rw [hpoints]
    rfl
  · rw [hdirections]
    rfl
  · apply hapart
    exact numberingDevice_apart (by rw [hlength]; decide) 1

end ShaderFamilies
