import ShaderFamilies.ConfigurationDocument
import ShaderFamilies.Proofs.ObjectReading
import ShaderFamilies.Proofs.PlainFields
import ShaderFamilies.ShaderError

/-!
# Sections and their members

The object of a section gives values to some fields, by their names and in any
order.  It is read as the record with these values and with those of the default
record in all other fields.  With a known field twice it is not read.
-/

namespace ShaderFamilies

open Document

/-! ## Described records -/

/-- The kinds of values that the fields of a section have, by the names of the
fields. -/
abbrev Kinds : Type :=
  List (String × (Plain → Bool))

/-- Whether all known fields have values of their kinds. -/
def Kinds.admits (kinds : Kinds) (members : List (String × Plain)) : Bool :=
  members.all fun member => ((kinds.lookup member.1).map fun kind => kind member.2).getD true

/-- Whether no known name stands twice among the members. -/
def Document.distinct {α β : Type} (known : List (String × α)) (members : List (String × β)) :
    Bool :=
  decide ((members.map (·.1)).filter fun name => (known.lookup name).isSome).Nodup

section

variable {ρ α : Type} {schema : Schema ρ} {kinds : Kinds}
  {described : List (String × Plain) → ρ}

/-- A value of its kind is read as a change of a record that adds the member to
the description. -/
def Document.Field.Describes (field : Document.Field ρ) (kinds : Kinds)
    (described : List (String × Plain) → ρ) : Prop :=
  ∀ plain text, PlainText plain text →
    (∀ kind, kinds.lookup field.name = some kind → kind plain = true) →
    ∃ change, field.reader.Takes text change ∧
      ∀ done : List (String × Plain), field.name ∉ done.map (·.1) →
        change (described done) = described (done ++ [(field.name, plain)])

theorem Document.Field.describes_of [FromPlain α] {name : String} {codec : Codec α}
    [codec.ReadsPlain] {get : ρ → α} {set : α → ρ → ρ}
    (hkind : kinds.lookup name = some (isOf α))
    (hset : ∀ plain value done, FromPlain.value? plain = some value →
      name ∉ (done : List (String × Plain)).map (·.1) →
        set value (described done) = described (done ++ [(name, plain)])) :
    (Field.of name codec get set).Describes kinds described := by
  intro plain text htext htyped
  obtain ⟨value, hvalue⟩ := Option.isSome_iff_exists.mp (htyped _ hkind)
  exact ⟨set value, (Codec.ReadsPlain.takes plain value text hvalue htext).map set,
    fun done => hset plain value done hvalue⟩

/-- The records of the schema are described by the members of their objects. -/
structure Document.Schema.DescribedBy (schema : Schema ρ) (kinds : Kinds)
    (described : List (String × Plain) → ρ) : Prop where
  default : described [] = schema.default
  names : schema.fields.map (·.name) = kinds.map (·.1)
  fields : ∀ field ∈ schema.fields, field.Describes kinds described
  others : ∀ name plain done, (∀ field ∈ schema.fields, name ≠ field.name) →
    described (done ++ [(name, plain)]) = described done

/-! ## Reading a section -/

theorem Kinds.admits_iff {members : List (String × Plain)} :
    kinds.admits members = true ↔
      ∀ member ∈ members, ∀ kind, kinds.lookup member.1 = some kind →
        kind member.2 = true := by
  rw [Kinds.admits, List.all_eq_true]
  refine forall₂_congr fun member _ => ?_
  cases kinds.lookup member.1 with
  | none => simp
  | some kind => simp

theorem Document.Schema.field?_isSome {β : Type} {known : List (String × β)}
    (hnames : schema.fields.map (·.name) = known.map (·.1)) (name : String) :
    (schema.field? name).isSome = (known.lookup name).isSome := by
  rw [lookup_isSome, ← hnames, Bool.eq_iff_iff]
  simp [Schema.field?]

theorem Document.distinct_eq {β γ : Type} {known : List (String × β)}
    (hnames : schema.fields.map (·.name) = known.map (·.1)) (members : List (String × γ)) :
    distinct known members = decide (schema.known members).Nodup := by
  unfold distinct Schema.known
  simp only [Schema.field?_isSome hnames]

theorem Document.Schema.DescribedBy.takes (hschema : schema.DescribedBy kinds described)
    {member : String × Plain} {text : Bytes} (htext : PlainText member.2 text)
    (hkind : ∀ kind, kinds.lookup member.1 = some kind → kind member.2 = true) :
    schema.Takes described member text := by
  unfold Schema.Takes
  cases hfield : schema.field? member.1 with
  | none =>
      exact ⟨htext.skips,
        fun done => hschema.others member.1 member.2 done (Schema.field?_eq_none hfield)⟩
  | some field =>
      obtain ⟨hmem, hname⟩ := Schema.field?_eq_some hfield
      obtain ⟨name, plain⟩ := member
      cases hname
      exact hschema.fields field hmem plain text htext hkind

/-- The object of a section without repeated fields is read as the record that its
members describe. -/
theorem Document.Schema.DescribedBy.takes_object (hschema : schema.DescribedBy kinds described)
    {members : List (String × Plain)} {text : Bytes}
    (hobject : ObjectText PlainText members text) (hadmits : kinds.admits members = true)
    (hdistinct : distinct kinds members = true) :
    schema.codec.reader.Takes text (described members) := by
  rw [distinct_eq hschema.names, decide_eq_true_eq] at hdistinct
  refine hobject.takes hschema.default ?_ hdistinct
  intro member hmem value hvalue
  exact hschema.takes hvalue (Kinds.admits_iff.mp hadmits member hmem)

/-- With a repeated field the object of a section is not read. -/
theorem Document.Schema.DescribedBy.refuses_object
    (hschema : schema.DescribedBy kinds described)
    {members : List (String × Plain)} {text : Bytes}
    (hobject : ObjectText PlainText members text) (hadmits : kinds.admits members = true)
    (hrepeated : distinct kinds members = false) :
    schema.codec.reader.Refuses text := by
  rw [distinct_eq hschema.names, decide_eq_false_iff_not] at hrepeated
  refine hobject.refuses hschema.default ?_ (Or.inl hrepeated)
  intro member hmem value hvalue
  exact Or.inl (hschema.takes hvalue (Kinds.admits_iff.mp hadmits member hmem))

end

/-! ## Records of plain values -/

/-- The kinds and the description of a section belong to the fields of its schema,
and its records have nothing beside these fields. -/
structure Document.Section {ρ : Type} {schema : Schema ρ} (plain : PlainFields schema.fields)
    (kinds : Kinds) (described : List (String × Plain) → ρ) : Prop where
  kinds_eq : kinds = plain.list.map fun field => (field.name, isOf field.Value) := by rfl
  described_eq : ∀ members, described members =
    build plain.list (fun field => field.given members schema.default) schema.default := by
      intro members
      rfl
  complete : ∀ record, build plain.list (fun field => field.get record) schema.default =
    record := by
      intro record
      rfl
  apart : plain.list.Pairwise PlainField.Apart

namespace Document.Section

variable {ρ : Type} {schema : Schema ρ} {plain : PlainFields schema.fields} {kinds : Kinds}
  {described : List (String × Plain) → ρ} (hsection : Section plain kinds described)

include hsection

theorem nodup_names : (plain.list.map (·.name)).Nodup := by
  rw [List.Nodup, List.pairwise_map]
  exact hsection.apart.imp fun hapart => hapart.1

theorem lookup_kinds {field : PlainField ρ} (hmem : field ∈ plain.list) :
    kinds.lookup field.name = some (isOf field.Value) := by
  rw [hsection.kinds_eq]
  exact lookup_map_of_mem (fun field : PlainField ρ => isOf field.Value) hsection.nodup_names hmem

/-- A record is known by the values of its fields. -/
theorem ext {record other : ρ}
    (hfields : ∀ field ∈ plain.list, field.get record = field.get other) : record = other := by
  rw [← hsection.complete record, build_congr hfields, hsection.complete]

theorem get_described {field : PlainField ρ} (hmem : field ∈ plain.list)
    (members : List (String × Plain)) :
    field.get (described members) = field.given members schema.default := by
  rw [hsection.described_eq, get_build hsection.apart hmem]

/-- A member of another name changes nothing. -/
theorem described_append_of_ne {name : String}
    (hne : ∀ field ∈ plain.list, name ≠ field.name) (done : List (String × Plain))
    (value : Plain) : described (done ++ [(name, value)]) = described done := by
  apply hsection.ext
  intro field hmem
  rw [hsection.get_described hmem, hsection.get_described hmem]
  exact given_append_of_ne (hne field hmem) done value _

/-- To set a field in what was described so far is to describe one member more. -/
theorem set_described {field : PlainField ρ} (hmem : field ∈ plain.list) {value : Plain}
    {content : field.Value} (hvalue : FromPlain.value? value = some content)
    {done : List (String × Plain)} (hnew : field.name ∉ done.map (·.1)) :
    field.set content (described done) = described (done ++ [(field.name, value)]) := by
  -- the field itself has its new value, and the others do not see it
  apply hsection.ext
  intro other hother
  rw [hsection.get_described hother]
  by_cases hsame : other = field
  · subst hsame
    rw [other.get_set]
    exact (given_append_of_not_mem hnew hvalue _).symm
  · have hapart : other.Apart field := hsection.apart.forall hother hmem hsame
    rw [hapart.2.1, hsection.get_described hother]
    exact (given_append_of_ne hapart.1.symm done value _).symm

theorem describedBy : schema.DescribedBy kinds described where
  default := by
    apply hsection.ext
    intro field hmem
    rw [hsection.get_described hmem]
    rfl
  names := by
    rw [← plain.map_field, hsection.kinds_eq, List.map_map, List.map_map]
    rfl
  fields := by
    rw [← plain.map_field]
    intro _ hfield
    obtain ⟨field, hmem, rfl⟩ := List.mem_map.mp hfield
    apply Field.describes_of (hsection.lookup_kinds hmem)
    intro value content done hvalue hnew
    exact hsection.set_described hmem hvalue hnew
  others := by
    intro name value done hne
    rw [← plain.map_field] at hne
    exact hsection.described_append_of_ne (fun field hmem => hne _ (List.mem_map_of_mem hmem))
      done value

end Document.Section

/-! ## The sections -/

namespace FeatureFlags

def kinds : Kinds :=
  [("normal_mapping", isOf MappingMode), ("bone_system", isOf Switch),
    ("shadow_mapping", isOf ShadowMode), ("shadow_mapping_type", isOf ShadowLight),
    ("texture_mapping", isOf MappingMode), ("lighting", isOf Switch),
    ("attenuation", isOf Switch), ("ssr", isOf Switch), ("bloom", isOf Switch),
    ("bloom_type", isOf BloomBlend)]

def described (members : List (String × Plain)) : FeatureFlags :=
  let base : FeatureFlags := {}
  { normalMapping := given "normal_mapping" members base.normalMapping
    boneSystem := given "bone_system" members base.boneSystem
    shadowMapping := given "shadow_mapping" members base.shadowMapping
    shadowLight := given "shadow_mapping_type" members base.shadowLight
    textureMapping := given "texture_mapping" members base.textureMapping
    lighting := given "lighting" members base.lighting
    attenuation := given "attenuation" members base.attenuation
    reflections := given "ssr" members base.reflections
    bloom := given "bloom" members base.bloom
    bloomBlend := given "bloom_type" members base.bloomBlend }

def plainFields : PlainFields schema.fields :=
  .cons <| .cons <| .cons <| .cons <| .cons <| .cons <| .cons <| .cons <| .cons <| .cons .nil

theorem isSection : Section plainFields kinds described where
  apart := by
    simp [plainFields, PlainFields.list, PlainField.Apart]

end FeatureFlags

namespace ColorParameters

def kinds : Kinds :=
  [("max_bone_attribs_per_vertex", isOf UInt32),
    ("max_bones", isOf UInt32),
    ("max_point_lights", isOf UInt32),
    ("max_dir_lights", isOf UInt32)]

def described (members : List (String × Plain)) : ColorParameters :=
  let base : ColorParameters := {}
  { maxBoneAttribsPerVertex :=
      given "max_bone_attribs_per_vertex" members base.maxBoneAttribsPerVertex
    maxBones := given "max_bones" members base.maxBones
    maxPointLights := given "max_point_lights" members base.maxPointLights
    maxDirLights := given "max_dir_lights" members base.maxDirLights }

def plainFields : PlainFields schema.fields :=
  .cons <| .cons <| .cons <| .cons .nil

theorem isSection : Section plainFields kinds described where
  apart := by
    simp [plainFields, PlainFields.list, PlainField.Apart]

end ColorParameters

namespace ShadowParameters

def kinds : Kinds :=
  [("max_bone_attribs_per_vertex", isOf UInt32),
    ("max_bones", isOf UInt32)]

def described (members : List (String × Plain)) : ShadowParameters :=
  let base : ShadowParameters := {}
  { maxBoneAttribsPerVertex :=
      given "max_bone_attribs_per_vertex" members base.maxBoneAttribsPerVertex
    maxBones := given "max_bones" members base.maxBones }

def plainFields : PlainFields schema.fields :=
  .cons <| .cons .nil

theorem isSection : Section plainFields kinds described where
  apart := by
    simp [plainFields, PlainFields.list, PlainField.Apart]

end ShadowParameters

namespace DofParameters

def kinds : Kinds :=
  [("algorithm", isOf DofAlgorithm),
    ("bleeding_elimination_delta_z", isOf Bool),
    ("bleeding_elimination_delta_coc", isOf Bool),
    ("bleeding_elimination_focus_coc", isOf Bool),
    ("blur_kernel_radius", isOf UInt32)]

def described (members : List (String × Plain)) : DofParameters :=
  let base : DofParameters := {}
  { algorithm := given "algorithm" members base.algorithm
    eliminateDeltaZ := given "bleeding_elimination_delta_z" members base.eliminateDeltaZ
    eliminateDeltaCoc := given "bleeding_elimination_delta_coc" members base.eliminateDeltaCoc
    eliminateFocusCoc := given "bleeding_elimination_focus_coc" members base.eliminateFocusCoc
    kernelRadius := given "blur_kernel_radius" members base.kernelRadius }

def plainFields : PlainFields schema.fields :=
  .cons <| .cons <| .cons <| .cons <| .cons .nil

theorem isSection : Section plainFields kinds described where
  apart := by
    simp [plainFields, PlainFields.list, PlainField.Apart]

end DofParameters

namespace BlurParameters

def kinds : Kinds :=
  [("blur_kernel_radius", isOf UInt32),
    ("vecout", isOf VectorType),
    ("tex_component", isOf Channels)]

def described (members : List (String × Plain)) : BlurParameters :=
  let base : BlurParameters := {}
  { kernelRadius := given "blur_kernel_radius" members base.kernelRadius
    output := given "vecout" members base.output
    channels := given "tex_component" members base.channels }

def plainFields : PlainFields schema.fields :=
  .cons <| .cons <| .cons .nil

theorem isSection : Section plainFields kinds described where
  apart := by
    simp [plainFields, PlainFields.list, PlainField.Apart]

end BlurParameters

namespace CubemapParameters

def kinds : Kinds :=
  [("cubemap_color_out_color_component", isOf UInt32),
    ("position_out_color_component", isOf UInt32),
    ("vecout", isOf VectorType),
    ("cubemap_color_output", isOf Bool),
    ("position_output", isOf PositionOutput)]

def described (members : List (String × Plain)) : CubemapParameters :=
  let base : CubemapParameters := {}
  { colorComponent := given "cubemap_color_out_color_component" members base.colorComponent
    positionComponent := given "position_out_color_component" members base.positionComponent
    output := given "vecout" members base.output
    colorOutput := given "cubemap_color_output" members base.colorOutput
    positionOutput := given "position_output" members base.positionOutput }

def plainFields : PlainFields schema.fields :=
  .cons <| .cons <| .cons <| .cons <| .cons .nil

theorem isSection : Section plainFields kinds described where
  apart := by
    simp [plainFields, PlainFields.list, PlainField.Apart]

end CubemapParameters

end ShaderFamilies
