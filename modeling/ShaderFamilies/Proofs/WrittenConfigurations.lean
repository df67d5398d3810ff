import ShaderFamilies.Proofs.PartialConfigurations

/-!
# Written configurations come back

The document of a configuration has all sections and all their fields, each with
a value that stands for that of the configuration.
-/

namespace ShaderFamilies

open Document

namespace Document

variable {ρ : Type}

/-! ## Written sections -/

def Schema.members (record : ρ) (fields : List (Field ρ)) : List (String × Tree) :=
  fields.map fun field => (field.name, field.tree record)

theorem PlainFields.shows {fields : List (Field ρ)} (plain : PlainFields fields) (record : ρ) :
    Paired Tree.ShowsPlain (Schema.members record fields) (plain.members record) := by
  induction plain with
  | nil => exact .nil
  | cons others get_set unescaped ih => exact .cons unescaped (Codec.ShowsPlain.shows _) ih

theorem distinct_of_nodup {β γ : Type} {known : List (String × β)}
    {members : List (String × γ)} (hnodup : (members.map (·.1)).Nodup) :
    distinct known members = true :=
  decide_eq_true (hnodup.filter _)

namespace Section

variable {schema : Schema ρ} {plain : PlainFields schema.fields} {kinds : Kinds}
  {described : List (String × Plain) → ρ} (hsection : Section plain kinds described)
  (record : ρ)

include hsection

theorem admits_members : kinds.admits (plain.members record) = true := by
  rw [Kinds.admits_iff]
  intro member hmember kind hkind
  obtain ⟨field, hmem, rfl⟩ := List.mem_map.mp hmember
  rw [PlainField.member, hsection.lookup_kinds hmem, Option.some.injEq] at hkind
  rw [← hkind]
  exact isOf_plain (field.get record)

theorem distinct_members : distinct kinds (plain.members record) = true := by
  apply distinct_of_nodup
  rw [PlainFields.members, List.map_map]
  exact hsection.nodup_names

theorem described_members : described (plain.members record) = record := by
  apply hsection.ext
  intro field hmem
  rw [hsection.get_described hmem]
  have hlookup := lookup_map_of_mem (fun field => ToPlain.plain (field.get record))
    hsection.nodup_names hmem
  exact given_of_lookup hlookup (ToPlain.value?_plain _) _

end Section

end Document

namespace Configuration

def members (config : Configuration) : List (String × Value) :=
  [("flags", .record (FeatureFlags.plainFields.members config.flags)),
    ("color", .record (ColorParameters.plainFields.members config.color)),
    ("shadow", .record (ShadowParameters.plainFields.members config.shadow)),
    ("dof_blur", .record (DofParameters.plainFields.members config.dofBlur)),
    ("blur", .record (BlurParameters.plainFields.members config.blur)),
    ("cubemap", .record (CubemapParameters.plainFields.members config.cubemap))]

variable (config : Configuration)

/-- The members of a configuration describe it. -/
theorem described_members : described config.members = config := by
  simp [described, members, membersOf, List.lookup_cons,
    FeatureFlags.isSection.described_members, ColorParameters.isSection.described_members,
    ShadowParameters.isSection.described_members, DofParameters.isSection.described_members,
    BlurParameters.isSection.described_members, CubemapParameters.isSection.described_members]

theorem admits_members : admits config.members = true := by
  simp [admits, admitsMember, members, sections, List.lookup_cons,
    FeatureFlags.isSection.admits_members, ColorParameters.isSection.admits_members,
    ShadowParameters.isSection.admits_members, DofParameters.isSection.admits_members,
    BlurParameters.isSection.admits_members, CubemapParameters.isSection.admits_members]

theorem distinct_members : distinct config.members = true := by
  have hsections : Document.distinct sections config.members = true :=
    distinct_of_nodup (by simp [members])
  rw [distinct, hsections, Bool.true_and]
  simp [distinctMember, members, sections, List.lookup_cons,
    FeatureFlags.isSection.distinct_members, ColorParameters.isSection.distinct_members,
    ShadowParameters.isSection.distinct_members, DofParameters.isSection.distinct_members,
    BlurParameters.isSection.distinct_members, CubemapParameters.isSection.distinct_members]

theorem write_documentText : DocumentText config.members config.write := by
  have hpaired : Paired Tree.Shows (Schema.members config schema.fields) config.members :=
    .cons (by decide) (.record (FeatureFlags.plainFields.shows config.flags))
      (.cons (by decide) (.record (ColorParameters.plainFields.shows config.color))
      (.cons (by decide) (.record (ShadowParameters.plainFields.shows config.shadow))
      (.cons (by decide) (.record (DofParameters.plainFields.shows config.dofBlur))
      (.cons (by decide) (.record (BlurParameters.plainFields.shows config.blur))
      (.cons (by decide) (.record (CubemapParameters.plainFields.shows config.cubemap))
      .nil)))))
  exact hpaired.documentText

/-- Every configuration is read back from its document. -/
theorem ofDocument_write : ofDocument config.write = .ok config := by
  have hread := read_eq_described config.write_documentText config.admits_members
    config.distinct_members
  rw [ofDocument, hread, described_members]
  rfl

end Configuration

end ShaderFamilies
