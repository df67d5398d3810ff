import ShaderFamilies.Proofs.DescribedSections
import ShaderFamilies.Proofs.LaidOutTrees

/-!
# Partial configurations

A document has any of the sections in any order, with unknown members between
them.  It is read as the configuration with the values that the sections give,
and with those of the default configuration in all other fields.
-/

namespace ShaderFamilies

open Document

/-! ## What the members of a document give -/

/-- The members of a section; none where the document does not have it. -/
def Document.membersOf (name : String) (members : List (String × Value)) :
    List (String × Plain) :=
  match members.lookup name with
  | some (.record values) => values
  | _ => []

namespace Configuration

def sections : List (String × Kinds) :=
  [("flags", FeatureFlags.kinds), ("color", ColorParameters.kinds),
    ("shadow", ShadowParameters.kinds), ("dof_blur", DofParameters.kinds),
    ("blur", BlurParameters.kinds), ("cubemap", CubemapParameters.kinds)]

/-- Each section from its members, whatever stands beside it. -/
def described (members : List (String × Value)) : Configuration where
  flags := FeatureFlags.described (membersOf "flags" members)
  color := ColorParameters.described (membersOf "color" members)
  shadow := ShadowParameters.described (membersOf "shadow" members)
  dofBlur := DofParameters.described (membersOf "dof_blur" members)
  blur := BlurParameters.described (membersOf "blur" members)
  cubemap := CubemapParameters.described (membersOf "cubemap" members)

/-- Whether a known section is an object whose known fields have values of their
kinds, and an unknown member is plain. -/
def admitsMember (member : String × Value) : Bool :=
  match sections.lookup member.1, member.2 with
  | some kinds, .record values => kinds.admits values
  | some _, .plain _ => false
  | none, .plain _ => true
  | none, .record _ => false

def admits (members : List (String × Value)) : Bool :=
  members.all admitsMember

/-- Whether no known field stands twice in a known section. -/
def distinctMember (member : String × Value) : Bool :=
  match sections.lookup member.1, member.2 with
  | some kinds, .record values => Document.distinct kinds values
  | _, _ => true

/-- Whether no known section and no known field of one stands twice. -/
def distinct (members : List (String × Value)) : Bool :=
  Document.distinct sections members && members.all distinctMember

end Configuration

/-! ## Members between others -/

theorem Document.membersOf_append_of_ne {name other : String} (hne : other ≠ name)
    (members : List (String × Value)) (value : Value) :
    membersOf name (members ++ [(other, value)]) = membersOf name members := by
  have hother : (name == other) = false := by
    simpa using hne.symm
  simp [membersOf, List.lookup_append, List.lookup_cons, hother]

theorem Document.membersOf_append_of_not_mem {name : String} {members : List (String × Value)}
    (hnew : name ∉ members.map (·.1)) (given : List (String × Plain)) :
    membersOf name (members ++ [(name, .record given)]) = given := by
  simp [membersOf, List.lookup_append, lookup_eq_none hnew]

namespace Configuration

/-! ## The fields of a configuration -/

/-- The field holds a known section.  An object with members of their kinds is read
as a change that adds the section to the description, unless a field stands twice
in it. -/
def HoldsSection (field : Document.Field Configuration) : Prop :=
  ∃ kinds, sections.lookup field.name = some kinds ∧
    ∀ values text, ObjectText PlainText values text → kinds.admits values = true →
      (Document.distinct kinds values = true →
        ∃ change, field.reader.Takes text change ∧
          ∀ done : List (String × Value), field.name ∉ done.map (·.1) →
            change (described done) = described (done ++ [(field.name, .record values)])) ∧
      (Document.distinct kinds values = false → field.reader.Refuses text)

theorem holdsSection_of {ρ : Type} {name : String} {schema : Schema ρ} {kinds : Kinds}
    {describe : List (String × Plain) → ρ} {get : Configuration → ρ}
    {set : ρ → Configuration → Configuration}
    (hschema : schema.DescribedBy kinds describe)
    (hkinds : sections.lookup name = some kinds)
    (hset : ∀ values done, name ∉ (done : List (String × Value)).map (·.1) →
      set (describe values) (described done) = described (done ++ [(name, .record values)])) :
    HoldsSection (Field.of name schema.codec get set) := by
  refine ⟨kinds, hkinds, fun values text hobject hadmits => ⟨fun hdistinct => ?_, ?_⟩⟩
  · exact ⟨set (describe values), (hschema.takes_object hobject hadmits hdistinct).map set,
      hset values⟩
  · intro hrepeated
    exact (hschema.refuses_object hobject hadmits hrepeated).map set

theorem fields_holdSections : ∀ field ∈ schema.fields, HoldsSection field := by
  simp only [schema, List.forall_mem_cons, List.not_mem_nil, false_implies, implies_true,
    and_true]
  refine ⟨holdsSection_of FeatureFlags.isSection.describedBy rfl ?_,
    holdsSection_of ColorParameters.isSection.describedBy rfl ?_,
    holdsSection_of ShadowParameters.isSection.describedBy rfl ?_,
    holdsSection_of DofParameters.isSection.describedBy rfl ?_,
    holdsSection_of BlurParameters.isSection.describedBy rfl ?_,
    holdsSection_of CubemapParameters.isSection.describedBy rfl ?_⟩
  all_goals
    intro values done hnew
    simp [described, membersOf_append_of_ne, membersOf_append_of_not_mem hnew]

theorem schema_names : schema.fields.map (·.name) = sections.map (·.1) :=
  rfl

theorem described_nil : described [] = schema.default :=
  rfl

theorem described_others {name : String} (hunknown : ∀ field ∈ schema.fields, name ≠ field.name)
    (done : List (String × Value)) (value : Value) :
    described (done ++ [(name, value)]) = described done := by
  simp only [schema, List.forall_mem_cons, Field.of] at hunknown
  simp [described, membersOf_append_of_ne, hunknown]

/-! ## Members of a document -/

section

variable {member : String × Value} {text : Bytes}

theorem exists_record_of_admitsMember (hadmits : admitsMember member = true) {kinds : Kinds}
    (hkinds : sections.lookup member.1 = some kinds) :
    ∃ values, member.2 = .record values ∧ kinds.admits values = true := by
  obtain ⟨name, value⟩ := member
  cases value with
  | plain => simp [admitsMember, hkinds] at hadmits
  | record values =>
      simp only [admitsMember, hkinds] at hadmits
      exact ⟨values, rfl, hadmits⟩

theorem exists_plain_of_admitsMember (hadmits : admitsMember member = true)
    (hunknown : sections.lookup member.1 = none) : ∃ plain, member.2 = .plain plain := by
  obtain ⟨name, value⟩ := member
  cases value with
  | plain value => exact ⟨value, rfl⟩
  | record => simp [admitsMember, hunknown] at hadmits

theorem lookup_sections_eq_none {name : String} (hfield : schema.field? name = none) :
    sections.lookup name = none := by
  rw [← Option.isNone_iff_eq_none, ← Option.not_isSome, ← Schema.field?_isSome schema_names,
    hfield]
  rfl

/-- A known section is read by its field, or refused if one of its own fields stands
twice. -/
theorem known_member {field : Document.Field Configuration} (htext : ValueText member.2 text)
    (hadmits : admitsMember member = true) (hfield : schema.field? member.1 = some field) :
    (distinctMember member = true →
      ∃ change, field.reader.Takes text change ∧
        ∀ done : List (String × Value), member.1 ∉ done.map (·.1) →
          change (described done) = described (done ++ [member])) ∧
    (distinctMember member = false → field.reader.Refuses text) := by
  obtain ⟨hmem, hname⟩ := Schema.field?_eq_some hfield
  obtain ⟨kinds, hkinds, hreads⟩ := fields_holdSections field hmem
  rw [hname] at hkinds hreads
  obtain ⟨values, hvalues, hkind⟩ := exists_record_of_admitsMember hadmits hkinds
  obtain ⟨name, value⟩ := member
  cases hvalues
  have hdistinct : distinctMember (name, .record values) = Document.distinct kinds values := by
    simp only [distinctMember, hkinds]
  rw [hdistinct]
  cases htext with
  | record hobject => exact hreads values text hobject hkind

theorem takes_member (htext : ValueText member.2 text) (hadmits : admitsMember member = true)
    (hdistinct : distinctMember member = true) : schema.Takes described member text := by
  unfold Schema.Takes
  cases hfield : schema.field? member.1 with
  | none =>
      obtain ⟨plain, hplain⟩ :=
        exists_plain_of_admitsMember hadmits (lookup_sections_eq_none hfield)
      rw [hplain] at htext
      cases htext with
      | plain htext =>
          exact ⟨htext.skips,
            fun done => described_others (Schema.field?_eq_none hfield) done member.2⟩
  | some field => exact (known_member htext hadmits hfield).1 hdistinct

theorem refuses_member (htext : ValueText member.2 text)
    (hadmits : admitsMember member = true) (hrepeated : distinctMember member = false) :
    schema.Refuses member.1 text := by
  cases hfield : schema.field? member.1 with
  | none => simp [distinctMember, lookup_sections_eq_none hfield] at hrepeated
  | some field => exact ⟨field, hfield, (known_member htext hadmits hfield).2 hrepeated⟩

end

/-! ## Documents -/

section

variable {members : List (String × Value)} {document : String}

theorem read_eq_described (htext : DocumentText members document)
    (hadmits : admits members = true) (hdistinct : distinct members = true) :
    read document = .ok (described members) := by
  obtain ⟨before, object, after, hbefore, hobject, hafter, hdocument⟩ := htext
  obtain ⟨hsections, hfields⟩ := Bool.and_eq_true_iff.mp hdistinct
  rw [distinct_eq schema_names, decide_eq_true_eq] at hsections
  have htakes : ∀ member ∈ members, ∀ value, ValueText member.2 value →
      schema.Takes described member value := by
    intro member hmem value hvalue
    exact takes_member hvalue (List.all_eq_true.mp hadmits member hmem)
      (List.all_eq_true.mp hfields member hmem)
  exact read_of_takes (hobject.takes described_nil htakes hsections) hbefore hafter hdocument

theorem read_eq_error_of_repeated (htext : DocumentText members document)
    (hadmits : admits members = true) (hrepeated : distinct members = false) :
    ∃ fault name, read document = .error fault ∧ fault.cause = .duplicateField name := by
  obtain ⟨before, object, after, hbefore, hobject, hafter, hdocument⟩ := htext
  have hreads : ∀ member ∈ members, ∀ value, ValueText member.2 value →
      schema.Takes described member value ∨ schema.Refuses member.1 value := by
    intro member hmem value hvalue
    have hmember := List.all_eq_true.mp hadmits member hmem
    cases hdistinct : distinctMember member with
    | true => exact Or.inl (takes_member hvalue hmember hdistinct)
    | false => exact Or.inr (refuses_member hvalue hmember hdistinct)
  -- a section that stands twice is a fault here, a field that does is one of its section
  have hfault : schema.HasFault ValueText [] members := by
    rcases Bool.and_eq_false_iff.mp hrepeated with hsections | hfields
    · rw [distinct_eq schema_names, decide_eq_false_iff_not] at hsections
      exact Or.inl hsections
    · obtain ⟨member, hmem, hdistinct⟩ := List.all_eq_false.mp hfields
      refine Or.inr ⟨member, hmem, fun value hvalue => ?_⟩
      exact refuses_member hvalue (List.all_eq_true.mp hadmits member hmem)
        (Bool.eq_false_of_not_eq_true hdistinct)
  exact read_of_refuses (hobject.refuses described_nil hreads hfault) hbefore hafter hdocument

/-- A document without repeated fields is read as the configuration that its members
describe; a repeated field is reported. -/
theorem ofDocument_described (members : List (String × Value)) (document : String)
    (htext : DocumentText members document) (hadmits : admits members = true) :
    (distinct members = true → ofDocument document = .ok (described members)) ∧
    (distinct members = false → ∃ fault name,
      ofDocument document = .error (.configuration (.document fault)) ∧
        fault.cause = .duplicateField name) := by
  constructor
  · intro hdistinct
    rw [ofDocument, read_eq_described htext hadmits hdistinct]
    rfl
  · intro hrepeated
    obtain ⟨fault, name, hread, hcause⟩ := read_eq_error_of_repeated htext hadmits hrepeated
    refine ⟨fault, name, ?_, hcause⟩
    rw [ofDocument, hread]
    rfl

/-- An unknown member and two fields of a section, and the same with a third field
that repeats the first. -/
theorem ofDocument_described_blur :
    ofDocument (Tree.record [("title", .truth true),
      ("blur", .record [("vecout", .label "vec4"), ("blur_kernel_radius", .number 9)])]).text =
        .ok { blur := { kernelRadius := 9, output := .vec4 } } ∧
    ∃ fault name, ofDocument (Tree.record [("title", .truth true),
      ("blur", .record [("vecout", .label "vec4"), ("blur_kernel_radius", .number 9),
        ("vecout", .label "vec2")])]).text = .error (.configuration (.document fault)) ∧
          fault.cause = .duplicateField name := by
  have hfields : Paired Tree.ShowsPlain
      [("vecout", .label "vec4"), ("blur_kernel_radius", .number 9)]
      [("vecout", .text "vec4"), ("blur_kernel_radius", .integer false 9)] :=
    .cons (by decide) (.label (by decide)) (.cons (by decide) (.number 9) .nil)
  have hrepeated : Paired Tree.ShowsPlain
      [("vecout", .label "vec4"), ("blur_kernel_radius", .number 9), ("vecout", .label "vec2")]
      [("vecout", .text "vec4"), ("blur_kernel_radius", .integer false 9),
        ("vecout", .text "vec2")] :=
    .cons (by decide) (.label (by decide)) (.cons (by decide) (.number 9)
      (.cons (by decide) (.label (by decide)) .nil))
  have hdocument {fields : List (String × Tree)} {values : List (String × Plain)}
      (hpaired : Paired Tree.ShowsPlain fields values) :
      DocumentText [("title", .plain (.truth true)), ("blur", .record values)]
        (Tree.record [("title", .truth true), ("blur", .record fields)]).text :=
    (Paired.cons (by decide) (.plain (.truth true))
      (.cons (by decide) (.record hpaired) .nil)).documentText
  constructor
  · exact (ofDocument_described _ _ (hdocument hfields) (by decide)).1 (by decide)
  · exact (ofDocument_described _ _ (hdocument hrepeated) (by decide)).2 (by decide)

end

end Configuration

end ShaderFamilies
