import ShaderFamilies.DocumentRecord
import ShaderFamilies.Proofs.LaidOutTrees
import ShaderFamilies.Proofs.PlainReading

/-!
# Plain values of types

Truth values, numbers and labels each have a plain value of a document.  A codec of
such a type reads every text of the plain value, and its trees show it.
-/

namespace ShaderFamilies

/-! ## Labels -/

/-- Each label stands for one alternative, and needs no escapes. -/
class LawfulChoice (α : Type) [Choice α] : Prop where
  find?_label : ∀ value : α, Choice.find? α (Choice.label value) = some value := by
    intro value
    cases value <;> rfl
  unescaped : ∀ value : α, Document.Unescaped (Choice.label value) := by
    intro value
    cases value <;> decide

instance : LawfulChoice Switch := {}

instance : LawfulChoice MappingMode := {}

instance : LawfulChoice ShadowMode := {}

instance : LawfulChoice ShadowLight := {}

instance : LawfulChoice BloomBlend := {}

instance : LawfulChoice DofAlgorithm := {}

instance : LawfulChoice VectorType := {}

instance : LawfulChoice Channels := {}

instance : LawfulChoice PositionOutput := {}

namespace Document

/-! ## Values and plain values -/

/-- The values of a type that plain values stand for. -/
class FromPlain (α : Type) where
  value? : Plain → Option α

instance : FromPlain Bool where
  value?
    | .truth value => some value
    | _ => none

instance : FromPlain UInt32 where
  value?
    | .integer false magnitude =>
        if magnitude < UInt32.size then some (UInt32.ofNat magnitude) else none
    | _ => none

instance {α : Type} [Choice α] : FromPlain α where
  value?
    | .text label => Choice.find? α label
    | _ => none

/-- A plain value for each value of the type, that stands for it. -/
class ToPlain (α : Type) [FromPlain α] where
  plain : α → Plain
  value?_plain : ∀ value, FromPlain.value? (plain value) = some value

instance : ToPlain Bool where
  plain := .truth
  value?_plain _ := rfl

instance : ToPlain UInt32 where
  plain value := .integer false value.toNat
  value?_plain value := by
    change (if value.toNat < UInt32.size then some (UInt32.ofNat value.toNat) else none) = _
    rw [if_pos value.toNat_lt, UInt32.ofNat_toNat]

instance (α : Type) [Choice α] [LawfulChoice α] : ToPlain α where
  plain value := .text (Choice.label value)
  value?_plain := LawfulChoice.find?_label

/-! ## Codecs -/

section

variable {α : Type} [FromPlain α]

/-- Each text of a plain value of the type is read as the value. -/
class Codec.ReadsPlain (codec : Codec α) : Prop where
  takes : ∀ plain value text, FromPlain.value? plain = some value → PlainText plain text →
    codec.reader.Takes text value

/-- The tree of each value shows its plain value. -/
class Codec.ShowsPlain [ToPlain α] (codec : Codec α) : Prop where
  shows : ∀ value, (codec.tree value).ShowsPlain (ToPlain.plain value)

end

instance : truthCodec.ReadsPlain where
  takes plain value text hvalue htext := by
    cases htext with
    | truth =>
        cases hvalue
        exact truthReader_takes value
    | null | natural | negative | text => cases hvalue

instance : wordCodec.ReadsPlain where
  takes plain value text hvalue htext := by
    cases htext with
    | natural magnitude =>
        obtain ⟨hmagnitude, hword⟩ := Option.ite_none_right_eq_some.mp hvalue
        cases hword
        exact wordReader_takes hmagnitude
    | null | truth | negative | text => cases hvalue

instance (α : Type) [Choice α] : (choiceCodec α).ReadsPlain where
  takes plain value text hvalue htext := by
    cases htext with
    | text htext => exact choiceReader_takes htext hvalue
    | null | truth | natural | negative => cases hvalue

instance : truthCodec.ShowsPlain where
  shows := .truth

instance : wordCodec.ShowsPlain where
  shows := .number

instance (α : Type) [Choice α] [LawfulChoice α] : (choiceCodec α).ShowsPlain where
  shows value := .label (LawfulChoice.unescaped value)

/-! ## Values among members -/

section

universe u

variable {α β : Type}

theorem lookup_isSome (known : List (String × β)) (name : String) :
    (known.lookup name).isSome = decide (name ∈ known.map (·.1)) := by
  induction known with
  | nil => rfl
  | cons entry known ih =>
      rw [List.lookup_cons, List.map_cons]
      by_cases hname : name = entry.1
      · simp [hname]
      · have hother : (name == entry.1) = false := by simpa using hname
        simp only [hother, ih, List.mem_cons, hname, false_or]

theorem lookup_eq_none {known : List (String × β)} {name : String}
    (hnew : name ∉ known.map (·.1)) : known.lookup name = none := by
  rw [← Option.isNone_iff_eq_none, ← Option.not_isSome, lookup_isSome]
  simpa using hnew

theorem lookup_map_of_mem {ι : Type u} {entries : List ι} {name : ι → String} (value : ι → β)
    (hnodup : (entries.map name).Nodup) {entry : ι} (hmem : entry ∈ entries) :
    (entries.map fun entry => (name entry, value entry)).lookup (name entry) =
      some (value entry) := by
  induction entries with
  | nil => cases hmem
  | cons first others ih =>
      obtain ⟨hfirst, hothers⟩ := List.nodup_cons.mp hnodup
      rw [List.map_cons, List.lookup_cons]
      rcases List.mem_cons.mp hmem with rfl | hmem
      · simp
      · have hother : (name entry == name first) = false := by
          rw [beq_eq_false_iff_ne]
          intro hsame
          exact hfirst (hsame ▸ List.mem_map_of_mem hmem)
        simp only [hother]
        exact ih hothers hmem

variable [FromPlain α]

/-- Whether the plain value stands for a value of the type. -/
def isOf (α : Type) [FromPlain α] (plain : Plain) : Bool :=
  (FromPlain.value? plain : Option α).isSome

theorem isOf_plain [ToPlain α] (value : α) : isOf α (ToPlain.plain value) = true := by
  rw [isOf, ToPlain.value?_plain]
  rfl

/-- The value that the members give to a name, or the default without one. -/
def given (name : String) (members : List (String × Plain)) (default : α) : α :=
  ((members.lookup name).bind FromPlain.value?).getD default

theorem given_of_lookup {name : String} {members : List (String × Plain)} {plain : Plain}
    {value : α} (hlookup : members.lookup name = some plain)
    (hvalue : FromPlain.value? plain = some value) (default : α) :
    given name members default = value := by
  simp [given, hlookup, hvalue]

theorem given_append_of_ne {name other : String} (hne : other ≠ name)
    (members : List (String × Plain)) (plain : Plain) (default : α) :
    given name (members ++ [(other, plain)]) default = given name members default := by
  have hother : ¬ (name == other) = true := by
    simpa using hne.symm
  simp [given, List.lookup_append, List.lookup_cons, hother]

theorem given_append_of_not_mem {name : String} {members : List (String × Plain)}
    (hnew : name ∉ members.map (·.1)) {plain : Plain} {value : α}
    (hvalue : FromPlain.value? plain = some value) (default : α) :
    given name (members ++ [(name, plain)]) default = value := by
  apply given_of_lookup _ hvalue
  simp [List.lookup_append, lookup_eq_none hnew]

end

end Document

end ShaderFamilies
