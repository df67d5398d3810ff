import ShaderFamilies.Proofs.PlainValues
import Mathlib.Data.List.Basic
import Mathlib.Data.List.Pairwise

/-!
# Fields with plain values

A record of plain values is no more than the values of its fields: it is built from
them, and each is found again in what was built.
-/

namespace ShaderFamilies

namespace Document

variable {ρ : Type}

/-- A field whose values are written and read as plain values. -/
structure PlainField (ρ : Type) where
  {Value : Type}
  [fromPlain : FromPlain Value]
  [toPlain : ToPlain Value]
  name : String
  codec : Codec Value
  [reads : codec.ReadsPlain]
  [shows : codec.ShowsPlain]
  get : ρ → Value
  set : Value → ρ → ρ
  get_set : ∀ value record, get (set value record) = value
  unescaped : Unescaped name

attribute [instance] PlainField.fromPlain PlainField.toPlain PlainField.reads PlainField.shows

namespace PlainField

def field (plain : PlainField ρ) : Field ρ :=
  .of plain.name plain.codec plain.get plain.set

/-- The value that the members give to the field, or that of the record without one. -/
def given (field : PlainField ρ) (members : List (String × Plain)) (record : ρ) : field.Value :=
  Document.given field.name members (field.get record)

/-- The member that gives the value of the record to the field. -/
def member (record : ρ) (field : PlainField ρ) : String × Plain :=
  (field.name, ToPlain.plain (field.get record))

/-- Two fields of different names, neither of which changes when the other is set. -/
def Apart (field other : PlainField ρ) : Prop :=
  field.name ≠ other.name ∧
    (∀ value record, field.get (other.set value record) = field.get record) ∧
    ∀ value record, other.get (field.set value record) = other.get record

instance : Std.Symm (@Apart ρ) where
  symm _ _ hapart := ⟨hapart.1.symm, hapart.2.2, hapart.2.1⟩

end PlainField

/-- Fields of a schema that are all plain.  What belongs to each is found in the field
itself. -/
inductive PlainFields : List (Field ρ) → Type 1
  | nil : PlainFields []
  | cons {α : Type} [FromPlain α] [ToPlain α] {name : String} {codec : Codec α}
      [codec.ReadsPlain] [codec.ShowsPlain] {get : ρ → α} {set : α → ρ → ρ}
      {fields : List (Field ρ)} (others : PlainFields fields)
      (get_set : ∀ value record, get (set value record) = value := by intros; rfl)
      (unescaped : Unescaped name := by decide) :
      PlainFields (.of name codec get set :: fields)

namespace PlainFields

variable {fields : List (Field ρ)}

def list {fields : List (Field ρ)} : PlainFields fields → List (PlainField ρ)
  | .nil => []
  | @cons _ _ _ _ name codec _ _ get set _ others get_set unescaped =>
      ⟨name, codec, get, set, get_set, unescaped⟩ :: others.list

theorem map_field (plain : PlainFields fields) : plain.list.map PlainField.field = fields := by
  induction plain with
  | nil => rfl
  | cons others get_set unescaped ih =>
      rw [list, List.map_cons, ih]
      rfl

/-- The members that give all values of a record. -/
def members (plain : PlainFields fields) (record : ρ) : List (String × Plain) :=
  plain.list.map (PlainField.member record)

end PlainFields

/-! ## Built records -/

/-- The record with a value in each of the fields. -/
def build (fields : List (PlainField ρ)) (value : (field : PlainField ρ) → field.Value)
    (base : ρ) : ρ :=
  fields.foldr (fun field record => field.set (value field) record) base

section

variable {fields : List (PlainField ρ)} {value other : (field : PlainField ρ) → field.Value}

theorem build_congr (hvalue : ∀ field ∈ fields, value field = other field) (base : ρ) :
    build fields value base = build fields other base := by
  apply List.foldr_ext
  intro field hmem record
  rw [hvalue field hmem]

theorem get_build (hapart : fields.Pairwise PlainField.Apart) {field : PlainField ρ}
    (hmem : field ∈ fields) (base : ρ) :
    field.get (build fields value base) = value field := by
  induction fields with
  | nil => cases hmem
  | cons first others ih =>
      obtain ⟨hfirst, hothers⟩ := List.pairwise_cons.mp hapart
      change field.get (first.set (value first) (build others value base)) = value field
      rcases List.mem_cons.mp hmem with rfl | hmem
      · exact field.get_set _ _
      · rw [(hfirst field hmem).2.2, ih hothers hmem]

end

end Document

end ShaderFamilies
