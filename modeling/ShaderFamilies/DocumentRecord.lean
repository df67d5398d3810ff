import ShaderFamilies.DocumentReader
import ShaderFamilies.DocumentTree

/-!
# Records in documents

A record is an object with a value for some of its fields, or a list with the
values of its first fields.  The other fields keep the values of the default
record.  Unknown fields are passed over; a known field may stand only once.
-/

namespace ShaderFamilies

namespace Document

/-- How a kind of value is written and read. -/
structure Codec (α : Type) where
  reader : Reader α
  tree : α → Tree

def wordCodec : Codec UInt32 := ⟨wordReader, .number⟩

def truthCodec : Codec Bool := ⟨truthReader, .truth⟩

def choiceCodec (α : Type) [Choice α] : Codec α :=
  ⟨choiceReader α, fun value => .label (Choice.label value)⟩

structure Field (ρ : Type) where
  name : String
  reader : Reader (ρ → ρ)
  tree : ρ → Tree

def Field.of {ρ α : Type} (name : String) (codec : Codec α) (get : ρ → α)
    (set : α → ρ → ρ) : Field ρ where
  name := name
  reader := codec.reader.map set
  tree record := codec.tree (get record)

structure Schema (ρ : Type) where
  title : String
  default : ρ
  fields : List (Field ρ)

def Schema.tree {ρ : Type} (schema : Schema ρ) (record : ρ) : Tree :=
  .record (schema.fields.map fun field => (field.name, field.tree record))

def Schema.field? {ρ : Type} (schema : Schema ρ) (name : String) :
    Option (Field ρ) :=
  schema.fields.find? (·.name == name)

/-! ## Objects -/

/-- Why the members of an object were not read to the end.  A field that
stands twice is reported only where the object was left. -/
inductive Halt
  | failed (failure : Failure)
  | duplicate (name : String) (rest : Bytes)

inductive Member
  /-- The end, with the text before its brace. -/
  | none (rest : Bytes)
  /-- A name, with the text after its opening quote. -/
  | named (rest : Bytes)

def expectName (text : Bytes) : Except Failure Member :=
  match text with
  | [] => failNext .endInValue []
  | byte :: rest =>
      if byte = quoteMark then .ok (.named rest)
      else if byte = closeBrace then failNext .trailingComma (byte :: rest)
      else failNext .keyNotString (byte :: rest)

/-- The next member of an object.  All but the first follow a comma. -/
def nextMember (first : Bool) (text : Bytes) : Except Failure Member :=
  match skipBlank text with
  | [] => failNext .endInObject []
  | byte :: rest =>
      if byte = closeBrace then .ok (.none (byte :: rest))
      else if first then
        if byte = quoteMark then .ok (.named rest)
        else failNext .keyNotString (byte :: rest)
      else if byte = comma then expectName (skipBlank rest)
      else failNext .objectEndExpected (byte :: rest)

theorem length_lt_of_nextMember {first : Bool} {text rest : Bytes}
    (hmember : nextMember first text = .ok (.named rest)) :
    rest.length < text.length := by
  unfold nextMember at hmember
  split at hmember
  · simp [failNext] at hmember
  · next byte after heq =>
      have hblank := length_lt_of_skipBlank heq
      split at hmember
      · simp at hmember
      · split at hmember
        · split at hmember
          · simp only [Except.ok.injEq, Member.named.injEq] at hmember
            exact hmember ▸ hblank
          · simp [failNext] at hmember
        · split at hmember
          · unfold expectName at hmember
            split at hmember
            · simp [failNext] at hmember
            · next hname =>
                have hnamed := length_lt_of_skipBlank hname
                split at hmember
                · simp only [Except.ok.injEq, Member.named.injEq] at hmember
                  rw [← hmember]
                  omega
                · split at hmember <;> simp [failNext] at hmember
          · simp [failNext] at hmember

/-- The value of a member, as a change of the record.  An unknown field changes
nothing. -/
def readMemberValue {ρ : Type} (field : Option (Field ρ)) (text : Bytes) :
    Except Failure ((ρ → ρ) × Bytes) :=
  match expectColon text with
  | .error failure => .error failure
  | .ok text =>
      match field with
      | some field => field.reader.read text
      | none =>
          match skipValue text with
          | .ok rest => .ok (id, rest)
          | .error failure => .error failure

theorem length_lt_of_readMemberValue {ρ : Type} {field : Option (Field ρ)}
    {text rest : Bytes} {change : ρ → ρ}
    (hvalue : readMemberValue field text = .ok (change, rest)) :
    rest.length < text.length := by
  unfold readMemberValue at hvalue
  split at hvalue
  · simp at hvalue
  · next hcolon =>
      have hshorter := length_lt_of_expectColon hcolon
      split at hvalue
      · next field =>
          exact Nat.lt_trans (field.reader.length_lt hvalue) hshorter
      · split at hvalue
        · next hskip =>
            simp only [Except.ok.injEq, Prod.mk.injEq] at hvalue
            exact Nat.lt_of_le_of_lt
              (hvalue.2 ▸ length_le_of_skipValue hskip) hshorter
        · simp at hvalue

/-- The members of an object, up to its closing brace.  `seen` are the names of
the fields that were read so far. -/
def readMembers {ρ : Type} (schema : Schema ρ) (seen : List String) (record : ρ)
    (first : Bool) (text : Bytes) : Except Halt (ρ × Bytes) :=
  match hmember : nextMember first text with
  | .error failure => .error (.failed failure)
  | .ok (.none rest) => .ok (record, rest)
  | .ok (.named inside) =>
      have := length_lt_of_nextMember hmember
      match hname : readString inside with
      | .error failure => .error (.failed failure)
      | .ok (name, after) =>
          have := length_lt_of_readString hname
          if (schema.field? name).isSome && seen.contains name then
            .error (.duplicate name after)
          else
            match hvalue : readMemberValue (schema.field? name) after with
            | .error failure => .error (.failed failure)
            | .ok (change, rest) =>
                have := length_lt_of_readMemberValue hvalue
                readMembers schema (name :: seen) (change record) false rest
termination_by text.length

def leaveObject (text : Bytes) : Except Failure Bytes :=
  match skipBlank text with
  | [] => failNext .endInObject []
  | byte :: rest =>
      if byte = closeBrace then .ok rest
      else if byte = comma then failNext .trailingComma (byte :: rest)
      else failNext .trailingCharacters (byte :: rest)

/-- The text where an object is left that has a field twice. -/
def abandonObject (text : Bytes) : Bytes :=
  match leaveObject text with
  | .ok rest => rest
  | .error _ => skipBlank text

/-- An object.  The text starts after its brace. -/
def readObject {ρ : Type} (schema : Schema ρ) (text : Bytes) :
    Except Failure (ρ × Bytes) :=
  match readMembers schema [] schema.default true text with
  | .ok (record, rest) =>
      match leaveObject rest with
      | .ok rest => .ok (record, rest)
      | .error failure => .error failure
  | .error (.failed failure) => .error failure
  | .error (.duplicate name rest) => failHere (.duplicateField name) (abandonObject rest)

/-! ## Lists -/

inductive Element
  /-- The end, with the text before its bracket. -/
  | none (rest : Bytes)
  /-- A value, with its text. -/
  | value (rest : Bytes)

def Element.rest : Element → Bytes
  | .none rest => rest
  | .value rest => rest

def expectElement (text : Bytes) : Except Failure Element :=
  match text with
  | [] => failNext .endInValue []
  | byte :: rest =>
      if byte = closeBracket then failNext .trailingComma (byte :: rest)
      else .ok (.value (byte :: rest))

/-- The next element of a list.  All but the first follow a comma. -/
def nextElement (first : Bool) (text : Bytes) : Except Failure Element :=
  match skipBlank text with
  | [] => failNext .endInList []
  | byte :: rest =>
      if byte = closeBracket then .ok (.none (byte :: rest))
      else if first then .ok (.value (byte :: rest))
      else if byte = comma then expectElement (skipBlank rest)
      else failNext .listEndExpected (byte :: rest)

def readElements {ρ : Type} (record : ρ) (first : Bool) :
    List (Field ρ) → Bytes → Except Failure (ρ × Bytes)
  | [], text => .ok (record, text)
  | field :: fields, text =>
      match nextElement first text with
      | .error failure => .error failure
      | .ok (.none rest) => .ok (record, rest)
      | .ok (.value text) =>
          match field.reader.read text with
          | .error failure => .error failure
          | .ok (change, rest) => readElements (change record) false fields rest

def leaveList (text : Bytes) : Except Failure Bytes :=
  match skipBlank text with
  | [] => failNext .endInList []
  | byte :: rest =>
      if byte = closeBracket then .ok rest
      else if byte = comma then
        match skipBlank rest with
        | [] => failNext .trailingCharacters []
        | byte :: rest =>
            if byte = closeBracket then failNext .trailingComma (byte :: rest)
            else failNext .trailingCharacters (byte :: rest)
      else failNext .trailingCharacters (byte :: rest)

/-- A list with the values of the first fields.  The text starts after its
bracket. -/
def readList {ρ : Type} (schema : Schema ρ) (text : Bytes) :
    Except Failure (ρ × Bytes) :=
  match readElements schema.default true schema.fields text with
  | .error failure => .error failure
  | .ok (record, rest) =>
      match leaveList rest with
      | .ok rest => .ok (record, rest)
      | .error failure => .error failure

/-! ## Records -/

def readRecord {ρ : Type} (schema : Schema ρ) (text : Bytes) :
    Except Failure (ρ × Bytes) :=
  match skipBlank text with
  | [] => failNext .endInValue []
  | byte :: rest =>
      if byte = openBrace then readObject schema rest
      else if byte = openBracket then readList schema rest
      else .error (mismatch ("struct " ++ schema.title) (byte :: rest))

theorem length_le_of_nextMember_none {first : Bool} {text rest : Bytes}
    (hmember : nextMember first text = .ok (.none rest)) :
    rest.length ≤ text.length := by
  unfold nextMember at hmember
  split at hmember
  · simp [failNext] at hmember
  · next byte after heq =>
      have hblank := length_skipBlank_le text
      rw [heq] at hblank
      split at hmember
      · simp only [Except.ok.injEq, Member.none.injEq] at hmember
        exact hmember ▸ hblank
      · split at hmember
        · split at hmember <;> simp [failNext] at hmember
        · split at hmember
          · unfold expectName at hmember
            split at hmember
            · simp [failNext] at hmember
            · split at hmember
              · simp at hmember
              · split at hmember <;> simp [failNext] at hmember
          · simp [failNext] at hmember

theorem length_le_of_readMembers {ρ : Type} {schema : Schema ρ}
    {seen : List String} {record result : ρ} {first : Bool} {text rest : Bytes}
    (hread : readMembers schema seen record first text = .ok (result, rest)) :
    rest.length ≤ text.length := by
  fun_induction readMembers schema seen record first text with
  | case1 => simp at hread
  | case2 seen record first text after hmember =>
      simp only [Except.ok.injEq, Prod.mk.injEq] at hread
      exact hread.2 ▸ length_le_of_nextMember_none hmember
  | case3 => simp at hread
  | case4 => simp at hread
  | case5 => simp at hread
  | case6 =>
      rename_i ih
      have := ih hread
      omega

theorem length_lt_of_leaveObject {text rest : Bytes}
    (hleave : leaveObject text = .ok rest) :
    rest.length < text.length := by
  unfold leaveObject at hleave
  split at hleave
  · simp [failNext] at hleave
  · next heq =>
      have hblank := length_lt_of_skipBlank heq
      split at hleave
      · simp only [Except.ok.injEq] at hleave
        exact hleave ▸ hblank
      · split at hleave <;> simp [failNext] at hleave

theorem length_lt_of_readObject {ρ : Type} {schema : Schema ρ}
    {text rest : Bytes} {record : ρ}
    (hread : readObject schema text = .ok (record, rest)) :
    rest.length < text.length := by
  unfold readObject at hread
  split at hread
  · next hmembers =>
      split at hread
      · next hleave =>
          simp only [Except.ok.injEq, Prod.mk.injEq] at hread
          rw [← hread.2]
          exact Nat.lt_of_lt_of_le (length_lt_of_leaveObject hleave)
            (length_le_of_readMembers hmembers)
      · simp at hread
  · simp at hread
  · simp [failHere] at hread

theorem length_le_of_nextElement {first : Bool} {text : Bytes} {element : Element}
    (helement : nextElement first text = .ok element) :
    element.rest.length ≤ text.length := by
  unfold nextElement at helement
  split at helement
  · simp [failNext] at helement
  · next byte after heq =>
      have hblank := length_skipBlank_le text
      rw [heq] at hblank
      split at helement
      · simp only [Except.ok.injEq] at helement
        exact helement ▸ hblank
      · split at helement
        · simp only [Except.ok.injEq] at helement
          exact helement ▸ hblank
        · split at helement
          · unfold expectElement at helement
            split at helement
            · simp [failNext] at helement
            · next hvalue =>
                have hsecond := length_skipBlank_le after
                rw [hvalue] at hsecond
                split at helement
                · simp [failNext] at helement
                · simp only [Except.ok.injEq] at helement
                  rw [← helement]
                  exact Nat.le_trans hsecond (Nat.le_of_succ_le hblank)
          · simp [failNext] at helement

theorem length_le_of_readElements {ρ : Type} {fields : List (Field ρ)}
    {record result : ρ} {first : Bool} {text rest : Bytes}
    (hread : readElements record first fields text = .ok (result, rest)) :
    rest.length ≤ text.length := by
  induction fields generalizing record first text with
  | nil =>
      simp only [readElements, Except.ok.injEq, Prod.mk.injEq] at hread
      simp [hread.2]
  | cons field fields ih =>
      simp only [readElements] at hread
      split at hread
      · simp at hread
      · next helement =>
          simp only [Except.ok.injEq, Prod.mk.injEq] at hread
          exact hread.2 ▸ length_le_of_nextElement helement
      · next helement =>
          have hvalue := length_le_of_nextElement helement
          simp only [Element.rest] at hvalue
          split at hread
          · simp at hread
          · next hfield =>
              have := field.reader.length_lt hfield
              have := ih hread
              omega

theorem length_lt_of_leaveList {text rest : Bytes}
    (hleave : leaveList text = .ok rest) :
    rest.length < text.length := by
  unfold leaveList at hleave
  split at hleave
  · simp [failNext] at hleave
  · next heq =>
      have hblank := length_lt_of_skipBlank heq
      split at hleave
      · simp only [Except.ok.injEq] at hleave
        exact hleave ▸ hblank
      · split at hleave
        · split at hleave
          · simp [failNext] at hleave
          · split at hleave <;> simp [failNext] at hleave
        · simp [failNext] at hleave

theorem length_lt_of_readList {ρ : Type} {schema : Schema ρ}
    {text rest : Bytes} {record : ρ}
    (hread : readList schema text = .ok (record, rest)) :
    rest.length < text.length := by
  unfold readList at hread
  split at hread
  · simp at hread
  · next helements =>
      split at hread
      · next hleave =>
          simp only [Except.ok.injEq, Prod.mk.injEq] at hread
          rw [← hread.2]
          exact Nat.lt_of_lt_of_le (length_lt_of_leaveList hleave)
            (length_le_of_readElements helements)
      · simp at hread

theorem length_lt_of_readRecord {ρ : Type} {schema : Schema ρ}
    {text rest : Bytes} {record : ρ}
    (hread : readRecord schema text = .ok (record, rest)) :
    rest.length < text.length := by
  unfold readRecord at hread
  split at hread
  · simp [failNext] at hread
  · next heq =>
      have hblank := length_lt_of_skipBlank heq
      split at hread
      · exact Nat.lt_trans (length_lt_of_readObject hread) hblank
      · split at hread
        · exact Nat.lt_trans (length_lt_of_readList hread) hblank
        · simp at hread

def Schema.codec {ρ : Type} (schema : Schema ρ) : Codec ρ where
  reader := ⟨readRecord schema, length_lt_of_readRecord⟩
  tree := schema.tree

/-- A whole document: one value and nothing after it. -/
def read {α : Type} (codec : Codec α) (text : String) : Except Fault α :=
  let bytes := Utf8.encode text
  match codec.reader.read bytes with
  | .error failure => .error (failure.locate bytes)
  | .ok (value, rest) =>
      match skipBlank rest with
      | [] => .ok value
      | _ :: rest => .error (Failure.locate ⟨.trailingCharacters, rest⟩ bytes)

def write {α : Type} (codec : Codec α) (value : α) : String :=
  (codec.tree value).text

end Document

end ShaderFamilies
