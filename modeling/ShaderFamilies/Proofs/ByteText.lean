import Mathlib.Data.List.Infix
import ShaderFamilies.Proofs.EncodedText

/-!
# Reading any bytes as text

The bytes of a text are read as that text, and all other bytes one character
per byte.  A sequence in an encoded text begins where a byte does not continue
one, so a fault in one place shows whatever stands before and after it.
-/

namespace ShaderFamilies

namespace Utf8

/-- Whether a byte continues a sequence. -/
def Continues (byte : UInt8) : Prop :=
  (continuation? byte).isSome = true

theorem continues_iff {byte : UInt8} :
    Continues byte ↔ 0x80 ≤ byte.toNat ∧ byte.toNat < 0xC0 := by
  unfold Continues continuation?
  by_cases hrange : 0x80 ≤ byte.toNat ∧ byte.toNat < 0xC0 <;> simp [hrange]

theorem continues_ofNat (value : Nat) :
    Continues (UInt8.ofNat (value % 0x40 + 0x80)) := by
  unfold Continues
  rw [continuation?_ofNat]
  rfl

/-! ## Where sequences begin -/

/-- Behind its first byte, a sequence is continued. -/
theorem Form.exists_lead (form : Form) (value : Nat) :
    ∃ lead tail, form.bytes value = lead :: tail ∧ ∀ byte ∈ tail, Continues byte := by
  cases form with
  | one => exact ⟨_, [], rfl, List.forall_mem_nil _⟩
  | two => exact ⟨_, _, rfl, List.forall_mem_singleton.mpr (continues_ofNat _)⟩
  | three =>
      refine ⟨_, _, rfl, ?_⟩
      rw [List.forall_mem_cons, List.forall_mem_singleton]
      exact ⟨continues_ofNat _, continues_ofNat _⟩
  | four =>
      refine ⟨_, _, rfl, ?_⟩
      rw [List.forall_mem_cons, List.forall_mem_cons, List.forall_mem_singleton]
      exact ⟨continues_ofNat _, continues_ofNat _, continues_ofNat _⟩

theorem exists_lead (character : Char) :
    ∃ lead tail, String.utf8EncodeChar character = lead :: tail ∧
      ∀ byte ∈ tail, Continues byte := by
  obtain ⟨form, hleast, hlimit⟩ := exists_form character
  rw [utf8EncodeChar_eq_bytes hleast hlimit]
  exact form.exists_lead character.toNat

/-- A byte of an encoded text that continues no sequence begins one, so the text
can be split before it. -/
theorem split_of_not_continues {characters : List Char} {before rest : Bytes} {lead : UInt8}
    (hbytes : characters.flatMap String.utf8EncodeChar = before ++ lead :: rest)
    (hlead : ¬ Continues lead) :
    ∃ first second, characters = first ++ second ∧
      before = first.flatMap String.utf8EncodeChar ∧
      lead :: rest = second.flatMap String.utf8EncodeChar := by
  induction characters generalizing before with
  | nil => simp at hbytes
  | cons character others ih =>
      cases before with
      | nil => exact ⟨[], character :: others, rfl, rfl, hbytes.symm⟩
      | cons begun before =>
          obtain ⟨first, tail, hfirst, htail⟩ := exists_lead character
          rw [List.flatMap_cons, hfirst, List.cons_append, List.cons_append] at hbytes
          obtain ⟨rfl, hbehind⟩ := List.cons.inj hbytes
          rcases List.append_eq_append_iff.mp hbehind with
            ⟨between, hbefore, hothers⟩ | ⟨between, htail', hrest⟩
          · obtain ⟨earlier, later, rfl, hearlier, hlater⟩ := ih hothers
            refine ⟨character :: earlier, later, rfl, ?_, hlater⟩
            rw [List.flatMap_cons, hfirst, ← hearlier, hbefore, List.cons_append]
          · cases between with
            | nil =>
                refine ⟨[character], others, rfl, ?_, hrest⟩
                rw [List.flatMap_singleton, hfirst, htail', List.append_nil]
            | cons other between =>
                obtain ⟨rfl, _⟩ := List.cons.inj hrest
                refine absurd (htail lead ?_) hlead
                rw [htail']
                simp

/-! ## Faults -/

/-- Bytes that no encoded text has between those before and those after them. -/
inductive Fault : Bytes → Bytes → Bytes → Prop
  /-- A sequence that is longer than its value needs. -/
  | overlong {form : Form} {value : Nat} (hvalue : value < form.least)
      (before after : Bytes) : Fault before (form.bytes value) after
  /-- The sequence of a surrogate. -/
  | surrogate {value : Nat} (hfirst : 0xD800 ≤ value) (hlast : value ≤ 0xDFFF)
      (before after : Bytes) : Fault before (Form.three.bytes value) after
  /-- The sequence of a value beyond the last scalar value. -/
  | beyond {value : Nat} (hfirst : 0x110000 ≤ value) (hlimit : value < Form.four.limit)
      (before after : Bytes) : Fault before (Form.four.bytes value) after
  /-- A byte that begins no sequence of at most four bytes, nor continues one. -/
  | unused {byte : UInt8} (hbyte : 0xF8 ≤ byte.toNat) (before after : Bytes) :
      Fault before [byte] after
  /-- A sequence that breaks off. -/
  | truncated {form : Form} {value : Nat} {begun missing : Bytes}
      (hvalue : value < form.limit) (hsplit : form.bytes value = begun ++ missing)
      (hbegun : begun ≠ []) (hmissing : missing ≠ []) (before : Bytes) {after : Bytes}
      (hafter : ∀ byte ∈ after.head?, ¬ Continues byte) : Fault before begun after
  /-- A byte that would continue a sequence, before any has begun. -/
  | strayFirst {byte : UInt8} (hbyte : Continues byte) (after : Bytes) :
      Fault [] [byte] after
  /-- A byte that would continue a sequence, behind a whole one. -/
  | strayBehind {form : Form} {value : Nat} {byte : UInt8} (hvalue : value < form.limit)
      (hbyte : Continues byte) (before after : Bytes) :
      Fault (before ++ form.bytes value) [byte] after

/-- The form of the sequence that a byte begins. -/
def Form.ofLead (lead : UInt8) : Form :=
  if lead.toNat < 0x80 then .one
  else if lead.toNat < 0xE0 then .two
  else if lead.toNat < 0xF0 then .three
  else .four

/-- The first byte of a sequence tells its form. -/
theorem Form.lead_bytes {form : Form} {value : Nat} (hvalue : value < form.limit)
    {lead : UInt8} {tail : Bytes} (hbytes : form.bytes value = lead :: tail) :
    ¬ Continues lead ∧ lead.toNat < 0xF8 ∧ ofLead lead = form := by
  rw [continues_iff]
  cases form with
  | one =>
      change value < 0x80 at hvalue
      have hlead : lead.toNat = value := by
        rw [← (List.cons.inj hbytes).1, toNat_ofNat_of_lt (by omega)]
      refine ⟨by omega, by omega, ?_⟩
      rw [ofLead, if_pos (by omega)]
  | two =>
      change value < 0x800 at hvalue
      have hlead : lead.toNat = value / 0x40 + 0xC0 := by
        rw [← (List.cons.inj hbytes).1, toNat_ofNat_of_lt (by omega)]
      refine ⟨by omega, by omega, ?_⟩
      rw [ofLead, if_neg (by omega), if_pos (by omega)]
  | three =>
      change value < 0x10000 at hvalue
      have hlead : lead.toNat = value / 0x1000 + 0xE0 := by
        rw [← (List.cons.inj hbytes).1, toNat_ofNat_of_lt (by omega)]
      refine ⟨by omega, by omega, ?_⟩
      rw [ofLead, if_neg (by omega), if_neg (by omega), if_pos (by omega)]
  | four =>
      change value < 0x200000 at hvalue
      have hlead : lead.toNat = value / 0x40000 + 0xF0 := by
        rw [← (List.cons.inj hbytes).1, toNat_ofNat_of_lt (by omega)]
      refine ⟨by omega, by omega, ?_⟩
      rw [ofLead, if_neg (by omega), if_neg (by omega), if_neg (by omega)]

theorem Form.length_bytes (form : Form) (value other : Nat) :
    (form.bytes value).length = (form.bytes other).length := by
  cases form <;> rfl

/-- From a byte that continues no sequence on, an encoded text can be read. -/
theorem decode?_of_encode_append {text : String} {before rest : Bytes} {lead : UInt8}
    (htext : before ++ lead :: rest = encode text) (hlead : ¬ Continues lead) :
    decode? (lead :: rest) ≠ none := by
  obtain ⟨_, second, _, _, hsecond⟩ := split_of_not_continues htext.symm hlead
  have hread := decode?_encode (String.ofList second)
  rw [encode, String.toList_ofList, ← hsecond] at hread
  rw [hread]
  exact Option.some_ne_none _

/-- Where a sequence stands in an encoded text, what is behind it can be read. -/
theorem decode?_behind_bytes {text : String} {form : Form} {value : Nat}
    (hvalue : value < form.limit) {before rest : Bytes}
    (htext : before ++ (form.bytes value ++ rest) = encode text) :
    (∃ character, scalar? form.least value = some character) ∧ decode? rest ≠ none := by
  obtain ⟨lead, tail, hbytes, _⟩ := form.exists_lead value
  have hlead : ¬ Continues lead := (Form.lead_bytes hvalue hbytes).1
  rw [hbytes, List.cons_append] at htext
  have hread := decode?_of_encode_append htext hlead
  rw [← List.cons_append, ← hbytes, decode?_bytes_append hvalue] at hread
  cases hscalar : scalar? form.least value with
  | none =>
      rw [hscalar] at hread
      exact absurd rfl hread
  | some character =>
      rw [hscalar, Option.bind_some] at hread
      refine ⟨⟨character, rfl⟩, ?_⟩
      intro hnone
      rw [hnone] at hread
      exact hread rfl

theorem truncated_not_decoded {form : Form} {value : Nat} {begun missing after : Bytes}
    (hvalue : value < form.limit) (hsplit : form.bytes value = begun ++ missing)
    (hbegun : begun ≠ []) (hmissing : missing ≠ [])
    (hafter : ∀ byte ∈ after.head?, ¬ Continues byte) :
    decode? (begun ++ after) = none := by
  rw [Option.eq_none_iff_forall_ne_some]
  intro characters hread
  obtain ⟨lead, begun, rfl⟩ := List.exists_cons_of_ne_nil hbegun
  obtain ⟨other, found, later, hfound, hbytes⟩ := exists_bytes_of_decode? hread
  obtain ⟨first, tail, hfirst, htail⟩ := other.exists_lead found
  rw [hfirst] at hbytes
  obtain ⟨rfl, hbehind⟩ : lead = first ∧ begun ++ after = tail ++ later :=
    List.cons.inj hbytes
  -- Both sequences begin with this byte, so they are of one length.
  have hform : form = other := by
    rw [← (Form.lead_bytes hvalue hsplit).2.2, ← (Form.lead_bytes hfound hfirst).2.2]
  have hlength : tail.length = begun.length + missing.length := by
    have hequal := form.length_bytes value found
    rw [hsplit, hform, hfirst, List.length_append] at hequal
    simp only [List.length_cons] at hequal
    omega
  have hlonger : begun.length < tail.length := by
    have hpositive := List.length_pos_iff.mpr hmissing
    omega
  rcases List.append_eq_append_iff.mp hbehind with
    ⟨between, htailEq, hlater⟩ | ⟨between, hbegunEq, hlater⟩
  · cases between with
    | nil =>
        rw [htailEq, List.append_nil] at hlonger
        exact Nat.lt_irrefl _ hlonger
    | cons next between =>
        have hnext : Continues next := htail next (by simp [htailEq])
        exact hafter next (by simp [hlater]) hnext
  · rw [hbegunEq, List.length_append] at hlonger
    omega

/-- No encoded text has a fault. -/
theorem Fault.not_encoded {before fault after : Bytes} (hfault : Fault before fault after)
    (text : String) : before ++ fault ++ after ≠ encode text := by
  intro htext
  rw [List.append_assoc] at htext
  cases hfault with
  | overlong hvalue =>
      rename_i form value
      have hlimit : value < form.limit := by
        cases form <;> simp only [Form.least, Form.limit] at hvalue ⊢ <;> omega
      obtain ⟨⟨character, hscalar⟩, _⟩ := decode?_behind_bytes hlimit htext
      have hleast := (scalar?_eq_some_iff.mp hscalar).1
      omega
  | surrogate hfirst hlast =>
      rename_i value
      have hlimit : value < Form.three.limit := by
        simp only [Form.limit]
        omega
      obtain ⟨⟨character, hscalar⟩, _⟩ := decode?_behind_bytes hlimit htext
      have hvalue := (scalar?_eq_some_iff.mp hscalar).2
      have hvalid : character.toNat.isValidChar := character.valid
      unfold Nat.isValidChar at hvalid
      omega
  | beyond hfirst hlimit =>
      obtain ⟨⟨character, hscalar⟩, _⟩ := decode?_behind_bytes hlimit htext
      have hvalue := (scalar?_eq_some_iff.mp hscalar).2
      have hbound := toNat_lt_of_char character
      omega
  | unused hbyte =>
      rename_i byte
      have hlead : ¬ Continues byte := by
        rw [continues_iff]
        omega
      have hread := decode?_of_encode_append htext hlead
      obtain ⟨characters, hread⟩ := Option.ne_none_iff_exists'.mp hread
      obtain ⟨form, value, later, hvalue, hbytes⟩ := exists_bytes_of_decode? hread
      obtain ⟨lead, tail, hfirst, _⟩ := form.exists_lead value
      rw [hfirst, List.cons_append] at hbytes
      obtain ⟨rfl, _⟩ := List.cons.inj hbytes
      have hsmall := (Form.lead_bytes hvalue hfirst).2.1
      omega
  | truncated hvalue hsplit hbegun hmissing _ hafter =>
      obtain ⟨lead, begun, rfl⟩ := List.exists_cons_of_ne_nil hbegun
      have hlead : ¬ Continues lead := (Form.lead_bytes hvalue hsplit).1
      exact decode?_of_encode_append htext hlead
        (truncated_not_decoded hvalue hsplit hbegun hmissing hafter)
  | strayFirst hbyte =>
      have hread := decode?_encode text
      rw [← htext] at hread
      have hnone := decode?_continuation hbyte after
      rw [List.nil_append, List.singleton_append, hnone] at hread
      cases hread
  | strayBehind hvalue hbyte =>
      rw [List.append_assoc] at htext
      exact (decode?_behind_bytes hvalue htext).2 (decode?_continuation hbyte after)

/-! ## One character per byte -/

theorem toNat_byteCharacters (bytes : Bytes) :
    (byteCharacters bytes).map Char.toNat = bytes.map UInt8.toNat := by
  unfold byteCharacters
  rw [List.map_map]
  apply List.map_congr_left
  intro byte _
  have hbyte := byte.toNat_lt
  have hvalid : byte.toNat.isValidChar := Or.inl (by omega)
  have hcharacter : Char.ofNat byte.toNat = Char.ofNatAux byte.toNat hvalid := dif_pos hvalid
  rw [Function.comp_apply, hcharacter]
  rfl

theorem lenient_of_not_encoded {bytes : Bytes} (hbytes : ∀ text, bytes ≠ encode text) :
    lenient bytes = String.ofList (byteCharacters bytes) := by
  have hnone : decode? bytes = none := by
    rw [Option.eq_none_iff_forall_ne_some]
    intro characters hread
    apply hbytes (String.ofList characters)
    rw [← decode?_eq_some_iff, String.toList_ofList]
    exact hread
  rw [lenient, hnone, Option.getD_none]

theorem toNat_lenient {bytes : Bytes} (hbytes : ∀ text, bytes ≠ encode text) :
    (lenient bytes).toList.map Char.toNat = bytes.map UInt8.toNat := by
  rw [lenient_of_not_encoded hbytes, String.toList_ofList, toNat_byteCharacters]

/-- The bytes of a text are read as the text; all other bytes are read one
character per byte.  Bytes with a fault anywhere are not those of a text.  Where
there are bytes, there is a text. -/
theorem lenient_exact (bytes : Bytes) :
    (∀ text, bytes = encode text → lenient bytes = text) ∧
      ((∀ text, bytes ≠ encode text) →
        (lenient bytes).toList.map Char.toNat = bytes.map UInt8.toNat) ∧
      (∀ before fault after, Fault before fault after → bytes = before ++ fault ++ after →
        (lenient bytes).toList.map Char.toNat = bytes.map UInt8.toNat) ∧
      (bytes ≠ [] → lenient bytes ≠ "") := by
  refine ⟨?_, toNat_lenient, ?_, ?_⟩
  · intro text hbytes
    rw [hbytes, lenient_encode]
  · intro before fault after hfault hbytes
    apply toNat_lenient
    rw [hbytes]
    exact hfault.not_encoded
  · intro hne hempty
    by_cases hencoded : ∃ text, bytes = encode text
    · obtain ⟨text, hbytes⟩ := hencoded
      rw [hbytes, lenient_encode] at hempty
      rw [hbytes, hempty] at hne
      exact hne rfl
    · have hmap := toNat_lenient (not_exists.mp hencoded)
      rw [hempty] at hmap
      exact hne (List.map_eq_nil_iff.mp hmap.symm)

/-- The solidus in two bytes, in the middle of a file. -/
theorem lenient_exact_overlong :
    Fault [0x2E] [0xC0, 0xAF] [0x2E] ∧
      (lenient [0x2E, 0xC0, 0xAF, 0x2E]).toList.map Char.toNat =
        [0x2E, 0xC0, 0xAF, 0x2E] := by
  have hvalue : 0x2F < Form.two.least := by decide
  have hfault : Fault [0x2E] [0xC0, 0xAF] [0x2E] := .overlong hvalue _ _
  exact ⟨hfault, (lenient_exact _).2.2.1 _ _ _ hfault rfl⟩

end Utf8

end ShaderFamilies
