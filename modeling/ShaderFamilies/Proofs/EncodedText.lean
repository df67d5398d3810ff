import Mathlib.Tactic.SplitIfs
import ShaderFamilies.Utf8Text

/-!
# Encoded texts and their bytes

The bytes of a text are valid, and reading them gives the text.  Bytes that can
be read are the bytes of the text that is read, so valid bytes and texts match.
-/

namespace ShaderFamilies

namespace Utf8

/-! ## Sequences -/

/-- The sequences, by their length. -/
inductive Form
  | one
  | two
  | three
  | four

namespace Form

/-- The least value for which a sequence is the shortest one. -/
def least : Form → Nat
  | .one => 0
  | .two => 0x80
  | .three => 0x800
  | .four => 0x10000

/-- The first value that a sequence has no room for. -/
def limit : Form → Nat
  | .one => 0x80
  | .two => 0x800
  | .three => 0x10000
  | .four => 0x200000

/-- The sequence that carries a value, be it a scalar value or not. -/
def bytes (value : Nat) : Form → Bytes
  | .one => [.ofNat value]
  | .two => [.ofNat (value / 0x40 + 0xC0), .ofNat (value % 0x40 + 0x80)]
  | .three =>
      [.ofNat (value / 0x1000 + 0xE0), .ofNat (value / 0x40 % 0x40 + 0x80),
        .ofNat (value % 0x40 + 0x80)]
  | .four =>
      [.ofNat (value / 0x40000 + 0xF0), .ofNat (value / 0x1000 % 0x40 + 0x80),
        .ofNat (value / 0x40 % 0x40 + 0x80), .ofNat (value % 0x40 + 0x80)]

end Form

theorem toNat_ofNat_of_lt {value : Nat} (hvalue : value < 0x100) :
    (UInt8.ofNat value).toNat = value := by
  rw [UInt8.toNat_ofNat']
  omega

theorem continuation?_ofNat (value : Nat) :
    continuation? (UInt8.ofNat (value % 0x40 + 0x80)) = some (value % 0x40) := by
  have htoNat : (UInt8.ofNat (value % 0x40 + 0x80)).toNat = value % 0x40 + 0x80 :=
    toNat_ofNat_of_lt (by omega)
  unfold continuation?
  rw [htoNat, if_pos (by omega), Nat.add_sub_cancel]

theorem eq_ofNat_of_continuation? {byte : UInt8} {bits : Nat}
    (hbyte : continuation? byte = some bits) :
    bits < 0x40 ∧ byte = UInt8.ofNat (bits + 0x80) := by
  unfold continuation? at hbyte
  by_cases hrange : 0x80 ≤ byte.toNat ∧ byte.toNat < 0xC0
  · rw [if_pos hrange] at hbyte
    have hbits : byte.toNat - 0x80 = bits := Option.some.inj hbyte
    refine ⟨by omega, ?_⟩
    rw [← hbits, Nat.sub_add_cancel hrange.1, UInt8.ofNat_toNat]
  · rw [if_neg hrange] at hbyte
    cases hbyte

theorem scalar?_eq_some_iff {least value : Nat} {character : Char} :
    scalar? least value = some character ↔
      least ≤ value ∧ value = character.toNat := by
  unfold scalar?
  constructor
  · intro hscalar
    split_ifs at hscalar with hvalid
    cases hscalar
    refine ⟨hvalid.1, ?_⟩
    have hcharacter : Char.ofNat value = Char.ofNatAux value hvalid.2 := dif_pos hvalid.2
    rw [hcharacter]
    rfl
  · intro hboth
    obtain ⟨hleast, rfl⟩ := hboth
    rw [if_pos ⟨hleast, character.valid⟩, Char.ofNat_toNat]

section

variable {lead second third fourth : UInt8} {middle low last : Nat}

theorem decode?_one (hlead : lead.toNat < 0x80) (rest : Bytes) :
    decode? (lead :: rest) = (decode? rest).map (Char.ofNat lead.toNat :: ·) := by
  cases rest <;> simp [decode?, hlead]

theorem decode?_two (hlead : 0xC0 ≤ lead.toNat) (hshort : lead.toNat < 0xE0)
    (hsecond : continuation? second = some middle) (rest : Bytes) :
    decode? (lead :: second :: rest) =
      (scalar? 0x80 ((lead.toNat - 0xC0) * 0x40 + middle)).bind fun character =>
        (decode? rest).map (character :: ·) := by
  have hfirst : ¬ lead.toNat < 0x80 := by omega
  have hstray : ¬ lead.toNat < 0xC0 := by omega
  cases rest <;> simp [decode?, hfirst, hstray, hshort, hsecond]

theorem decode?_three (hlead : 0xE0 ≤ lead.toNat) (hshort : lead.toNat < 0xF0)
    (hsecond : continuation? second = some middle) (hthird : continuation? third = some low)
    (rest : Bytes) :
    decode? (lead :: second :: third :: rest) =
      (scalar? 0x800 ((lead.toNat - 0xE0) * 0x1000 + middle * 0x40 + low)).bind
        fun character => (decode? rest).map (character :: ·) := by
  have hfirst : ¬ lead.toNat < 0x80 := by omega
  have hstray : ¬ lead.toNat < 0xC0 := by omega
  have hlong : ¬ lead.toNat < 0xE0 := by omega
  cases rest <;> simp [decode?, hfirst, hstray, hlong, hshort, hsecond, hthird]

theorem decode?_four (hlead : 0xF0 ≤ lead.toNat)
    (hsecond : continuation? second = some middle) (hthird : continuation? third = some low)
    (hfourth : continuation? fourth = some last) (rest : Bytes) :
    decode? (lead :: second :: third :: fourth :: rest) =
      (scalar? 0x10000 ((lead.toNat - 0xF0) * 0x40000 + middle * 0x1000 + low * 0x40 +
        last)).bind fun character => (decode? rest).map (character :: ·) := by
  have hfirst : ¬ lead.toNat < 0x80 := by omega
  have hstray : ¬ lead.toNat < 0xC0 := by omega
  have hlong : ¬ lead.toNat < 0xE0 := by omega
  have hlonger : ¬ lead.toNat < 0xF0 := by omega
  rw [decode?, if_neg hfirst, if_neg hstray, hsecond, Option.bind_eq_bind,
    Option.bind_some, if_neg hlong]
  dsimp only
  rw [hthird, Option.bind_eq_bind, Option.bind_some, if_neg hlonger, hfourth,
    Option.bind_some]

end

/-- Reading a sequence gives its character, if it has one, and goes on behind
it. -/
theorem decode?_bytes_append {form : Form} {value : Nat} (hvalue : value < form.limit)
    (rest : Bytes) :
    decode? (form.bytes value ++ rest) =
      (scalar? form.least value).bind fun character =>
        (decode? rest).map (character :: ·) := by
  cases form with
  | one =>
      change value < 0x80 at hvalue
      have hlead : (UInt8.ofNat value).toNat = value := toNat_ofNat_of_lt (by omega)
      have hscalar : scalar? 0 value = some (Char.ofNat value) :=
        if_pos ⟨Nat.zero_le value, Or.inl (by omega)⟩
      simp only [Form.bytes, Form.least, List.cons_append, List.nil_append]
      rw [decode?_one (by omega), hlead, hscalar, Option.bind_some]
  | two =>
      change value < 0x800 at hvalue
      have hlead : (UInt8.ofNat (value / 0x40 + 0xC0)).toNat = value / 0x40 + 0xC0 :=
        toNat_ofNat_of_lt (by omega)
      simp only [Form.bytes, Form.least, List.cons_append, List.nil_append]
      rw [decode?_two (by omega) (by omega) (continuation?_ofNat _), hlead]
      congr 2
      omega
  | three =>
      change value < 0x10000 at hvalue
      have hlead : (UInt8.ofNat (value / 0x1000 + 0xE0)).toNat = value / 0x1000 + 0xE0 :=
        toNat_ofNat_of_lt (by omega)
      simp only [Form.bytes, Form.least, List.cons_append, List.nil_append]
      rw [decode?_three (by omega) (by omega) (continuation?_ofNat _)
        (continuation?_ofNat _), hlead]
      congr 2
      omega
  | four =>
      change value < 0x200000 at hvalue
      have hlead : (UInt8.ofNat (value / 0x40000 + 0xF0)).toNat = value / 0x40000 + 0xF0 :=
        toNat_ofNat_of_lt (by omega)
      simp only [Form.bytes, Form.least, List.cons_append, List.nil_append]
      rw [decode?_four (by omega) (continuation?_ofNat _) (continuation?_ofNat _)
        (continuation?_ofNat _), hlead]
      congr 2
      omega

/-! ## Encoding -/

/-- The sequence of a character is the shortest one that has room for it. -/
theorem utf8EncodeChar_eq_bytes {form : Form} {character : Char}
    (hleast : form.least ≤ character.toNat) (hlimit : character.toNat < form.limit) :
    String.utf8EncodeChar character = form.bytes character.toNat := by
  have htoNat : character.val.toNat = character.toNat := rfl
  simp only [String.utf8EncodeChar, htoNat]
  cases form <;> simp only [Form.least, Form.limit] at hleast hlimit
  · rw [if_pos (by omega)]
    rfl
  · rw [if_neg (by omega), if_pos (by omega), Nat.mod_eq_of_lt (by omega : _ < 32)]
    rfl
  · rw [if_neg (by omega), if_neg (by omega), if_pos (by omega),
      Nat.mod_eq_of_lt (by omega : _ < 16)]
    rfl
  · rw [if_neg (by omega), if_neg (by omega), if_neg (by omega),
      Nat.mod_eq_of_lt (by omega : _ < 8)]
    rfl

theorem toNat_lt_of_char (character : Char) : character.toNat < 0x110000 := by
  have hvalid : character.toNat.isValidChar := character.valid
  unfold Nat.isValidChar at hvalid
  omega

theorem exists_form (character : Char) :
    ∃ form : Form, form.least ≤ character.toNat ∧ character.toNat < form.limit := by
  have hbound := toNat_lt_of_char character
  by_cases hone : character.toNat < 0x80
  · exact ⟨.one, Nat.zero_le _, hone⟩
  · by_cases htwo : character.toNat < 0x800
    · exact ⟨.two, Nat.le_of_not_lt hone, htwo⟩
    · by_cases hthree : character.toNat < 0x10000
      · exact ⟨.three, Nat.le_of_not_lt htwo, hthree⟩
      · exact ⟨.four, Nat.le_of_not_lt hthree, Nat.lt_trans hbound (by decide)⟩

theorem decode?_character_append (character : Char) (rest : Bytes) :
    decode? (String.utf8EncodeChar character ++ rest) =
      (decode? rest).map (character :: ·) := by
  obtain ⟨form, hleast, hlimit⟩ := exists_form character
  have hscalar : scalar? form.least character.toNat = some character :=
    scalar?_eq_some_iff.mpr ⟨hleast, rfl⟩
  rw [utf8EncodeChar_eq_bytes hleast hlimit, decode?_bytes_append hlimit, hscalar,
    Option.bind_some]

/-- Reading goes on behind the bytes of some characters. -/
theorem decode?_characters_append (characters : List Char) (rest : Bytes) :
    decode? (characters.flatMap String.utf8EncodeChar ++ rest) =
      (decode? rest).map (characters ++ ·) := by
  induction characters with
  | nil => simp
  | cons character later ih =>
      rw [List.flatMap_cons, List.append_assoc, decode?_character_append, ih,
        Option.map_map]
      rfl

theorem decode?_encode (text : String) : decode? (encode text) = some text.toList := by
  have hread := decode?_characters_append text.toList []
  rw [List.append_nil] at hread
  rw [encode, hread]
  exact congrArg some (List.append_nil text.toList)

theorem lenient_encode (text : String) : lenient (encode text) = text := by
  unfold lenient
  rw [decode?_encode]
  exact String.ofList_toList

@[simp] theorem encode_append (first second : String) :
    encode (first ++ second) = encode first ++ encode second := by
  unfold encode
  rw [String.toList_append, List.flatMap_append]

/-! ## What can be read -/

/-- A byte that continues a sequence begins none. -/
theorem decode?_continuation {byte : UInt8} (hbyte : (continuation? byte).isSome = true)
    (rest : Bytes) : decode? (byte :: rest) = none := by
  obtain ⟨bits, hbits⟩ := Option.isSome_iff_exists.mp hbyte
  obtain ⟨hsmall, rfl⟩ := eq_ofNat_of_continuation? hbits
  have hlead : (UInt8.ofNat (bits + 0x80)).toNat = bits + 0x80 :=
    toNat_ofNat_of_lt (by omega)
  have hfirst : ¬ bits + 0x80 < 0x80 := by omega
  have hstray : bits + 0x80 < 0xC0 := by omega
  cases rest <;> simp only [decode?, hlead, if_neg hfirst, if_pos hstray]

section

variable {lead : UInt8} {middle low last : Nat}

theorem bytes_two_eq (hlead : 0xC0 ≤ lead.toNat) (hmiddle : middle < 0x40) :
    Form.two.bytes ((lead.toNat - 0xC0) * 0x40 + middle) =
      [lead, .ofNat (middle + 0x80)] := by
  have hfirst : ((lead.toNat - 0xC0) * 0x40 + middle) / 0x40 + 0xC0 = lead.toNat := by omega
  have hsecond : ((lead.toNat - 0xC0) * 0x40 + middle) % 0x40 = middle := by omega
  rw [Form.bytes, hfirst, hsecond, UInt8.ofNat_toNat]

theorem bytes_three_eq (hlead : 0xE0 ≤ lead.toNat) (hmiddle : middle < 0x40)
    (hlow : low < 0x40) :
    Form.three.bytes ((lead.toNat - 0xE0) * 0x1000 + middle * 0x40 + low) =
      [lead, .ofNat (middle + 0x80), .ofNat (low + 0x80)] := by
  let value := (lead.toNat - 0xE0) * 0x1000 + middle * 0x40 + low
  have hfirst : value / 0x1000 + 0xE0 = lead.toNat := by omega
  have hsecond : value / 0x40 % 0x40 = middle := by omega
  have hthird : value % 0x40 = low := by omega
  rw [Form.bytes, hfirst, hsecond, hthird, UInt8.ofNat_toNat]

theorem bytes_four_eq (hlead : 0xF0 ≤ lead.toNat) (hmiddle : middle < 0x40)
    (hlow : low < 0x40) (hlast : last < 0x40) :
    Form.four.bytes
        ((lead.toNat - 0xF0) * 0x40000 + middle * 0x1000 + low * 0x40 + last) =
      [lead, .ofNat (middle + 0x80), .ofNat (low + 0x80), .ofNat (last + 0x80)] := by
  let value := (lead.toNat - 0xF0) * 0x40000 + middle * 0x1000 + low * 0x40 + last
  have hfirst : value / 0x40000 + 0xF0 = lead.toNat := by omega
  have hsecond : value / 0x1000 % 0x40 = middle := by omega
  have hthird : value / 0x40 % 0x40 = low := by omega
  have hfourth : value % 0x40 = last := by omega
  rw [Form.bytes, hfirst, hsecond, hthird, hfourth, UInt8.ofNat_toNat]

variable {rest : Bytes} {characters : List Char}

theorem exists_bytes_two (hlead : 0xC0 ≤ lead.toNat) (hshort : lead.toNat < 0xE0)
    (hread : decode? (lead :: rest) = some characters) :
    ∃ value later, value < Form.two.limit ∧ lead :: rest = Form.two.bytes value ++ later := by
  have hone : ¬ lead.toNat < 0x80 := by omega
  have hstray : ¬ lead.toNat < 0xC0 := by omega
  rcases rest with _ | ⟨second, later⟩
  · simp [decode?, hone, hstray] at hread
  cases hsecond : continuation? second with
  | none => cases later <;> simp [decode?, hone, hstray, hsecond] at hread
  | some middle =>
      obtain ⟨hmiddle, rfl⟩ := eq_ofNat_of_continuation? hsecond
      refine ⟨(lead.toNat - 0xC0) * 0x40 + middle, later, ?_, ?_⟩
      · simp only [Form.limit]
        omega
      · rw [bytes_two_eq hlead hmiddle]
        rfl

theorem exists_bytes_three (hlead : 0xE0 ≤ lead.toNat) (hshort : lead.toNat < 0xF0)
    (hread : decode? (lead :: rest) = some characters) :
    ∃ value later, value < Form.three.limit ∧
      lead :: rest = Form.three.bytes value ++ later := by
  have hone : ¬ lead.toNat < 0x80 := by omega
  have hstray : ¬ lead.toNat < 0xC0 := by omega
  have htwo : ¬ lead.toNat < 0xE0 := by omega
  rcases rest with _ | ⟨second, _ | ⟨third, later⟩⟩
  · simp [decode?, hone, hstray] at hread
  · cases hsecond : continuation? second <;>
      simp [decode?, hone, hstray, htwo, hsecond] at hread
  cases hsecond : continuation? second with
  | none => cases later <;> simp [decode?, hone, hstray, htwo, hsecond] at hread
  | some middle =>
      cases hthird : continuation? third with
      | none => cases later <;> simp [decode?, hone, hstray, htwo, hsecond, hthird] at hread
      | some low =>
          obtain ⟨hmiddle, rfl⟩ := eq_ofNat_of_continuation? hsecond
          obtain ⟨hlow, rfl⟩ := eq_ofNat_of_continuation? hthird
          refine ⟨(lead.toNat - 0xE0) * 0x1000 + middle * 0x40 + low, later, ?_, ?_⟩
          · simp only [Form.limit]
            omega
          · rw [bytes_three_eq hlead hmiddle hlow]
            rfl

theorem exists_bytes_four (hlead : 0xF0 ≤ lead.toNat)
    (hread : decode? (lead :: rest) = some characters) :
    ∃ value later, value < Form.four.limit ∧
      lead :: rest = Form.four.bytes value ++ later := by
  have hone : ¬ lead.toNat < 0x80 := by omega
  have hstray : ¬ lead.toNat < 0xC0 := by omega
  have htwo : ¬ lead.toNat < 0xE0 := by omega
  have hthree : ¬ lead.toNat < 0xF0 := by omega
  rcases rest with _ | ⟨second, _ | ⟨third, _ | ⟨fourth, later⟩⟩⟩
  · simp [decode?, hone, hstray] at hread
  · cases hsecond : continuation? second <;>
      simp [decode?, hone, hstray, htwo, hsecond] at hread
  · cases hsecond : continuation? second <;> cases hthird : continuation? third <;>
      simp [decode?, hone, hstray, htwo, hthree, hsecond, hthird] at hread
  cases hsecond : continuation? second with
  | none => simp [decode?, hone, hstray, htwo, hsecond] at hread
  | some middle =>
      cases hthird : continuation? third with
      | none => simp [decode?, hone, hstray, htwo, hsecond, hthird] at hread
      | some low =>
          cases hfourth : continuation? fourth with
          | none =>
              simp [decode?, hone, hstray, htwo, hthree, hsecond, hthird, hfourth] at hread
          | some last =>
              -- A lead byte has room for more than a scalar value can need.
              rw [decode?_four hlead hsecond hthird hfourth, Option.bind_eq_some_iff] at hread
              obtain ⟨character, hscalar, _⟩ := hread
              have hvalue := (scalar?_eq_some_iff.mp hscalar).2
              have hbound := toNat_lt_of_char character
              obtain ⟨hmiddle, rfl⟩ := eq_ofNat_of_continuation? hsecond
              obtain ⟨hlow, rfl⟩ := eq_ofNat_of_continuation? hthird
              obtain ⟨hlast, rfl⟩ := eq_ofNat_of_continuation? hfourth
              refine ⟨(lead.toNat - 0xF0) * 0x40000 + middle * 0x1000 + low * 0x40 + last,
                later, ?_, ?_⟩
              · simp only [Form.limit]
                omega
              · rw [bytes_four_eq hlead hmiddle hlow hlast]
                rfl

/-- Bytes that can be read begin with a sequence. -/
theorem exists_bytes_of_decode? (hread : decode? (lead :: rest) = some characters) :
    ∃ (form : Form) (value : Nat) (later : Bytes), value < form.limit ∧
      lead :: rest = form.bytes value ++ later := by
  by_cases hone : lead.toNat < 0x80
  · refine ⟨.one, lead.toNat, rest, hone, ?_⟩
    rw [Form.bytes, UInt8.ofNat_toNat, List.singleton_append]
  · by_cases hstray : lead.toNat < 0xC0
    · have hcontinues : (continuation? lead).isSome = true := by
        rw [continuation?, if_pos ⟨by omega, hstray⟩]
        rfl
      rw [decode?_continuation hcontinues] at hread
      cases hread
    · by_cases htwo : lead.toNat < 0xE0
      · exact ⟨.two, exists_bytes_two (by omega) htwo hread⟩
      · by_cases hthree : lead.toNat < 0xF0
        · exact ⟨.three, exists_bytes_three (by omega) hthree hread⟩
        · exact ⟨.four, exists_bytes_four (by omega) hread⟩

end

/-- Bytes that can be read are the bytes of the characters read. -/
theorem eq_flatMap_of_decode? {bytes : Bytes} {characters : List Char}
    (hread : decode? bytes = some characters) :
    bytes = characters.flatMap String.utf8EncodeChar := by
  induction hlength : bytes.length using Nat.strongRecOn
    generalizing bytes characters with
  | _ length ih =>
      cases bytes with
      | nil =>
          cases hread
          rfl
      | cons lead rest =>
          obtain ⟨form, value, later, hvalue, hsplit⟩ := exists_bytes_of_decode? hread
          rw [hsplit] at hread hlength ⊢
          rw [decode?_bytes_append hvalue, Option.bind_eq_some_iff] at hread
          obtain ⟨character, hscalar, hmap⟩ := hread
          obtain ⟨others, hothers, rfl⟩ := Option.map_eq_some_iff.mp hmap
          obtain ⟨hleast, rfl⟩ := scalar?_eq_some_iff.mp hscalar
          have hshorter : later.length < length := by
            rw [← hlength, List.length_append]
            have hbytes : 0 < (form.bytes character.toNat).length := by
              cases form <;> exact Nat.succ_pos _
            omega
          rw [List.flatMap_cons, utf8EncodeChar_eq_bytes hleast hvalue,
            ← ih later.length hshorter hothers rfl]

theorem decode?_eq_some_iff {bytes : Bytes} {text : String} :
    decode? bytes = some text.toList ↔ bytes = encode text := by
  constructor
  · intro hread
    exact eq_flatMap_of_decode? hread
  · intro hbytes
    rw [hbytes, decode?_encode]

end Utf8

end ShaderFamilies
