import ShaderFamilies.Proofs.ByteText
import ShaderFamilies.Proofs.MarkerSearch

/-!
# The marker in the bytes of a file

The marker of a text stands where its bytes stand in the file, whether the file
is valid UTF-8 or is read one character per byte.  So a block takes the place of
the first of these bytes.
-/

namespace ShaderFamilies

namespace Utf8

/-! ## Valid bytes -/

theorem encode_injective : Function.Injective encode := by
  intro first second heq
  rw [← lenient_encode first, heq, lenient_encode]

/-- The rest of an encoded text, behind the bytes of a text, is encoded. -/
theorem split_of_encode_append {text first : String} {rest : Bytes}
    (hbytes : encode text = encode first ++ rest) :
    ∃ later, text = first ++ later ∧ rest = encode later := by
  have hread := decode?_encode text
  rw [hbytes, encode, decode?_characters_append, Option.map_eq_some_iff] at hread
  obtain ⟨characters, hrest, htext⟩ := hread
  refine ⟨String.ofList characters, ?_, ?_⟩
  · rw [← String.toList_inj, ← htext]
    simp
  · rw [← decode?_eq_some_iff, String.toList_ofList]
    exact hrest

theorem exists_lead_of_ne_empty {text : String} (hne : text ≠ "") :
    ∃ lead tail, encode text = lead :: tail ∧ ¬ Continues lead := by
  have hcharacters : text.toList ≠ [] := by
    intro hnil
    exact hne (String.toList_inj.mp hnil)
  obtain ⟨character, others, htext⟩ := List.exists_cons_of_ne_nil hcharacters
  obtain ⟨form, hleast, hlimit⟩ := exists_form character
  obtain ⟨lead, tail, hbytes, _⟩ := form.exists_lead character.toNat
  refine ⟨lead, tail ++ others.flatMap String.utf8EncodeChar, ?_,
    (Form.lead_bytes hlimit hbytes).1⟩
  rw [encode, htext, List.flatMap_cons, utf8EncodeChar_eq_bytes hleast hlimit, hbytes,
    List.cons_append]

/-- An encoded text has the bytes of another text only where it has that text. -/
theorem split_at_encode {text pattern : String} (hpattern : pattern ≠ "")
    {before after : Bytes} (hbytes : encode text = before ++ encode pattern ++ after) :
    ∃ first last, text = first ++ pattern ++ last ∧ before = encode first ∧
      after = encode last := by
  obtain ⟨lead, tail, hlead, hbegins⟩ := exists_lead_of_ne_empty hpattern
  rw [hlead, List.append_assoc, List.cons_append] at hbytes
  obtain ⟨earlier, later, htext, hbefore, hlater⟩ := split_of_not_continues hbytes hbegins
  have hsecond : encode (String.ofList later) = encode pattern ++ after := by
    rw [encode, String.toList_ofList, ← hlater, hlead, List.cons_append]
  obtain ⟨last, hlast, hafter⟩ := split_of_encode_append hsecond
  refine ⟨String.ofList earlier, last, ?_, ?_, hafter⟩
  · rw [String.append_assoc, ← hlast, ← String.toList_inj, htext]
    simp
  · rw [encode, String.toList_ofList]
    exact hbefore

end Utf8

/-! ## First occurrences -/

section

variable {α β : Type}

/-- A pattern found at an offset, and nowhere before it, ends what it stands in. -/
theorem onlyAtEnd_take {pattern items : List α} {offset : Nat}
    (hbegins : pattern <+: items.drop offset)
    (hfirst : ∀ earlier < offset, ¬ pattern <+: items.drop earlier) :
    OnlyAtEnd pattern (items.take offset) := by
  intro earlier later heq
  obtain ⟨rest, hrest⟩ := hbegins
  have hitems : items = earlier ++ (pattern ++ (later ++ rest)) := by
    calc items = items.take offset ++ items.drop offset := (List.take_append_drop _ _).symm
      _ = items.take offset ++ pattern ++ rest := by rw [← hrest, List.append_assoc]
      _ = earlier ++ pattern ++ later ++ rest := by rw [heq]
      _ = earlier ++ (pattern ++ (later ++ rest)) := by simp only [List.append_assoc]
  have hfound : pattern <+: items.drop earlier.length := by
    rw [hitems, List.drop_left]
    exact List.prefix_append _ _
  have hnotEarlier : ¬ earlier.length < offset := by
    intro hearlier
    exact hfirst earlier.length hearlier hfound
  have hlength := congrArg List.length heq
  simp only [List.length_append, List.length_take] at hlength
  exact List.length_eq_zero_iff.mp (by omega)

theorem OnlyAtEnd.map {view : α → β} (hview : Function.Injective view)
    {pattern before : List α} (hend : OnlyAtEnd pattern before) :
    OnlyAtEnd (pattern.map view) (before.map view) := by
  intro earlier later heq
  rw [← List.map_append] at heq
  obtain ⟨found, rest, hsplit, hfound, hrest⟩ := List.map_eq_append_iff.mp heq
  obtain ⟨start, same, rfl, _, hsame⟩ := List.map_eq_append_iff.mp hfound
  rw [hview.list_map hsame] at hsplit
  rw [← hrest, hend start rest hsplit, List.map_nil]

theorem isInfix_map_iff {view : α → β} (hview : Function.Injective view)
    {pattern items : List α} : pattern.map view <:+: items.map view ↔ pattern <:+: items := by
  rw [List.infix_map_iff]
  constructor
  · intro hfound
    obtain ⟨other, hother, hsame⟩ := hfound
    rwa [hview.list_map hsame]
  · intro hfound
    exact ⟨pattern, hfound, rfl⟩

end

/-! ## The bytes of the marker -/

def markerBytes : Bytes :=
  [0x23, 0x61, 0x6C, 0x67, 0x64, 0x65, 0x66]

theorem encode_definitionsMarker : Utf8.encode definitionsMarker = markerBytes := by
  decide

theorem byteCharacters_markerBytes :
    Utf8.byteCharacters markerBytes = definitionsMarker.toList := by
  decide

/-- The bytes of the marker begin at this offset, and at none before it. -/
structure FirstMarkerAt (bytes : Bytes) (offset : Nat) : Prop where
  begins : markerBytes <+: bytes.drop offset
  first : ∀ earlier < offset, ¬ markerBytes <+: bytes.drop earlier

theorem FirstMarkerAt.split {bytes : Bytes} {offset : Nat}
    (hfirst : FirstMarkerAt bytes offset) :
    bytes = bytes.take offset ++ markerBytes ++ bytes.drop (offset + markerBytes.length) := by
  obtain ⟨rest, hrest⟩ := hfirst.begins
  have hbehind : bytes.drop (offset + markerBytes.length) = rest := by
    rw [← List.drop_drop, ← hrest, List.drop_left]
  rw [hbehind, List.append_assoc, hrest, List.take_append_drop]

theorem FirstMarkerAt.onlyAtEnd {bytes : Bytes} {offset : Nat}
    (hfirst : FirstMarkerAt bytes offset) : OnlyAtEnd markerBytes (bytes.take offset) :=
  onlyAtEnd_take hfirst.begins hfirst.first

theorem byteCharacter_injective :
    Function.Injective fun byte : UInt8 => Char.ofNat byte.toNat := by
  intro first second heq
  have hvalues := Utf8.toNat_byteCharacters [first]
  have hothers := Utf8.toNat_byteCharacters [second]
  simp only [Utf8.byteCharacters, List.map_cons, List.map_nil] at hvalues hothers heq
  rw [heq, hothers] at hvalues
  exact UInt8.toNat_inj.mp (List.cons.inj hvalues).1.symm

/-! ## Files -/

section

variable {bytes : Bytes} {offset : Nat}

theorem marked_of_encode {text : String} :
    Marked text ↔ markerBytes <:+: Utf8.encode text := by
  rw [← encode_definitionsMarker]
  constructor
  · intro hmarked
    obtain ⟨before, after, rfl⟩ := hmarked
    rw [Utf8.encode_append, Utf8.encode_append]
    exact List.infix_append _ _ _
  · intro hfound
    obtain ⟨before, after, hbytes⟩ := hfound
    obtain ⟨first, last, htext, _⟩ := Utf8.split_at_encode (by decide) hbytes.symm
    exact ⟨first, last, htext⟩

theorem marked_byteCharacters :
    Marked (String.ofList (Utf8.byteCharacters bytes)) ↔ markerBytes <:+: bytes := by
  rw [marked_iff_isInfix, String.toList_ofList, ← byteCharacters_markerBytes]
  exact isInfix_map_iff byteCharacter_injective

/-- A block in the place of the first marker of a valid file. -/
theorem FirstMarkerAt.apply_encode {text : String}
    (hfirst : FirstMarkerAt (Utf8.encode text) offset) (block : DefineBlock) :
    ∃ before after, (Utf8.encode text).take offset = Utf8.encode before ∧
      (Utf8.encode text).drop (offset + markerBytes.length) = Utf8.encode after ∧
      block.apply text = before ++ block.render ++ after := by
  have hsplit := hfirst.split
  rw [← encode_definitionsMarker] at hsplit
  obtain ⟨before, after, htext, hbefore, hafter⟩ :=
    Utf8.split_at_encode (by decide) hsplit
  rw [encode_definitionsMarker] at hafter
  refine ⟨before, after, hbefore, hafter, ?_⟩
  rw [htext]
  apply block.apply_of_firstMarkerAfter
  intro earlier later heq
  have hbytes := congrArg Utf8.encode heq
  simp only [Utf8.encode_append, encode_definitionsMarker] at hbytes
  rw [← hbefore] at hbytes
  exact Utf8.encode_injective (hfirst.onlyAtEnd _ _ hbytes)

/-- A block in the place of the first marker of a file that is read one character
per byte. -/
theorem FirstMarkerAt.apply_byteCharacters (hfirst : FirstMarkerAt bytes offset)
    (block : DefineBlock) :
    block.apply (String.ofList (Utf8.byteCharacters bytes)) =
      String.ofList (Utf8.byteCharacters (bytes.take offset)) ++ block.render ++
        String.ofList (Utf8.byteCharacters (bytes.drop (offset + markerBytes.length))) := by
  let before := String.ofList (Utf8.byteCharacters (bytes.take offset))
  let after :=
    String.ofList (Utf8.byteCharacters (bytes.drop (offset + markerBytes.length)))
  have htext : String.ofList (Utf8.byteCharacters bytes) =
      before ++ definitionsMarker ++ after := by
    rw [← String.toList_inj]
    conv_lhs => rw [hfirst.split]
    simp only [before, after, String.toList_append, String.toList_ofList,
      ← byteCharacters_markerBytes]
    simp only [Utf8.byteCharacters, List.map_append]
  rw [htext]
  apply block.apply_of_firstMarkerAfter
  rw [firstMarkerAfter_iff, String.toList_ofList, ← byteCharacters_markerBytes]
  exact hfirst.onlyAtEnd.map byteCharacter_injective

end

/-- A text that was read from a file has the marker when the file has its bytes.
A block replaces the first of them, whatever it holds itself: the bytes before and
after are read as the whole file is. -/
theorem apply_lenient (bytes : Bytes) :
    (Marked (Utf8.lenient bytes) ↔ markerBytes <:+: bytes) ∧
      ∀ offset, FirstMarkerAt bytes offset → ∀ block : DefineBlock,
        (∀ text, bytes = Utf8.encode text →
          ∃ before after, bytes.take offset = Utf8.encode before ∧
            bytes.drop (offset + markerBytes.length) = Utf8.encode after ∧
            block.apply (Utf8.lenient bytes) = before ++ block.render ++ after) ∧
        ((∀ text, bytes ≠ Utf8.encode text) →
          block.apply (Utf8.lenient bytes) =
            String.ofList (Utf8.byteCharacters (bytes.take offset)) ++ block.render ++
              String.ofList
                (Utf8.byteCharacters (bytes.drop (offset + markerBytes.length)))) := by
  constructor
  · by_cases hencoded : ∃ text, bytes = Utf8.encode text
    · obtain ⟨text, rfl⟩ := hencoded
      rw [Utf8.lenient_encode]
      exact marked_of_encode
    · rw [Utf8.lenient_of_not_encoded (not_exists.mp hencoded)]
      exact marked_byteCharacters
  · intro offset hfirst block
    constructor
    · intro text hbytes
      subst hbytes
      rw [Utf8.lenient_encode]
      exact hfirst.apply_encode block
    · intro hbytes
      rw [Utf8.lenient_of_not_encoded hbytes]
      exact hfirst.apply_byteCharacters block

/-- A file with a stray byte before the marker, and a block that holds the marker
itself. -/
theorem apply_lenient_stray :
    FirstMarkerAt (0xE9 :: markerBytes) 1 ∧
      (∀ text, 0xE9 :: markerBytes ≠ Utf8.encode text) ∧
      (DefineBlock.empty.flag definitionsMarker).apply
          (Utf8.lenient (0xE9 :: markerBytes)) =
        "é" ++ "#define #algdef\n" ++ "" := by
  have hfirst : FirstMarkerAt (0xE9 :: markerBytes) 1 := ⟨by decide, by decide⟩
  have hstray : ∀ text, 0xE9 :: markerBytes ≠ Utf8.encode text := by
    intro text hbytes
    have hread := Utf8.decode?_eq_some_iff.mpr hbytes
    rw [show Utf8.decode? (0xE9 :: markerBytes) = none by decide] at hread
    cases hread
  exact ⟨hfirst, hstray, ((apply_lenient _).2 1 hfirst _).2 hstray⟩

end ShaderFamilies
