import ShaderFamilies.Proofs.PartialConfigurations
import ShaderFamilies.Proofs.RefusedNumbers

/-!
# The numbers of a configuration

Each number of a configuration is a field of a section.  A document that gives
one number and nothing else is read as the default configuration with this
number in it, if it is a word, and is refused if it is not.
-/

namespace ShaderFamilies

namespace Document

/-! ## Objects with one member -/

section

variable {α ρ : Type} {writes : α → Bytes → Prop} {schema : Schema ρ} {member : String × α}
  {field : Field ρ} {text : Bytes} {change : ρ → ρ} {why : Cause → Prop}

/-- The only member of an object when it is its turn. -/
theorem ObjectText.turn (hobject : ObjectText writes [member] text) :
    ∃ inside, text = openBrace :: (inside ++ [closeBrace]) ∧
      ∀ rest, Nonempty (Turn writes member true (inside ++ closeBrace :: rest)
        (closeBrace :: rest)) := by
  cases hobject with
  | @braced inside hmembers =>
      cases hmembers with
      | last hmember => exact ⟨inside, rfl, fun rest => hmember.turn .first⟩

theorem ObjectText.takes_member (hobject : ObjectText writes [member] text)
    (hfield : schema.field? member.1 = some field)
    (htakes : ∀ value, writes member.2 value → field.reader.Takes value change) :
    schema.codec.reader.Takes text (change schema.default) := by
  obtain ⟨inside, htext, hturn⟩ := hobject.turn
  intro blanks rest hblanks _
  obtain ⟨turn⟩ := hturn rest
  have hends := ends_blanks_append turn.blanksLast (ends_closeBrace rest)
  have hread := htakes turn.value turn.writes turn.before _ turn.blanksBefore hends
  have hmembers : readMembers schema [] schema.default true (inside ++ closeBrace :: rest) =
      .ok (change schema.default, closeBrace :: rest) := by
    rw [readMembers_named turn.next turn.name, if_neg (by simp),
      readMemberValue_known hfield turn.blanksName, hread]
    exact readMembers_none (nextMember_none turn.blanksLast false rest)
  rw [htext, List.cons_append, List.append_assoc, List.singleton_append]
  change readRecord schema _ = _
  rw [readRecord_brace hblanks, readObject, hmembers]
  rfl

theorem ObjectText.rejects_member (hobject : ObjectText writes [member] text)
    (hfield : schema.field? member.1 = some field)
    (hrejects : ∀ value, writes member.2 value → field.reader.Rejects value why) :
    schema.codec.reader.Rejects text why := by
  obtain ⟨inside, htext, hturn⟩ := hobject.turn
  intro blanks rest hblanks _
  obtain ⟨turn⟩ := hturn rest
  have hends := ends_blanks_append turn.blanksLast (ends_closeBrace rest)
  obtain ⟨failure, hread, hwhy⟩ :=
    hrejects turn.value turn.writes turn.before _ turn.blanksBefore hends
  have hmembers : readMembers schema [] schema.default true (inside ++ closeBrace :: rest) =
      .error (.failed failure) := by
    rw [readMembers_named turn.next turn.name, if_neg (by simp),
      readMemberValue_known hfield turn.blanksName, hread]
  refine ⟨failure, ?_, hwhy⟩
  rw [htext, List.cons_append, List.append_assoc, List.singleton_append]
  change readRecord schema _ = _
  rw [readRecord_brace hblanks, readObject, hmembers]

end

theorem read_of_rejects {α : Type} {codec : Codec α} {document : String}
    {before object after : Bytes} {why : Cause → Prop}
    (hrejects : codec.reader.Rejects object why) (hbefore : Blanks before)
    (hafter : Blanks after) (hdocument : Utf8.encode document = before ++ object ++ after) :
    ∃ fault, read codec document = .error fault ∧ why fault.cause := by
  rw [List.append_assoc] at hdocument
  obtain ⟨failure, hread, hwhy⟩ := hrejects before after hbefore (ends_of_blanks hafter)
  simp only [read]
  rw [hdocument, hread]
  exact ⟨_, rfl, hwhy⟩

end Document

/-! ## The fields -/

open Document

/-- A number of a configuration: its section, its field and how it is set. -/
structure NumericField where
  part : String
  name : String
  set : UInt32 → Configuration → Configuration

def numericFields : List NumericField :=
  [⟨"color", "max_bone_attribs_per_vertex", fun value config =>
      { config with color := { config.color with maxBoneAttribsPerVertex := value } }⟩,
    ⟨"color", "max_bones", fun value config =>
      { config with color := { config.color with maxBones := value } }⟩,
    ⟨"color", "max_point_lights", fun value config =>
      { config with color := { config.color with maxPointLights := value } }⟩,
    ⟨"color", "max_dir_lights", fun value config =>
      { config with color := { config.color with maxDirLights := value } }⟩,
    ⟨"shadow", "max_bone_attribs_per_vertex", fun value config =>
      { config with shadow := { config.shadow with maxBoneAttribsPerVertex := value } }⟩,
    ⟨"shadow", "max_bones", fun value config =>
      { config with shadow := { config.shadow with maxBones := value } }⟩,
    ⟨"dof_blur", "blur_kernel_radius", fun value config =>
      { config with dofBlur := { config.dofBlur with kernelRadius := value } }⟩,
    ⟨"blur", "blur_kernel_radius", fun value config =>
      { config with blur := { config.blur with kernelRadius := value } }⟩,
    ⟨"cubemap", "cubemap_color_out_color_component", fun value config =>
      { config with cubemap := { config.cubemap with colorComponent := value } }⟩,
    ⟨"cubemap", "position_out_color_component", fun value config =>
      { config with cubemap := { config.cubemap with positionComponent := value } }⟩]

/-- No other field of a section is of a kind that has numbers. -/
theorem numericFields_complete :
    numericFields.map (fun field => (field.part, field.name)) =
      Configuration.sections.flatMap fun part =>
        (part.2.filter fun field => field.2 (.integer false 0)).map fun field =>
          (part.1, field.1) :=
  rfl

/-- The schema of the section reads the field as a word and sets it. -/
def NumericField.IsRead (field : NumericField) : Prop :=
  ∃ (ρ : Type) (schema : Schema ρ) (getPart : Configuration → ρ)
    (setPart : ρ → Configuration → Configuration) (get : ρ → UInt32) (set : UInt32 → ρ → ρ),
    Configuration.schema.field? field.part =
        some (.of field.part schema.codec getPart setPart) ∧
      schema.field? field.name = some (.of field.name wordCodec get set) ∧
      ∀ word, field.set word {} = setPart (set word schema.default) {}

theorem numericFields_isRead : ∀ field ∈ numericFields, field.IsRead := by
  simp only [numericFields, List.forall_mem_cons, List.not_mem_nil, false_implies, implies_true,
    and_true]
  and_intros
  all_goals exact ⟨_, _, _, _, _, _, rfl, rfl, fun _ => rfl⟩

/-! ## Reading one number -/

section

variable {field : NumericField} {negative : Bool} {magnitude : Nat} {document : String}

theorem NumericField.IsRead.takes (hread : field.IsRead) {word : UInt32}
    (hdocument : DocumentText
      [(field.part, .record [(field.name, .integer false word.toNat)])] document) :
    Configuration.read document = .ok (field.set word {}) := by
  obtain ⟨ρ, schema, getPart, setPart, get, set, hpart, hname, hset⟩ := hread
  obtain ⟨before, object, after, hbefore, hobject, hafter, htext⟩ := hdocument
  have hword {text : Bytes} (hnumber : PlainText (.integer false word.toNat) text) :
      wordReader.Takes text word := by
    cases hnumber with
    | natural => simpa using wordReader_takes word.toNat_lt
  have hsection {text : Bytes}
      (hrecord : ValueText (.record [(field.name, .integer false word.toNat)]) text) :
      schema.codec.reader.Takes text (set word schema.default) := by
    cases hrecord with
    | record hrecord =>
        exact hrecord.takes_member hname fun text hnumber => (hword hnumber).map set
  have hconfig : Configuration.codec.reader.Takes object (setPart (set word schema.default) {}) :=
    hobject.takes_member hpart fun text hrecord => (hsection hrecord).map setPart
  rw [hset, Configuration.read]
  exact read_of_takes hconfig hbefore hafter htext

theorem NumericField.IsRead.rejects (hread : field.IsRead)
    (hrefused : negative = true ∨ UInt32.size ≤ magnitude)
    (hdocument : DocumentText
      [(field.part, .record [(field.name, .integer negative magnitude)])] document) :
    ∃ fault, Configuration.read document = .error fault ∧
      RefusesNumber negative magnitude fault.cause := by
  obtain ⟨ρ, schema, getPart, setPart, get, set, hpart, hname, _⟩ := hread
  obtain ⟨before, object, after, hbefore, hobject, hafter, htext⟩ := hdocument
  have hsection {text : Bytes}
      (hrecord : ValueText (.record [(field.name, .integer negative magnitude)]) text) :
      schema.codec.reader.Rejects text (RefusesNumber negative magnitude) := by
    cases hrecord with
    | record hrecord =>
        exact hrecord.rejects_member hname fun text hnumber =>
          (wordReader_rejects hnumber hrefused).map set
  have hconfig : Configuration.codec.reader.Rejects object (RefusesNumber negative magnitude) :=
    hobject.rejects_member hpart fun text hrecord => (hsection hrecord).map setPart
  exact read_of_rejects hconfig hbefore hafter htext

end

/-- A document that gives one number is read as the default configuration with the
number in its field, if it has no sign and at most 32 bits; any other number is
refused, whatever its length. -/
theorem Configuration.ofDocument_number (field : NumericField) (hfield : field ∈ numericFields)
    (negative : Bool) (magnitude : Nat) (document : String)
    (hdocument : DocumentText
      [(field.part, .record [(field.name, .integer negative magnitude)])] document) :
    (negative = false → magnitude ≤ 4294967295 →
      ∃ word : UInt32, word.toNat = magnitude ∧ ofDocument document = .ok (field.set word {})) ∧
    (negative = true ∨ 4294967295 < magnitude →
      ∃ fault, ofDocument document = .error (.configuration (.document fault)) ∧
        RefusesNumber negative magnitude fault.cause) := by
  have hread := numericFields_isRead field hfield
  constructor
  · intro hsign hmagnitude
    subst hsign
    have hword : (UInt32.ofNat magnitude).toNat = magnitude :=
      UInt32.toNat_ofNat_of_lt' (Nat.lt_succ_of_le hmagnitude)
    refine ⟨UInt32.ofNat magnitude, hword, ?_⟩
    rw [← hword] at hdocument
    rw [ofDocument, hread.takes hdocument]
    rfl
  · intro hrefused
    obtain ⟨fault, hfault, hwhy⟩ := hread.rejects hrefused hdocument
    refine ⟨fault, ?_, hwhy⟩
    rw [ofDocument, hfault]
    rfl

/-- A number in a document without blanks. -/
theorem documentText_number {part name : String} (hpart : Unescaped part)
    (hname : Unescaped name) (magnitude : Nat) :
    DocumentText [(part, .record [(name, .integer false magnitude)])]
      ("\x7b" ++ quoted part ++ ":\x7b" ++ quoted name ++ ":" ++ toString magnitude ++
        "\x7d\x7d") := by
  have hsection : ValueText (.record [(name, .integer false magnitude)]) _ :=
    .record (.braced (.last (.named blanks_nil hname.stringText blanks_nil blanks_nil
      (.natural magnitude) blanks_nil)))
  refine ⟨[], _, [], blanks_nil, .braced (.last (.named blanks_nil hpart.stringText
    blanks_nil blanks_nil hsection blanks_nil)), blanks_nil, ?_⟩
  have hopen : Utf8.encode "\x7b" = [openBrace] := by decide
  have hbetween : Utf8.encode ":\x7b" = [colon, openBrace] := by decide
  have hcolon : Utf8.encode ":" = [colon] := by decide
  have hclose : Utf8.encode "\x7d\x7d" = [closeBrace, closeBrace] := by decide
  simp [hopen, hbetween, hcolon, hclose, numeral]

/-- The greatest word, and a number that would be the default without its high
bits. -/
theorem Configuration.ofDocument_number_bones :
    ofDocument "\x7b\"color\":\x7b\"max_bones\":4294967295\x7d\x7d" =
        .ok { color := { maxBones := 4294967295 } } ∧
      ∃ fault, ofDocument "\x7b\"color\":\x7b\"max_bones\":18446744073709551680\x7d\x7d" =
        .error (.configuration (.document fault)) ∧
          RefusesNumber false 18446744073709551680 fault.cause := by
  have hbones : (⟨"color", "max_bones", fun value config =>
      { config with color := { config.color with maxBones := value } }⟩ : NumericField) ∈
        numericFields := .tail _ (.head _)
  have hdocument (magnitude : Nat) := documentText_number
    (by decide : Unescaped "color") (by decide : Unescaped "max_bones") magnitude
  constructor
  · have hread := ofDocument_number _ hbones false 4294967295 _ (hdocument 4294967295)
    obtain ⟨word, hword, hread⟩ := hread.1 rfl (by decide)
    obtain rfl : word = 4294967295 := UInt32.toNat_inj.mp hword
    exact hread
  · have hread := ofDocument_number _ hbones false 18446744073709551680 _ (hdocument _)
    exact hread.2 (Or.inr (by decide))

end ShaderFamilies
