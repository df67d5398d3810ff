import ShaderFamilies.DocumentRecord
import ShaderFamilies.Proofs.PlainReading

/-!
# Reading objects

The members of an object are read one after the other.  What was read so far
is told by a description of a list of members, so a reader of records is right
when each member takes the description of the members before it to that of
these members and itself.
-/

namespace ShaderFamilies

namespace Document

variable {α ρ : Type}

/-! ## Between the values -/

theorem ends_blanks_append {blanks rest : Bytes} (hblanks : Blanks blanks)
    (hends : Ends rest) : Ends (blanks ++ rest) := by
  cases blanks with
  | nil => exact hends
  | cons byte blanks =>
      intro first hfirst
      cases hfirst
      exact Or.inl (hblanks byte List.mem_cons_self)

theorem ends_comma (rest : Bytes) : Ends (comma :: rest) := by
  intro first hfirst
  cases hfirst
  exact Or.inr (Or.inl rfl)

theorem ends_closeBrace (rest : Bytes) : Ends (closeBrace :: rest) := by
  intro first hfirst
  cases hfirst
  exact Or.inr (Or.inr rfl)

theorem expectColon_append {blanks : Bytes} (hblanks : Blanks blanks) (rest : Bytes) :
    expectColon (blanks ++ colon :: rest) = .ok rest := by
  rw [expectColon, skipBlank_append_cons hblanks (by decide)]
  rfl

/-- The text leads to the members inside of an object: at once if they are the
first, behind a comma if they are not. -/
inductive LeadsTo (inside : Bytes) : Bool → Bytes → Prop
  | first : LeadsTo inside true inside
  | later {blanks : Bytes} : Blanks blanks → LeadsTo inside false (blanks ++ comma :: inside)

theorem LeadsTo.nextMember {before inside text : Bytes} {first : Bool}
    (hbefore : Blanks before)
    (hleads : LeadsTo (before ++ quoteMark :: inside) first text) :
    nextMember first text = .ok (.named inside) := by
  cases hleads with
  | first =>
      rw [Document.nextMember, skipBlank_append_cons hbefore (by decide)]
      rfl
  | later hblanks =>
      rw [Document.nextMember, skipBlank_append_cons hblanks (by decide)]
      change expectName (skipBlank (before ++ quoteMark :: inside)) = _
      rw [skipBlank_append_cons hbefore (by decide)]
      rfl

theorem nextMember_none {blanks : Bytes} (hblanks : Blanks blanks) (first : Bool)
    (rest : Bytes) :
    nextMember first (blanks ++ closeBrace :: rest) = .ok (.none (closeBrace :: rest)) := by
  rw [nextMember, skipBlank_append_cons hblanks (by decide)]
  rfl

/-! ## Members -/

theorem Schema.field?_eq_some {schema : Schema ρ} {name : String} {field : Field ρ}
    (hfield : schema.field? name = some field) :
    field ∈ schema.fields ∧ field.name = name :=
  ⟨List.mem_of_find?_eq_some hfield, by simpa using List.find?_some hfield⟩

theorem Schema.field?_eq_none {schema : Schema ρ} {name : String}
    (hfield : schema.field? name = none) : ∀ field ∈ schema.fields, name ≠ field.name := by
  intro field hmem hname
  have hother := List.find?_eq_none.mp hfield field hmem
  simp [hname] at hother

/-- Wherever the text stands, the reader finds a field in it that stands twice. -/
def Reader.Refuses (reader : Reader α) (text : Bytes) : Prop :=
  ∀ blanks rest, Blanks blanks → Ends rest →
    ∃ name left, reader.read (blanks ++ (text ++ rest)) = .error ⟨.duplicateField name, left⟩

theorem Reader.Refuses.map {β : Type} {reader : Reader α} {text : Bytes}
    (hrefuses : reader.Refuses text) (change : α → β) : (reader.map change).Refuses text := by
  intro blanks rest hblanks hends
  obtain ⟨name, left, hread⟩ := hrefuses blanks rest hblanks hends
  refine ⟨name, left, ?_⟩
  simp only [Reader.map]
  rw [hread]

/-- A member is read, and the change that it makes takes the description of any
members before it to that of these members and itself. -/
def Schema.Takes (schema : Schema ρ) (described : List (String × α) → ρ)
    (member : String × α) (text : Bytes) : Prop :=
  match schema.field? member.1 with
  | some field => ∃ change, field.reader.Takes text change ∧
      ∀ done : List (String × α), member.1 ∉ done.map (·.1) →
        change (described done) = described (done ++ [member])
  | none => Skips text ∧ ∀ done, described (done ++ [member]) = described done

/-- A member is not read because of a field that stands twice in it. -/
def Schema.Refuses (schema : Schema ρ) (name : String) (text : Bytes) : Prop :=
  ∃ field, schema.field? name = some field ∧ field.reader.Refuses text

/-- A field that stands twice ended the reading. -/
def FoundTwice (result : Except Halt (ρ × Bytes)) : Prop :=
  (∃ name rest, result = .error (.duplicate name rest)) ∨
    ∃ name left, result = .error (.failed ⟨.duplicateField name, left⟩)

section

variable {schema : Schema ρ} {seen : List String} {name : String} {record : ρ}
  {first : Bool} {text after inside : Bytes}

theorem readMembers_named (hnext : nextMember first text = .ok (.named inside))
    (hname : readString inside = .ok (name, after)) :
    readMembers schema seen record first text =
      if (schema.field? name).isSome && seen.contains name then .error (.duplicate name after)
      else
        match readMemberValue (schema.field? name) after with
        | .error failure => .error (.failed failure)
        | .ok (change, rest) =>
            readMembers schema (name :: seen) (change record) false rest := by
  rw [readMembers]
  split
  · next failure hfound => rw [hnext] at hfound; cases hfound
  · next rest hfound => rw [hnext] at hfound; cases hfound
  · next found hfound =>
      rw [hnext] at hfound
      cases hfound
      split
      · next failure hread => rw [hname] at hread; cases hread
      · next foundName rest hread =>
          rw [hname] at hread
          cases hread
          split
          · rfl
          · split
            · next failure hvalue => rw [hvalue]
            · next change rest hvalue => simp only [hvalue]

theorem readMembers_none {rest : Bytes} (hnext : nextMember first text = .ok (.none rest)) :
    readMembers schema seen record first text = .ok (record, rest) := by
  rw [readMembers]
  split
  · next failure hfound => rw [hnext] at hfound; cases hfound
  · next left hfound =>
      rw [hnext] at hfound
      cases hfound
      rfl
  · next found hfound => rw [hnext] at hfound; cases hfound

end

theorem readMemberValue_known {schema : Schema ρ} {name : String} {field : Field ρ}
    (hfield : schema.field? name = some field) {blanks : Bytes} (hblanks : Blanks blanks)
    (text : Bytes) :
    readMemberValue (schema.field? name) (blanks ++ colon :: text) = field.reader.read text := by
  rw [readMemberValue, expectColon_append hblanks, hfield]

theorem readMemberValue_unknown {schema : Schema ρ} {name : String}
    (hfield : schema.field? name = none) {blanks : Bytes} (hblanks : Blanks blanks)
    {text rest : Bytes} (hskip : skipValue text = .ok rest) :
    readMemberValue (schema.field? name) (blanks ++ colon :: text) = .ok (id, rest) := by
  rw [readMemberValue, expectColon_append hblanks, hfield]
  simp only [hskip]

/-! ## One member -/

section

variable {writes : α → Bytes → Prop} {schema : Schema ρ}
  {described : List (String × α) → ρ} {seen : List String} {first : Bool}
  {member : String × α} {text inside rest : Bytes} {done : List (String × α)}

/-- Where the parts of a member stand when it is its turn. -/
structure Turn (writes : α → Bytes → Prop) (member : String × α) (first : Bool)
    (text rest : Bytes) where
  named : Bytes
  blanks : Bytes
  before : Bytes
  value : Bytes
  last : Bytes
  next : nextMember first text = .ok (.named named)
  name : readString named =
    .ok (member.1, blanks ++ colon :: (before ++ (value ++ (last ++ rest))))
  blanksName : Blanks blanks
  blanksBefore : Blanks before
  writes : writes member.2 value
  blanksLast : Blanks last

theorem MemberText.turn (hmember : MemberText writes member inside)
    (hleads : LeadsTo (inside ++ rest) first text) :
    Nonempty (Turn writes member first text rest) := by
  cases hmember with
  | @named name value before middle after last nameText inside hbefore hname hmiddle hafter
      hvalue hlast =>
      obtain ⟨nameInside, hinside, hread⟩ := readString_append hname
        (middle ++ colon :: (after ++ (inside ++ (last ++ rest))))
      have hnext : LeadsTo (before ++ quoteMark ::
          (nameInside ++ (middle ++ colon :: (after ++ (inside ++ (last ++ rest))))))
          first text := by
        rw [hinside] at hleads
        simpa using hleads
      exact ⟨_, middle, after, inside, last, hnext.nextMember hbefore, hread, hmiddle, hafter,
        hvalue, hlast⟩

theorem Turn.repeated (turn : Turn writes member first text rest) (record : ρ)
    (hknown : (schema.field? member.1).isSome = true) (hseen : member.1 ∈ seen) :
    FoundTwice (readMembers schema seen record first text) := by
  rw [readMembers_named turn.next turn.name, if_pos (by simp [hknown, hseen])]
  exact Or.inl ⟨member.1, _, rfl⟩

theorem Turn.refused (turn : Turn writes member first text rest) (hends : Ends rest)
    (record : ρ) (hrefuses : schema.Refuses member.1 turn.value) :
    FoundTwice (readMembers schema seen record first text) := by
  obtain ⟨field, hfield, hreader⟩ := hrefuses
  rw [readMembers_named turn.next turn.name]
  split
  · exact Or.inl ⟨member.1, _, rfl⟩
  · obtain ⟨name, left, hread⟩ := hreader turn.before (turn.last ++ rest) turn.blanksBefore
      (ends_blanks_append turn.blanksLast hends)
    rw [readMemberValue_known hfield turn.blanksName, hread]
    exact Or.inr ⟨name, left, rfl⟩

theorem Turn.taken (turn : Turn writes member first text rest) (hends : Ends rest)
    (htakes : schema.Takes described member turn.value)
    (hnew : (schema.field? member.1).isSome = true → member.1 ∉ done.map (·.1))
    (hseen : ∀ name, name ∈ seen ↔ name ∈ done.map (·.1)) :
    readMembers schema seen (described done) first text =
      readMembers schema (member.1 :: seen) (described (done ++ [member])) false
        (turn.last ++ rest) := by
  have hlast := ends_blanks_append turn.blanksLast hends
  rw [readMembers_named turn.next turn.name]
  unfold Schema.Takes at htakes
  cases hfield : schema.field? member.1 with
  | none =>
      rw [hfield] at htakes
      obtain ⟨hskips, hdescribed⟩ := htakes
      have hvalue := readMemberValue_unknown hfield turn.blanksName
        (hskips.skipValue turn.blanksBefore hlast)
      rw [hfield] at hvalue
      rw [hvalue, hdescribed]
      rfl
  | some field =>
      rw [hfield] at htakes
      obtain ⟨change, hreader, hdescribed⟩ := htakes
      have hfresh : member.1 ∉ done.map (·.1) := hnew (by rw [hfield]; rfl)
      have hvalue := readMemberValue_known hfield turn.blanksName
        (turn.before ++ (turn.value ++ (turn.last ++ rest)))
      rw [hreader turn.before _ turn.blanksBefore hlast, hfield] at hvalue
      rw [if_neg (by simp [hseen, hfresh]), hvalue, ← hdescribed done hfresh]

end

/-! ## All members -/

/-- The names of known fields among those of the members. -/
def Schema.known (schema : Schema ρ) (members : List (String × α)) : List String :=
  (members.map (·.1)).filter fun name => (schema.field? name).isSome

theorem Schema.known_append (schema : Schema ρ) (first second : List (String × α)) :
    schema.known (first ++ second) = schema.known first ++ schema.known second := by
  simp [known]

theorem Schema.not_mem_of_nodup {schema : Schema ρ} {done rest : List (String × α)}
    {member : String × α} (hnodup : (schema.known (done ++ member :: rest)).Nodup)
    (hknown : (schema.field? member.1).isSome = true) : member.1 ∉ done.map (·.1) := by
  intro hmem
  rw [schema.known_append, List.nodup_append] at hnodup
  have hdone : member.1 ∈ schema.known done := List.mem_filter.mpr ⟨hmem, hknown⟩
  have hmember : member.1 ∈ schema.known (member :: rest) :=
    List.mem_filter.mpr ⟨List.mem_cons_self, hknown⟩
  exact hnodup.2.2 member.1 hdone member.1 hmember rfl

section

variable {writes : α → Bytes → Prop} {schema : Schema ρ}
  {described : List (String × α) → ρ} {seen : List String} {first : Bool}
  {members done : List (String × α)} {text inside rest : Bytes}

/-- The names that were seen, after one member more. -/
theorem mem_seen_cons {member : String × α}
    (hseen : ∀ name, name ∈ seen ↔ name ∈ done.map (·.1)) (name : String) :
    name ∈ member.1 :: seen ↔ name ∈ (done ++ [member]).map (·.1) := by
  simp [hseen, or_comm]

theorem MembersText.readMembers_takes (hmembers : MembersText writes members inside)
    (hleads : LeadsTo (inside ++ closeBrace :: rest) first text)
    (hfirst : members = [] → first = true)
    (htakes : ∀ member ∈ members, ∀ value, writes member.2 value →
      schema.Takes described member value)
    (hnodup : (schema.known (done ++ members)).Nodup)
    (hseen : ∀ name, name ∈ seen ↔ name ∈ done.map (·.1)) :
    readMembers schema seen (described done) first text =
      .ok (described (done ++ members), closeBrace :: rest) := by
  -- the members read so far go over to `done`, and the record is what they describe
  induction hmembers generalizing first text seen done with
  | none hblanks =>
      obtain rfl := hfirst rfl
      cases hleads
      rw [List.append_nil]
      exact readMembers_none (nextMember_none hblanks true rest)
  | @last member inside hmember =>
      obtain ⟨turn⟩ := hmember.turn hleads
      have htaken := turn.taken (ends_closeBrace rest)
        (htakes member List.mem_cons_self turn.value turn.writes)
        (Schema.not_mem_of_nodup hnodup) hseen
      rw [htaken]
      exact readMembers_none (nextMember_none turn.blanksLast false rest)
  | @more member next others inside later hmember hlater ih =>
      rw [List.append_assoc, List.cons_append] at hleads
      obtain ⟨turn⟩ := hmember.turn hleads
      have htaken := turn.taken (ends_comma _)
        (htakes member List.mem_cons_self turn.value turn.writes)
        (Schema.not_mem_of_nodup hnodup) hseen
      rw [List.append_cons] at hnodup ⊢
      rw [htaken]
      apply ih (LeadsTo.later turn.blanksLast)
      · intro hnone
        cases hnone
      · intro other hmem
        exact htakes other (List.mem_cons_of_mem member hmem)
      · exact hnodup
      · exact mem_seen_cons hseen

/-- Behind some members there is a known field that stands twice among all of
them, or a member that is refused. -/
def Schema.HasFault (schema : Schema ρ) (writes : α → Bytes → Prop)
    (done members : List (String × α)) : Prop :=
  ¬ (schema.known (done ++ members)).Nodup ∨
    ∃ member ∈ members, ∀ value, writes member.2 value → schema.Refuses member.1 value

theorem Schema.nodup_append_singleton {member : String × α}
    (hdone : (schema.known done).Nodup)
    (hnew : (schema.field? member.1).isSome = true → member.1 ∉ done.map (·.1)) :
    (schema.known (done ++ [member])).Nodup := by
  rw [schema.known_append, List.nodup_append]
  refine ⟨hdone, ?_, ?_⟩
  · exact List.Pairwise.filter _ (List.pairwise_singleton _ member.1)
  · intro name hname other hother
    obtain ⟨hmem, hknown⟩ := List.mem_filter.mp hother
    rw [List.map_singleton, List.mem_singleton] at hmem
    subst hmem
    intro hsame
    rw [hsame] at hname
    exact hnew hknown (List.mem_filter.mp hname).1

/-- With a fault ahead, the turn of a member ends the reading, or the member is
read and the fault is still ahead. -/
theorem Turn.foundTwice_or_taken {member : String × α} {others : List (String × α)}
    (turn : Turn writes member first text rest) (hends : Ends rest)
    (hreads : schema.Takes described member turn.value ∨
      schema.Refuses member.1 turn.value)
    (hdone : (schema.known done).Nodup)
    (hfault : schema.HasFault writes done (member :: others))
    (hseen : ∀ name, name ∈ seen ↔ name ∈ done.map (·.1)) :
    FoundTwice (readMembers schema seen (described done) first text) ∨
      (readMembers schema seen (described done) first text =
          readMembers schema (member.1 :: seen) (described (done ++ [member])) false
            (turn.last ++ rest) ∧
        (schema.known (done ++ [member])).Nodup ∧
        schema.HasFault writes (done ++ [member]) others) := by
  by_cases hrefuses : schema.Refuses member.1 turn.value
  · exact Or.inl (turn.refused hends _ hrefuses)
  by_cases hrepeated : (schema.field? member.1).isSome = true ∧ member.1 ∈ done.map (·.1)
  · exact Or.inl (turn.repeated _ hrepeated.1 ((hseen _).mpr hrepeated.2))
  have htakes := hreads.resolve_right hrefuses
  have hnew := not_and.mp hrepeated
  refine Or.inr ⟨turn.taken hends htakes hnew hseen, Schema.nodup_append_singleton hdone hnew, ?_⟩
  rcases hfault with hnodup | ⟨refused, hmem, hall⟩
  · rw [List.append_cons] at hnodup
    exact Or.inl hnodup
  · rcases List.mem_cons.mp hmem with hmember | hmem
    · subst hmember
      exact absurd (hall turn.value turn.writes) hrefuses
    · exact Or.inr ⟨refused, hmem, hall⟩

theorem MembersText.readMembers_foundTwice (hmembers : MembersText writes members inside)
    (hleads : LeadsTo (inside ++ closeBrace :: rest) first text)
    (hreads : ∀ member ∈ members, ∀ value, writes member.2 value →
      schema.Takes described member value ∨ schema.Refuses member.1 value)
    (hdone : (schema.known done).Nodup) (hfault : schema.HasFault writes done members)
    (hseen : ∀ name, name ∈ seen ↔ name ∈ done.map (·.1)) :
    FoundTwice (readMembers schema seen (described done) first text) := by
  -- nothing was repeated in `done`, so a fault cannot be left behind the last member
  have hnone {done : List (String × α)} (hdone : (schema.known done).Nodup) :
      ¬ schema.HasFault writes done [] := by
    intro hfault
    rcases hfault with hnodup | ⟨member, hmem, _⟩
    · rw [List.append_nil] at hnodup
      exact hnodup hdone
    · cases hmem
  induction hmembers generalizing first text seen done with
  | none hblanks => exact absurd hfault (hnone hdone)
  | @last member inside hmember =>
      obtain ⟨turn⟩ := hmember.turn hleads
      rcases turn.foundTwice_or_taken (ends_closeBrace rest)
        (hreads member List.mem_cons_self turn.value turn.writes) hdone hfault hseen with
        hfound | ⟨_, hnext, hlater⟩
      · exact hfound
      · exact absurd hlater (hnone hnext)
  | @more member next others inside later hmember hlater ih =>
      rw [List.append_assoc, List.cons_append] at hleads
      obtain ⟨turn⟩ := hmember.turn hleads
      rcases turn.foundTwice_or_taken (ends_comma _)
        (hreads member List.mem_cons_self turn.value turn.writes) hdone hfault hseen with
        hfound | ⟨htaken, hnext, hahead⟩
      · exact hfound
      · rw [htaken]
        apply ih (LeadsTo.later turn.blanksLast)
        · intro other hmem
          exact hreads other (List.mem_cons_of_mem member hmem)
        · exact hnext
        · exact hahead
        · exact mem_seen_cons hseen

/-! ## Records and documents -/

theorem readRecord_brace {blanks : Bytes} (hblanks : Blanks blanks) (text : Bytes) :
    readRecord schema (blanks ++ openBrace :: text) = readObject schema text := by
  rw [readRecord, skipBlank_append_cons hblanks (by decide)]
  rfl

/-- An object is read as the record that its members describe. -/
theorem ObjectText.takes (hobject : ObjectText writes members text)
    (hdefault : described [] = schema.default)
    (htakes : ∀ member ∈ members, ∀ value, writes member.2 value →
      schema.Takes described member value)
    (hnodup : (schema.known members).Nodup) :
    schema.codec.reader.Takes text (described members) := by
  intro blanks rest hblanks _
  cases hobject with
  | @braced inside hmembers =>
      have hread : readMembers schema [] schema.default true (inside ++ closeBrace :: rest) =
          .ok (described members, closeBrace :: rest) := by
        rw [← hdefault]
        exact hmembers.readMembers_takes .first (fun _ => rfl) htakes hnodup (by simp)
      rw [List.cons_append, List.append_assoc, List.singleton_append]
      change readRecord schema _ = _
      rw [readRecord_brace hblanks, readObject, hread]
      rfl

/-- An object with a fault is not read. -/
theorem ObjectText.refuses (hobject : ObjectText writes members text)
    (hdefault : described [] = schema.default)
    (hreads : ∀ member ∈ members, ∀ value, writes member.2 value →
      schema.Takes described member value ∨ schema.Refuses member.1 value)
    (hfault : schema.HasFault writes [] members) :
    schema.codec.reader.Refuses text := by
  intro blanks rest hblanks _
  cases hobject with
  | @braced inside hmembers =>
      have hfound : FoundTwice
          (readMembers schema [] schema.default true (inside ++ closeBrace :: rest)) := by
        rw [← hdefault]
        exact hmembers.readMembers_foundTwice .first hreads List.nodup_nil hfault (by simp)
      rw [List.cons_append, List.append_assoc, List.singleton_append]
      change ∃ name left, readRecord schema _ = _
      rw [readRecord_brace hblanks, readObject]
      rcases hfound with ⟨name, left, hfound⟩ | ⟨name, left, hfound⟩
      · rw [hfound]
        exact ⟨name, abandonObject left, rfl⟩
      · rw [hfound]
        exact ⟨name, left, rfl⟩

end

theorem ends_of_blanks {blanks : Bytes} (hblanks : Blanks blanks) : Ends blanks := by
  intro byte hbyte
  exact Or.inl (hblanks byte (List.mem_of_mem_head? hbyte))

theorem read_of_takes {codec : Codec α} {document : String} {before object after : Bytes}
    {value : α} (htakes : codec.reader.Takes object value) (hbefore : Blanks before)
    (hafter : Blanks after) (hdocument : Utf8.encode document = before ++ object ++ after) :
    read codec document = .ok value := by
  rw [List.append_assoc] at hdocument
  have hread := htakes before after hbefore (ends_of_blanks hafter)
  simp only [read]
  rw [hdocument, hread]
  simp only [skipBlank_blanks hafter]

theorem read_of_refuses {codec : Codec α} {document : String} {before object after : Bytes}
    (hrefuses : codec.reader.Refuses object) (hbefore : Blanks before)
    (hafter : Blanks after) (hdocument : Utf8.encode document = before ++ object ++ after) :
    ∃ fault name, read codec document = .error fault ∧ fault.cause = .duplicateField name := by
  rw [List.append_assoc] at hdocument
  obtain ⟨name, left, hread⟩ := hrefuses before after hbefore (ends_of_blanks hafter)
  simp only [read]
  rw [hdocument, hread]
  exact ⟨_, name, rfl, rfl⟩

end Document

end ShaderFamilies
