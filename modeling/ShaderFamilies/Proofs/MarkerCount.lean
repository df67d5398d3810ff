import ShaderFamilies.Proofs.DirectiveLines

/-!
# How many markers are left

The first character of the marker does not occur in the rest of it, so markers
never overlap, and the markers of a text can be counted piece by piece.  The lines
that a family puts in hold no marker and form none with the text around them, so
each specialized stage has one marker less.  Once a stage has none, it stays as it
is under any configuration.
-/

namespace ShaderFamilies

/-! ## Counting a pattern -/

/-- A pattern whose first character does not occur in the rest of it ends before that
character occurs again. -/
theorem prefix_append_first_iff {α : Type} {first : α} {rest before : List α}
    (hfirst : first ∉ rest) (hbefore : before ≠ []) (after : List α) :
    first :: rest <+: before ++ first :: after ↔ first :: rest <+: before := by
  constructor
  · intro hbegins
    by_cases hlength : (first :: rest).length ≤ before.length
    · exact List.prefix_of_prefix_length_le hbegins (List.prefix_append before _) hlength
    · have hinside : before ++ [first] <+: before ++ first :: after :=
        (List.prefix_append_right_inj before).mpr (List.prefix_append [first] after)
      have hlonger : (before ++ [first]).length ≤ (first :: rest).length := by
        rw [List.length_append, List.length_singleton]
        omega
      obtain ⟨more, hmore⟩ := List.prefix_of_prefix_length_le hinside hbegins hlonger
      cases before with
      | nil => exact absurd rfl hbefore
      | cons head before =>
          have hrest : rest = before ++ [first] ++ more := (List.cons.inj hmore).2.symm
          exact absurd (by simp [hrest]) hfirst
  · intro hbegins
    exact hbegins.trans (List.prefix_append before _)

section Occurrences

variable {α : Type} [DecidableEq α]

/-- The number of places of a list at which a pattern begins. -/
def occurrences (pattern : List α) : List α → Nat
  | [] => 0
  | head :: tail =>
      if pattern <+: head :: tail then occurrences pattern tail + 1
      else occurrences pattern tail

theorem occurrences_eq_zero {pattern text : List α} (habsent : ¬ pattern <:+: text) :
    occurrences pattern text = 0 := by
  induction text with
  | nil => rfl
  | cons head tail ih =>
      rw [List.infix_cons_iff, not_or] at habsent
      rw [occurrences, if_neg habsent.1, ih habsent.2]

variable {first : α} {rest : List α}

theorem occurrences_cons_of_ne {head : α} (hne : head ≠ first) (tail : List α) :
    occurrences (first :: rest) (head :: tail) = occurrences (first :: rest) tail := by
  have hbegins : ¬ first :: rest <+: head :: tail := by
    intro hbegins
    exact hne (List.cons_prefix_cons.mp hbegins).1.symm
  rw [occurrences, if_neg hbegins]

theorem occurrences_append_of_not_mem {text : List α} (hfirst : first ∉ text)
    (after : List α) :
    occurrences (first :: rest) (text ++ after) = occurrences (first :: rest) after := by
  induction text with
  | nil => rfl
  | cons head tail ih =>
      rw [List.mem_cons, not_or] at hfirst
      rw [List.cons_append, occurrences_cons_of_ne (Ne.symm hfirst.1), ih hfirst.2]

variable (hfirst : first ∉ rest)
include hfirst

theorem occurrences_pattern_append (after : List α) :
    occurrences (first :: rest) (first :: rest ++ after) =
      occurrences (first :: rest) after + 1 := by
  rw [List.cons_append, occurrences, ← List.cons_append,
    if_pos (List.prefix_append (first :: rest) after), occurrences_append_of_not_mem hfirst]

theorem occurrences_append_first (before after : List α) :
    occurrences (first :: rest) (before ++ first :: after) =
      occurrences (first :: rest) before + occurrences (first :: rest) (first :: after) := by
  induction before with
  | nil => exact (Nat.zero_add _).symm
  | cons head before ih =>
      -- No pattern that begins before the character reaches it, so each place counts alike
      -- with and without what follows.
      have hbegins := prefix_append_first_iff hfirst (List.cons_ne_nil head before) after
      rw [List.cons_append] at hbegins ⊢
      rw [occurrences, ih]
      conv_rhs => rw [occurrences]
      by_cases hhere : first :: rest <+: head :: before
      · rw [if_pos (hbegins.mpr hhere), if_pos hhere]
        omega
      · rw [if_neg (fun hlong => hhere (hbegins.mp hlong)), if_neg hhere]

theorem occurrences_of_onlyAtEnd {before : List α} (hend : OnlyAtEnd (first :: rest) before)
    (after : List α) :
    occurrences (first :: rest) (before ++ first :: after) =
      occurrences (first :: rest) (first :: after) := by
  have hnone := occurrences_eq_zero (hend.not_isInfix (List.cons_ne_nil first rest))
  rw [occurrences_append_first hfirst, hnone, Nat.zero_add]

end Occurrences

/-! ## Counting markers -/

/-- The number of markers in a text. -/
def markerCount (text : String) : Nat :=
  occurrences definitionsMarker.toList text.toList

theorem toList_definitionsMarker : definitionsMarker.toList = '#' :: "algdef".toList := by
  decide

theorem sign_not_mem : '#' ∉ "algdef".toList := by
  decide

theorem markerCount_of_not_marked {text : String} (hmarked : ¬ Marked text) :
    markerCount text = 0 := by
  rw [marked_iff_isInfix] at hmarked
  exact occurrences_eq_zero hmarked

theorem markerCount_of_first {before : String} (hbefore : FirstMarkerAfter before)
    (after : String) :
    markerCount (before ++ definitionsMarker ++ after) = markerCount after + 1 := by
  rw [firstMarkerAfter_iff] at hbefore
  unfold markerCount
  simp only [String.toList_append, toList_definitionsMarker] at hbefore ⊢
  rw [List.append_assoc, List.cons_append, occurrences_of_onlyAtEnd sign_not_mem hbefore,
    ← List.cons_append, occurrences_pattern_append sign_not_mem]

theorem marked_iff_markerCount_pos {text : String} : Marked text ↔ 0 < markerCount text := by
  constructor
  · intro hmarked
    obtain ⟨before, after, rfl, hbefore⟩ := hmarked.exists_first
    rw [markerCount_of_first hbefore]
    exact Nat.succ_pos _
  · intro hpos
    by_contra hmarked
    rw [markerCount_of_not_marked hmarked] at hpos
    exact absurd hpos (Nat.lt_irrefl 0)

/-! ## Markers and directives -/

/-- A directive parts from the marker at its second character, and its other
characters begin no marker. -/
theorem IsDirective.toList_eq {line : String} (hline : IsDirective line) :
    ∃ tail, line.toList = '#' :: 'd' :: tail ∧ '#' ∉ 'd' :: tail := by
  obtain ⟨rest, hrest, rfl⟩ := hline
  refine ⟨"efine ".toList ++ rest.toList, by rw [String.toList_append]; rfl, ?_⟩
  rw [← List.cons_append, List.mem_append, not_or]
  exact ⟨by decide, hrest.2⟩

theorem occurrences_directive_append {line : String} (hline : IsDirective line)
    (after : List Char) :
    occurrences definitionsMarker.toList (line.toList ++ '\n' :: after) =
      occurrences definitionsMarker.toList after := by
  obtain ⟨tail, hlist, hsign⟩ := hline.toList_eq
  have hmarker : "algdef".toList = 'a' :: "lgdef".toList := by decide
  have hbegins : ¬ '#' :: "algdef".toList <+: '#' :: ('d' :: tail ++ '\n' :: after) := by
    rw [hmarker, List.cons_append, List.cons_prefix_cons, List.cons_prefix_cons]
    intro hboth
    exact absurd hboth.2.1 (by decide)
  rw [toList_definitionsMarker, hlist, List.cons_append, occurrences, if_neg hbegins,
    occurrences_append_of_not_mem hsign, occurrences_cons_of_ne (by decide)]

theorem occurrences_linesText_append {lines : List String}
    (hlines : ∀ line ∈ lines, IsDirective line) (after : List Char) :
    occurrences definitionsMarker.toList ((linesText lines).toList ++ after) =
      occurrences definitionsMarker.toList after := by
  induction lines with
  | nil => rfl
  | cons line rest ih =>
      rw [List.forall_mem_cons] at hlines
      rw [toList_linesText_cons, List.append_assoc, List.cons_append,
        occurrences_directive_append hlines.1, ih hlines.2]

/-- The lines leave only the markers after the one whose place they take: none
begins in the lines, and since they begin with a number sign, none that begins
before them goes on into them. -/
theorem markerCount_lines {before : String} (hbefore : FirstMarkerAfter before)
    {lines : List String} (hlines : AreDirectives lines) (after : String) :
    markerCount (before ++ linesText lines ++ after) = markerCount after := by
  obtain ⟨line, rest, rfl⟩ := List.exists_cons_of_ne_nil hlines.ne_nil
  have heach := hlines.each
  obtain ⟨tail, hlist, _⟩ := (List.forall_mem_cons.mp heach).1.toList_eq
  have hsign : ∃ more, (linesText (line :: rest)).toList ++ after.toList = '#' :: more := by
    rw [toList_linesText_cons, hlist]
    exact ⟨_, rfl⟩
  obtain ⟨more, hmore⟩ := hsign
  have hafter := occurrences_linesText_append heach after.toList
  rw [firstMarkerAfter_iff] at hbefore
  unfold markerCount
  rw [String.toList_append, String.toList_append, List.append_assoc, ← hafter, hmore]
  rw [toList_definitionsMarker] at hbefore ⊢
  exact occurrences_of_onlyAtEnd sign_not_mem hbefore more

theorem DefineBlock.markerCount_apply {block : DefineBlock}
    (hlines : AreDirectives block.lines) (text : String) :
    markerCount (block.apply text) = markerCount text - 1 := by
  by_cases hmarked : Marked text
  · obtain ⟨before, after, rfl, hbefore⟩ := hmarked.exists_first
    rw [block.apply_of_firstMarkerAfter hbefore, block.render_eq_linesText,
      markerCount_lines hbefore hlines, markerCount_of_first hbefore, Nat.add_sub_cancel]
  · rw [block.apply_of_not_marked hmarked, markerCount_of_not_marked hmarked]

/-- With an empty block the text around the marker could form a new one. -/
example : markerCount (DefineBlock.empty.apply "#al#algdefgdef") = 1 := by
  decide +kernel

/-! ## The variants -/

/-- A variant has one marker less in each specialized stage that has any, and as
many as before in the others, but for the geometry stage that a separable pass
drops.  Where the specialized stages have at most one marker, no configuration
changes a variant any more. -/
theorem variants_consume_markers (family : Family) (config : Configuration)
    (templates variant : Sources) (hvariant : variant ∈ family.variants config templates) :
    (∀ stage ∈ family.specializedStages,
      markerCount (variant.text stage) = markerCount (templates.text stage) - 1) ∧
    (∀ stage ∉ family.specializedStages, stage ≠ .geometry ∨ family.isDirectional = false →
      markerCount (variant.text stage) = markerCount (templates.text stage)) ∧
    (family.isDirectional = true → markerCount variant.geometry = 0) ∧
    ((∀ stage ∈ family.specializedStages, markerCount (templates.text stage) ≤ 1) →
      ∀ other, ∀ again ∈ family.variants other variant, again = variant) := by
  have hspecialized : ∀ stage ∈ family.specializedStages,
      markerCount (variant.text stage) = markerCount (templates.text stage) - 1 := by
    intro stage hstage
    obtain ⟨plan, hplan, block, hblock, htext⟩ := Family.exists_block hvariant hstage
    rw [htext]
    exact DefineBlock.markerCount_apply (Family.block_directives hplan hblock) _
  have hgeometry := Family.geometry_of_mem hvariant
  refine ⟨hspecialized, ?_, ?_, ?_⟩
  · intro stage hstage hkept
    by_cases hne : stage = .geometry
    · subst hne
      have hdirectional : family.isDirectional = false := hkept.resolve_left (not_not_intro rfl)
      rw [hdirectional] at hgeometry
      exact congrArg markerCount hgeometry
    · rw [Family.text_of_not_mem hvariant hstage hne]
  · intro hdirectional
    rw [hgeometry, hdirectional]
    rfl
  · intro hsingle other again hagain
    have hnone : ∀ stage ∈ family.specializedStages, ¬ Marked (variant.text stage) := by
      intro stage hstage
      have hle := hsingle stage hstage
      rw [marked_iff_markerCount_pos, hspecialized stage hstage]
      omega
    -- A separable pass has no geometry stage left to drop.
    have hsettled : (if family.isDirectional then "" else variant.geometry) =
        variant.geometry := by
      rw [hgeometry]
      cases family.isDirectional <;> rfl
    rw [Family.eq_of_not_marked hagain hnone, hsettled]

theorem variants_consume_markers_blur :
    let templates : Sources := { vertex := "#algdef", fragment := "a#algdef" }
    let variant := (blurPlans {}).horizontal.apply templates
    variant ∈ Family.blur.variants {} templates ∧
      markerCount variant.vertex = 1 ∧ markerCount variant.fragment = 0 ∧
      ∀ other, ∀ again ∈ Family.blur.variants other variant, again = variant := by
  intro templates variant
  have hvariant : variant ∈ Family.blur.variants {} templates := List.mem_cons_self
  have hvertex : markerCount templates.vertex = 1 := by decide +kernel
  have hfragment : markerCount templates.fragment = 1 := by decide +kernel
  obtain ⟨hspecialized, hkept, _, hsettled⟩ :=
    variants_consume_markers .blur {} templates variant hvariant
  refine ⟨hvariant, ?_, ?_, ?_⟩
  · exact (hkept .vertex (by decide) (Or.inl (by decide))).trans hvertex
  · have hless := hspecialized .fragment (List.mem_singleton_self _)
    exact hless.trans (congrArg (· - 1) hfragment)
  · apply hsettled
    rw [show Family.blur.specializedStages = [.fragment] from rfl, List.forall_mem_singleton]
    exact hfragment.le

/-- A separable pass replaces no marker in the geometry stage: it drops the stage,
and the marker with it. -/
theorem separable_variants_lose_marker :
    let templates : Sources := { geometry := "#algdef\nlayout(triangles) in;\n" }
    Stage.geometry ∉ Family.dofBlur.specializedStages ∧
      markerCount (templates.text .geometry) = 1 ∧
      (Family.dofBlur.variants {} templates).map
        (fun variant => markerCount (variant.text .geometry)) = [0, 0] := by
  decide +kernel

end ShaderFamilies
