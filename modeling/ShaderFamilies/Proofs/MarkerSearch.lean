import Mathlib.Data.List.Infix
import ShaderFamilies.MarkerReplacement

/-!
# The first marker of a text

The search for the marker stops at its first occurrence: what stands before it,
together with the marker, holds the marker only at its end.  So a block puts its
text in the place of this occurrence, and of no other.
-/

namespace ShaderFamilies

variable {α : Type}

/-! ## The first occurrence of a pattern -/

/-- A list that, followed by the pattern, holds the pattern only at its end. -/
def OnlyAtEnd (pattern before : List α) : Prop :=
  ∀ earlier later, before ++ pattern = earlier ++ pattern ++ later → later = []

theorem onlyAtEnd_nil (pattern : List α) : OnlyAtEnd pattern [] := by
  intro earlier later heq
  have hlength := congrArg List.length heq
  simp only [List.nil_append, List.length_append] at hlength
  exact List.length_eq_zero_iff.mp (by omega)

theorem onlyAtEnd_cons_iff {pattern before : List α} {head : α} :
    OnlyAtEnd pattern (head :: before) ↔
      ¬ pattern <+: head :: before ++ pattern ∧ OnlyAtEnd pattern before := by
  constructor
  · intro hend
    constructor
    · intro hbegins
      obtain ⟨later, hlater⟩ := hbegins
      have hnil : later = [] := hend [] later hlater.symm
      have hlength := congrArg List.length hlater
      rw [hnil, List.append_nil, List.length_append, List.length_cons] at hlength
      omega
    · intro earlier later heq
      apply hend (head :: earlier) later
      simp [heq]
  · intro hboth earlier later heq
    obtain ⟨hbegins, hend⟩ := hboth
    cases earlier with
    | nil => exact absurd ⟨later, heq.symm⟩ hbegins
    | cons other earlier =>
        rw [List.cons_append, List.cons_append, List.cons_append] at heq
        exact hend earlier later (List.cons.inj heq).2

/-- The pattern does not begin within such a list, whatever follows. -/
theorem OnlyAtEnd.not_isPrefix {pattern before : List α} {head : α}
    (hend : OnlyAtEnd pattern (head :: before)) (after : List α) :
    ¬ pattern <+: head :: before ++ pattern ++ after := by
  intro hbegins
  have hlonger : pattern.length ≤ (head :: before ++ pattern).length := by
    rw [List.length_append]
    exact Nat.le_add_left pattern.length _
  have hwithin : pattern <+: head :: before ++ pattern :=
    List.prefix_of_prefix_length_le hbegins (List.prefix_append _ after) hlonger
  exact (onlyAtEnd_cons_iff.mp hend).1 hwithin

theorem OnlyAtEnd.not_isInfix {pattern before : List α} (hpattern : pattern ≠ [])
    (hend : OnlyAtEnd pattern before) : ¬ pattern <:+: before := by
  intro hoccurs
  obtain ⟨earlier, later, heq⟩ := hoccurs
  have hnil : later ++ pattern = [] := by
    apply hend earlier
    rw [← heq, List.append_assoc]
  exact hpattern (List.append_eq_nil_iff.mp hnil).2

variable [BEq α] [LawfulBEq α]

theorem isPrefixOf?_eq_none {pattern text : List α} :
    pattern.isPrefixOf? text = none ↔ ¬ pattern <+: text := by
  rw [← Option.not_isSome_iff_eq_none, List.isSome_isPrefixOf?_eq_isPrefixOf,
    List.isPrefixOf_iff_prefix]

theorem splitAtFirst_pattern_append (pattern after : List α) :
    splitAtFirst pattern (pattern ++ after) = some ([], after) := by
  cases htext : pattern ++ after with
  | nil =>
      obtain ⟨rfl, rfl⟩ := List.append_eq_nil_iff.mp htext
      rfl
  | cons head tail =>
      have hfound : pattern.isPrefixOf? (head :: tail) = some after :=
        List.isPrefixOf?_eq_some_iff_append_eq.mpr htext
      rw [splitAtFirst, hfound]

theorem splitAtFirst_cons {pattern tail : List α} {head : α}
    (hbegins : ¬ pattern <+: head :: tail) :
    splitAtFirst pattern (head :: tail) =
      (splitAtFirst pattern tail).map fun parts => (head :: parts.1, parts.2) := by
  rw [splitAtFirst, isPrefixOf?_eq_none.mpr hbegins]

theorem splitAtFirst_append {pattern before : List α} (hend : OnlyAtEnd pattern before)
    (after : List α) :
    splitAtFirst pattern (before ++ pattern ++ after) = some (before, after) := by
  induction before with
  | nil => exact splitAtFirst_pattern_append pattern after
  | cons head before ih =>
      have hbegins := hend.not_isPrefix after
      rw [List.cons_append, List.cons_append] at hbegins ⊢
      rw [splitAtFirst_cons hbegins, ih (onlyAtEnd_cons_iff.mp hend).2]
      rfl

theorem eq_of_splitAtFirst {pattern text before after : List α}
    (hsplit : splitAtFirst pattern text = some (before, after)) :
    text = before ++ pattern ++ after ∧ OnlyAtEnd pattern before := by
  induction text generalizing before with
  | nil =>
      cases pattern with
      | nil =>
          cases hsplit
          exact ⟨rfl, onlyAtEnd_nil []⟩
      | cons head pattern => cases hsplit
  | cons head tail ih =>
      by_cases hbegins : pattern <+: head :: tail
      · obtain ⟨rest, hrest⟩ := hbegins
        rw [← hrest, splitAtFirst_pattern_append] at hsplit
        cases hsplit
        exact ⟨hrest.symm, onlyAtEnd_nil pattern⟩
      · rw [splitAtFirst_cons hbegins, Option.map_eq_some_iff] at hsplit
        obtain ⟨parts, hparts, heq⟩ := hsplit
        obtain ⟨rfl, rfl⟩ := Prod.mk.inj heq
        obtain ⟨htail, hend⟩ := ih hparts
        -- A pattern at the front of the text up to the one found is at the front of
        -- the whole text.
        rw [htail] at hbegins
        have hwithin : ¬ pattern <+: head :: parts.1 ++ pattern := by
          intro hshort
          apply hbegins
          rw [← List.cons_append, ← List.cons_append]
          exact hshort.trans (List.prefix_append _ parts.2)
        exact ⟨by rw [htail]; rfl, onlyAtEnd_cons_iff.mpr ⟨hwithin, hend⟩⟩

theorem isSome_splitAtFirst_iff {pattern text : List α} :
    (splitAtFirst pattern text).isSome = true ↔ pattern <:+: text := by
  constructor
  · intro hsome
    obtain ⟨parts, hsplit⟩ := Option.isSome_iff_exists.mp hsome
    obtain ⟨htext, _⟩ := eq_of_splitAtFirst hsplit
    exact ⟨parts.1, parts.2, htext.symm⟩
  · intro hoccurs
    induction text with
    | nil =>
        rw [List.infix_nil] at hoccurs
        rw [hoccurs]
        rfl
    | cons head tail ih =>
        by_cases hbegins : pattern <+: head :: tail
        · obtain ⟨rest, hrest⟩ := hbegins
          rw [← hrest, splitAtFirst_pattern_append]
          rfl
        · rw [splitAtFirst_cons hbegins, Option.isSome_map]
          rcases List.infix_cons_iff.mp hoccurs with hhere | hlater
          · exact absurd hhere hbegins
          · exact ih hlater

/-! ## The marker in texts -/

/-- The marker occurs in a text. -/
def Marked (text : String) : Prop :=
  ∃ before after, text = before ++ definitionsMarker ++ after

/-- A marker after this text is the first one: the text with the marker holds
the marker only at its end. -/
def FirstMarkerAfter (before : String) : Prop :=
  ∀ earlier later, before ++ definitionsMarker = earlier ++ definitionsMarker ++ later →
    later = ""

theorem marked_iff_isInfix {text : String} :
    Marked text ↔ definitionsMarker.toList <:+: text.toList := by
  constructor
  · intro hmarked
    obtain ⟨before, after, rfl⟩ := hmarked
    exact ⟨before.toList, after.toList, by simp⟩
  · intro hoccurs
    obtain ⟨before, after, heq⟩ := hoccurs
    refine ⟨String.ofList before, String.ofList after, ?_⟩
    rw [← String.toList_inj]
    simp [← heq]

theorem hasText_marker_iff {text : String} :
    hasText text definitionsMarker = true ↔ Marked text := by
  rw [marked_iff_isInfix]
  exact isSome_splitAtFirst_iff

instance (text : String) : Decidable (Marked text) :=
  decidable_of_iff _ hasText_marker_iff

theorem firstMarkerAfter_iff {before : String} :
    FirstMarkerAfter before ↔ OnlyAtEnd definitionsMarker.toList before.toList := by
  constructor
  · intro hfirst earlier later heq
    have hlater : String.ofList later = "" := by
      apply hfirst (String.ofList earlier)
      rw [← String.toList_inj]
      simp [heq]
    simpa using congrArg String.toList hlater
  · intro hend earlier later heq
    rw [← String.toList_inj]
    apply hend earlier.toList
    have htexts := congrArg String.toList heq
    simpa using htexts

theorem Marked.exists_first {text : String} (hmarked : Marked text) :
    ∃ before after, text = before ++ definitionsMarker ++ after ∧ FirstMarkerAfter before := by
  have hsome := isSome_splitAtFirst_iff.mpr (marked_iff_isInfix.mp hmarked)
  obtain ⟨⟨before, after⟩, hsplit⟩ := Option.isSome_iff_exists.mp hsome
  obtain ⟨htext, hend⟩ := eq_of_splitAtFirst hsplit
  refine ⟨String.ofList before, String.ofList after, ?_, ?_⟩
  · rw [← String.toList_inj]
    simp [htext]
  · rw [firstMarkerAfter_iff, String.toList_ofList]
    exact hend

namespace DefineBlock

variable (block : DefineBlock)

theorem apply_of_not_marked {text : String} (hmarked : ¬ Marked text) :
    block.apply text = text := by
  have hnone : splitAtFirst definitionsMarker.toList text.toList = none := by
    rw [← Option.not_isSome_iff_eq_none, isSome_splitAtFirst_iff, ← marked_iff_isInfix]
    exact hmarked
  rw [DefineBlock.apply, replaceFirst, hnone]
  exact String.ofList_toList

theorem apply_of_firstMarkerAfter {before : String} (hfirst : FirstMarkerAfter before)
    (after : String) :
    block.apply (before ++ definitionsMarker ++ after) = before ++ block.render ++ after := by
  have hsplit := splitAtFirst_append (firstMarkerAfter_iff.mp hfirst) after.toList
  rw [← String.toList_inj, DefineBlock.apply, replaceFirst, String.toList_append,
    String.toList_append, hsplit]
  simp

end DefineBlock

end ShaderFamilies
