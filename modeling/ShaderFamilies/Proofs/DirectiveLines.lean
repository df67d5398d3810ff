import Mathlib.Data.List.Nodup
import ShaderFamilies.Proofs.VariantLines
import ShaderFamilies.Proofs.VariantStages

/-!
# The shape of the documented lines

Every line that a family puts into a template is one directive: it begins with
a number sign, has no other, and does not end before its line end.  So a text made
of such lines can be taken apart again, and no marker is part of it.
-/

namespace ShaderFamilies

/-! ## Directives -/

/-- A text within a line that begins no directive. -/
def IsPlain (text : String) : Prop :=
  '\n' ∉ text.toList ∧ '#' ∉ text.toList

instance (text : String) : Decidable (IsPlain text) :=
  inferInstanceAs (Decidable (_ ∧ _))

theorem IsPlain.append {first second : String} (hfirst : IsPlain first)
    (hsecond : IsPlain second) : IsPlain (first ++ second) := by
  unfold IsPlain at *
  simp only [String.toList_append, List.mem_append, not_or]
  exact ⟨⟨hfirst.1, hsecond.1⟩, ⟨hfirst.2, hsecond.2⟩⟩

/-- A define, whatever its name and value. -/
def IsDirective (line : String) : Prop :=
  ∃ rest, IsPlain rest ∧ line = "#define " ++ rest

theorem isDirective_iff {line : String} :
    IsDirective line ↔ "#define ".toList <+: line.toList ∧
      '\n' ∉ line.toList.drop 8 ∧ '#' ∉ line.toList.drop 8 := by
  have hlength : "#define ".toList.length = 8 := by decide
  constructor
  · intro hline
    obtain ⟨rest, hrest, rfl⟩ := hline
    rw [String.toList_append, List.drop_left' hlength]
    exact ⟨List.prefix_append _ _, hrest⟩
  · intro hboth
    obtain ⟨⟨rest, htext⟩, hplain⟩ := hboth
    rw [← htext, List.drop_left' hlength] at hplain
    refine ⟨String.ofList rest, by rw [IsPlain, String.toList_ofList]; exact hplain, ?_⟩
    rw [← String.toList_inj, ← htext]
    simp

instance (line : String) : Decidable (IsDirective line) :=
  decidable_of_iff _ isDirective_iff.symm

theorem IsDirective.append {line word : String} (hline : IsDirective line)
    (hword : IsPlain word) : IsDirective (line ++ word) := by
  obtain ⟨rest, hrest, rfl⟩ := hline
  rw [String.append_assoc]
  exact ⟨rest ++ word, hrest.append hword, rfl⟩

theorem IsDirective.newline_not_mem {line : String} (hline : IsDirective line) :
    '\n' ∉ line.toList := by
  obtain ⟨rest, hrest, rfl⟩ := hline
  rw [String.toList_append, List.mem_append, not_or]
  exact ⟨by decide, hrest.1⟩

/-- Lines that stand for one marker: at least one, and all of them directives. -/
structure AreDirectives (lines : List String) : Prop where
  ne_nil : lines ≠ []
  each : ∀ line ∈ lines, IsDirective line

/-! ## Taking lines apart -/

/-- The first occurrence of an element splits a list in one way only. -/
theorem eq_of_append_cons {α : Type} {split : α} {first second later other : List α}
    (hfirst : split ∉ first) (hsecond : split ∉ second)
    (heq : first ++ split :: later = second ++ split :: other) :
    first = second ∧ later = other := by
  induction first generalizing second with
  | nil =>
      cases second with
      | nil => exact ⟨rfl, (List.cons.inj heq).2⟩
      | cons head second =>
          rw [(List.cons.inj heq).1] at hsecond
          exact absurd List.mem_cons_self hsecond
  | cons head first ih =>
      cases second with
      | nil =>
          rw [← (List.cons.inj heq).1] at hfirst
          exact absurd List.mem_cons_self hfirst
      | cons next second =>
          obtain ⟨rfl, hrest⟩ := List.cons.inj heq
          obtain ⟨rfl, hlater⟩ := ih (List.not_mem_of_not_mem_cons hfirst)
            (List.not_mem_of_not_mem_cons hsecond) hrest
          exact ⟨rfl, hlater⟩

@[simp] theorem linesText_nil : linesText [] = "" :=
  rfl

@[simp] theorem toList_linesText_cons (line : String) (rest : List String) :
    (linesText (line :: rest)).toList =
      line.toList ++ '\n' :: (linesText rest).toList := by
  simp [linesText]

theorem linesText_inj {first second : List String}
    (hfirst : ∀ line ∈ first, IsDirective line)
    (hsecond : ∀ line ∈ second, IsDirective line) :
    linesText first = linesText second ↔ first = second := by
  refine ⟨?_, congrArg linesText⟩
  intro htext
  rw [← String.toList_inj] at htext
  induction first generalizing second with
  | nil =>
      cases second with
      | nil => rfl
      | cons line second => simp at htext
  | cons line first ih =>
      cases second with
      | nil => simp at htext
      | cons other second =>
          rw [List.forall_mem_cons] at hfirst hsecond
          rw [toList_linesText_cons, toList_linesText_cons] at htext
          obtain ⟨hline, hrest⟩ := eq_of_append_cons hfirst.1.newline_not_mem
            hsecond.1.newline_not_mem htext
          rw [String.toList_inj.mp hline, ih hfirst.2 hsecond.2 hrest]

/-! ## Words for options -/

/-- A table of words tells its options apart, by words that fit in a line. -/
structure IsWordTable {α : Type} (word : α → String) : Prop where
  injective : Function.Injective word
  plain : ∀ option, IsPlain (word option)

theorem IsWordTable.of_choice {α : Type} [Choice α] {word : α → String}
    (hall : ∀ option : α, option ∈ Choice.alternatives)
    (hdistinct : ((Choice.alternatives (α := α)).map word).Nodup)
    (hplain : ∀ option ∈ Choice.alternatives (α := α), IsPlain (word option)) :
    IsWordTable word := by
  constructor
  · intro first second heq
    exact List.inj_on_of_nodup_map hdistinct (hall first) (hall second) heq
  · intro option
    exact hplain option (hall option)

theorem IsWordTable.directive {α : Type} {word : α → String} (hwords : IsWordTable word)
    {line : String} (hline : IsDirective line) (option : α) :
    IsDirective (line ++ word option) :=
  hline.append (hwords.plain option)

theorem switch_words : IsWordTable Switch.word :=
  .of_choice (by intro option; cases option <;> decide) (by decide) (by decide)

theorem mappingMode_words : IsWordTable MappingMode.word :=
  .of_choice (by intro option; cases option <;> decide) (by decide) (by decide)

theorem shadowMode_words : IsWordTable ShadowMode.word :=
  .of_choice (by intro option; cases option <;> decide) (by decide) (by decide)

theorem shadowLight_words : IsWordTable ShadowLight.word :=
  .of_choice (by intro option; cases option <;> decide) (by decide) (by decide)

theorem bloomBlend_words : IsWordTable BloomBlend.word :=
  .of_choice (by intro option; cases option <;> decide) (by decide) (by decide)

theorem dofAlgorithm_words : IsWordTable DofAlgorithm.word :=
  .of_choice (by intro option; cases option <;> decide) (by decide) (by decide)

theorem vectorType_words : IsWordTable VectorType.typeName :=
  .of_choice (by intro option; cases option <;> decide) (by decide) (by decide)

theorem channels_words : IsWordTable Channels.swizzle :=
  .of_choice (by intro option; cases option <;> decide) (by decide) (by decide)

theorem toString_nat_inj {first second : Nat} :
    toString first = toString second ↔ first = second := by
  refine ⟨?_, congrArg toString⟩
  intro heq
  have hdigits : Nat.toDigits 10 first = Nat.toDigits 10 second := by
    simpa only [Nat.toString_eq_repr, Nat.toList_repr] using congrArg String.toList heq
  have hvalue := congrArg (fun digits => Nat.ofDigitChars 10 digits 0) hdigits
  simpa using hvalue

theorem isDigit_of_mem_toString {value : Nat} {c : Char} (hc : c ∈ (toString value).toList) :
    c.isDigit = true := by
  rw [Nat.toString_eq_repr, Nat.toList_repr] at hc
  exact Nat.isDigit_of_mem_toDigits (by decide) (by decide) hc

/-- Numbers are told apart by their decimals. -/
theorem decimal_words : IsWordTable decimal := by
  constructor
  · intro first second heq
    exact UInt32.toNat_inj.mp (toString_nat_inj.mp heq)
  · intro value
    constructor
    · intro hnewline
      exact absurd (isDigit_of_mem_toString hnewline) (by decide)
    · intro hsign
      exact absurd (isDigit_of_mem_toString hsign) (by decide)

/-! ## The lines of the families -/

theorem AreDirectives.cons {line : String} {rest : List String} (hline : IsDirective line)
    (hrest : ∀ other ∈ rest, IsDirective other) : AreDirectives (line :: rest) where
  ne_nil := List.cons_ne_nil line rest
  each := List.forall_mem_cons.mpr ⟨hline, hrest⟩

theorem AreDirectives.append {lines rest : List String} (hlines : AreDirectives lines)
    (hrest : ∀ other ∈ rest, IsDirective other) : AreDirectives (lines ++ rest) where
  ne_nil := List.append_ne_nil_of_left_ne_nil hlines.ne_nil rest
  each := List.forall_mem_append.mpr ⟨hlines.each, hrest⟩

theorem forall_mem_optionalLine {holds : String → Prop} {line : String} (hline : holds line)
    (enabled : Bool) : ∀ shown ∈ optionalLine enabled line, holds shown := by
  intro shown hshown
  cases enabled with
  | true => rwa [List.mem_singleton.mp hshown]
  | false => cases hshown

theorem dofBlurLines_directives (dof : DofParameters) : AreDirectives (dofBlurLines dof) := by
  unfold dofBlurLines
  have halgorithm : AreDirectives ["#define ALGINE_" ++ dof.algorithm.word] :=
    .cons (dofAlgorithm_words.directive (by decide) _) (List.forall_mem_nil _)
  have hradius : IsDirective ("#define KERNEL_RADIUS " ++ decimal dof.kernelRadius) :=
    decimal_words.directive (by decide) _
  apply AreDirectives.append
  · apply AreDirectives.append
    · apply AreDirectives.append
      · apply halgorithm.append
        exact forall_mem_optionalLine (by decide) _
      · exact forall_mem_optionalLine (by decide) _
    · exact forall_mem_optionalLine (by decide) _
  · exact List.forall_mem_singleton.mpr hradius

theorem dofCocLines_directives (dof : DofParameters) : AreDirectives (dofCocLines dof) := by
  unfold dofCocLines
  cases dof.algorithm <;> exact .cons (by decide) (List.forall_mem_nil _)

theorem blendLines_directives (flags : FeatureFlags) : AreDirectives (blendLines flags) := by
  apply AreDirectives.cons
  · exact switch_words.directive (by decide) _
  · rw [List.forall_mem_singleton]
    exact bloomBlend_words.directive (by decide) _

theorem blurLines_directives (blur : BlurParameters) : AreDirectives (blurLines blur) := by
  apply AreDirectives.cons
  · exact decimal_words.directive (by decide) _
  · rw [List.forall_mem_cons, List.forall_mem_singleton]
    exact ⟨vectorType_words.directive (by decide) _,
      channels_words.directive (by decide) _⟩

theorem cubemapLines_directives (cubemap : CubemapParameters) :
    AreDirectives (cubemapLines cubemap) := by
  apply AreDirectives.append
  · apply AreDirectives.append
    · apply AreDirectives.cons
      · exact decimal_words.directive (by decide) _
      · rw [List.forall_mem_cons, List.forall_mem_singleton]
        exact ⟨decimal_words.directive (by decide) _,
          vectorType_words.directive (by decide) _⟩
    · exact forall_mem_optionalLine (by decide) _
  · cases cubemap.positionOutput <;> decide

/-- Directives for the marker of each stage that has lines. -/
structure StageLines.HaveDirectives (stages : StageLines) : Prop where
  vertex : ∀ lines ∈ stages.vertex, AreDirectives lines
  fragment : ∀ lines ∈ stages.fragment, AreDirectives lines

theorem StageLines.HaveDirectives.of_fragment {lines : List String}
    (hlines : AreDirectives lines) :
    StageLines.HaveDirectives { fragment := some lines } := by
  constructor
  · intro others hothers
    cases hothers
  · intro others hothers
    cases hothers
    exact hlines

theorem colorLines_directives (flags : FeatureFlags) (color : ColorParameters) :
    (colorLines flags color).HaveDirectives := by
  have hmapping : IsDirective
      ("#define ALGINE_NORMAL_MAPPING_MODE_" ++ flags.normalMapping.word) :=
    mappingMode_words.directive (by decide) _
  constructor
  · intro lines hlines
    cases hlines
    apply AreDirectives.cons hmapping
    simp only [List.forall_mem_cons]
    exact ⟨switch_words.directive (by decide) _,
      decimal_words.directive (by decide) _,
      decimal_words.directive (by decide) _, List.forall_mem_nil _⟩
  · intro lines hlines
    cases hlines
    apply AreDirectives.cons hmapping
    simp only [List.forall_mem_cons]
    exact ⟨shadowMode_words.directive (by decide) _,
      mappingMode_words.directive (by decide) _,
      switch_words.directive (by decide) _,
      switch_words.directive (by decide) _,
      switch_words.directive (by decide) _,
      decimal_words.directive (by decide) _,
      decimal_words.directive (by decide) _, List.forall_mem_nil _⟩

theorem shadowLines_directives (flags : FeatureFlags) (shadow : ShadowParameters) :
    (shadowLines flags shadow).HaveDirectives := by
  have hlight : IsDirective
      ("#define ALGINE_SHADOW_MAPPING_TYPE_" ++ flags.shadowLight.word) :=
    shadowLight_words.directive (by decide) _
  constructor
  · intro lines hlines
    cases hlines
    apply AreDirectives.cons (switch_words.directive (by decide) _)
    simp only [List.forall_mem_cons]
    exact ⟨hlight, decimal_words.directive (by decide) _,
      decimal_words.directive (by decide) _, List.forall_mem_nil _⟩
  · intro lines hlines
    cases hlines
    exact .cons hlight (List.forall_mem_nil _)

/-- The lines of every family are directives, at least one for each marker. -/
theorem Family.lines_directives {family : Family} {config : Configuration}
    {stages : StageLines} (hstages : stages ∈ family.lines config) :
    stages.HaveDirectives := by
  cases family with
  | color =>
      rw [List.mem_singleton.mp hstages]
      exact colorLines_directives config.flags config.color
  | shadow =>
      rw [List.mem_singleton.mp hstages]
      exact shadowLines_directives config.flags config.shadow
  | dofBlur =>
      have hlines := dofBlurLines_directives config.dofBlur
      rcases List.mem_pair.mp hstages with rfl | rfl
      · exact .of_fragment (hlines.append (by decide))
      · exact .of_fragment hlines
  | dofCoc =>
      rw [List.mem_singleton.mp hstages]
      exact .of_fragment (dofCocLines_directives config.dofBlur)
  | blend =>
      rw [List.mem_singleton.mp hstages]
      exact .of_fragment (blendLines_directives config.flags)
  | ssr | bloomSearch =>
      rw [List.mem_singleton.mp hstages]
      constructor <;> intro lines hlines <;> cases hlines
  | blur =>
      have hlines := blurLines_directives config.blur
      rcases List.mem_pair.mp hstages with rfl | rfl <;>
        exact .of_fragment (hlines.append (by decide))
  | cubemap =>
      rw [List.mem_singleton.mp hstages]
      exact .of_fragment (cubemapLines_directives config.cubemap)

/-- The block of a stage renders as directives. -/
theorem Family.block_directives {family : Family} {config : Configuration}
    {plan : VariantPlan} (hplan : plan ∈ family.plans config) {stage : Stage}
    {block : DefineBlock} (hblock : plan.block stage = some block) :
    AreDirectives block.lines := by
  have hlines : plan.lines ∈ family.lines config := by
    rw [← family.plans_lines config]
    exact List.mem_map_of_mem hplan
  have hdirectives := Family.lines_directives hlines
  cases stage with
  | vertex => exact hdirectives.vertex _ (Option.mem_map_of_mem DefineBlock.lines hblock)
  | fragment => exact hdirectives.fragment _ (Option.mem_map_of_mem DefineBlock.lines hblock)
  | geometry => cases hblock

end ShaderFamilies
