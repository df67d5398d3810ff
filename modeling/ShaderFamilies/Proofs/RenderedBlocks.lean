import ShaderFamilies.Proofs.ShownLines
import ShaderFamilies.Proofs.VariantSeparation

/-!
# What a block holds and what it shows

A block that is built step by step holds the defines of its steps, and its text
is put together from the texts of its parts.  Where each define fits in a line,
the text has one line per define, and no other block has the same text.
-/

namespace ShaderFamilies

/-! ## Steps -/

/-- The define that a step adds, if it adds one. -/
def BlockStep.define? : BlockStep → Option Define
  | .flag name => some { name }
  | .flagIf enabled name => if enabled then some { name } else none
  | .flagOption name => name.map fun name => { name }
  | .value name given => some { name, value := some given.render }

namespace DefineBlock

theorem defines_extend (block : DefineBlock) (step : BlockStep) :
    (block.extend step).defines = block.defines ++ step.define?.toList := by
  cases step with
  | flag name => rfl
  | flagIf enabled name =>
      cases enabled with
      | true => rfl
      | false => exact (List.append_nil block.defines).symm
  | flagOption name =>
      cases name with
      | some name => rfl
      | none => exact (List.append_nil block.defines).symm
  | value name value => rfl

theorem defines_extendAll (block : DefineBlock) (steps : List BlockStep) :
    (block.extendAll steps).defines = block.defines ++ steps.filterMap BlockStep.define? := by
  unfold extendAll
  induction steps generalizing block with
  | nil => exact (List.append_nil block.defines).symm
  | cons step rest ih =>
      rw [List.foldl_cons, ih, defines_extend, List.append_assoc]
      cases hstep : step.define? with
      | none => rw [List.filterMap_cons_none hstep, Option.toList_none, List.nil_append]
      | some define =>
          rw [List.filterMap_cons_some hstep, Option.toList_some, List.singleton_append]

theorem defines_empty_extendAll (steps : List BlockStep) :
    (empty.extendAll steps).defines = steps.filterMap BlockStep.define? := by
  rw [defines_extendAll]
  rfl

theorem render_empty_extendAll_append (first second : List BlockStep) :
    (empty.extendAll (first ++ second)).render =
      (empty.extendAll first).render ++ (empty.extendAll second).render := by
  unfold render
  rw [defines_empty_extendAll, defines_empty_extendAll, defines_empty_extendAll,
    List.filterMap_append, renderDefines_append]

end DefineBlock

/-! ## Lines -/

/-- A define on one line, with a name that ends at the first space. -/
structure Define.FitsLine (define : Define) : Prop where
  no_space : ' ' ∉ define.name.toList
  no_newline : '\n' ∉ define.name.toList
  value_newline : ∀ value ∈ define.value, '\n' ∉ value.toList

/-- The text of a value behind the name. -/
def Define.valueText (define : Define) : List Char :=
  match define.value with
  | none => []
  | some value => ' ' :: value.toList

theorem Define.toList_directive (define : Define) :
    define.directive.toList =
      "#define ".toList ++ (define.name.toList ++ define.valueText) := by
  unfold directive valueText
  cases define.value with
  | none => simp
  | some value => simp

theorem Define.FitsLine.newline_not_mem {define : Define} (hdefine : define.FitsLine) :
    '\n' ∉ define.directive.toList := by
  have hvalue : '\n' ∉ define.valueText := by
    unfold valueText
    cases hcase : define.value with
    | none => exact List.not_mem_nil
    | some value =>
        rw [List.mem_cons, not_or]
        exact ⟨by decide, hdefine.value_newline value hcase⟩
  rw [toList_directive, List.mem_append, List.mem_append, not_or, not_or]
  exact ⟨by decide, hdefine.no_newline, hvalue⟩

/-- A define without a value is told from one with a value, be it empty, by the
space behind its name. -/
theorem Define.directive_eq_iff {first second : Define} (hfirst : first.FitsLine)
    (hsecond : second.FitsLine) : first.directive = second.directive ↔ first = second := by
  refine ⟨?_, congrArg directive⟩
  intro heq
  obtain ⟨name, value⟩ := first
  obtain ⟨otherName, otherValue⟩ := second
  rw [← String.toList_inj, toList_directive, toList_directive] at heq
  have hwords := List.append_cancel_left heq
  cases value with
  | none =>
      cases otherValue with
      | none =>
          have hname : name.toList = otherName.toList := by simpa [valueText] using hwords
          rw [String.toList_inj.mp hname]
      | some other =>
          have hspace : ' ' ∈ name.toList := by
            have hname : name.toList = otherName.toList ++ ' ' :: other.toList := by
              simpa [valueText] using hwords
            simp [hname]
          exact absurd hspace hfirst.no_space
  | some value =>
      cases otherValue with
      | none =>
          have hspace : ' ' ∈ otherName.toList := by
            have hname : name.toList ++ ' ' :: value.toList = otherName.toList := by
              simpa [valueText] using hwords
            simp [← hname]
          exact absurd hspace hsecond.no_space
      | some other =>
          obtain ⟨hname, hvalue⟩ :=
            eq_of_append_cons hfirst.no_space hsecond.no_space hwords
          have hnames : name = otherName := String.toList_inj.mp hname
          rw [hnames, String.toList_inj.mp hvalue]

namespace DefineBlock

/-- Every define of the block fits in a line. -/
def FitsLines (block : DefineBlock) : Prop :=
  ∀ define ∈ block.defines, define.FitsLine

variable {first second block : DefineBlock}

/-- The text of a block, split at its line ends: a line per define, and nothing
behind the last line end. -/
theorem textLines_render (hblock : block.FitsLines) :
    textLines block.render = block.lines.map String.toList ++ [[]] := by
  rw [render_eq_linesText]
  apply textLines_linesText
  intro line hline
  obtain ⟨define, hdefine, rfl⟩ := List.mem_map.mp hline
  exact (hblock define hdefine).newline_not_mem

theorem eq_of_render_eq (hfirst : first.FitsLines) (hsecond : second.FitsLines)
    (heq : first.render = second.render) : first = second := by
  have hlines : first.lines = second.lines := by
    have htexts := congrArg textLines heq
    rw [textLines_render hfirst, textLines_render hsecond] at htexts
    have hcharacters := List.append_cancel_right htexts
    exact (List.map_inj_right fun _ _ => String.toList_inj.mp).mp hcharacters
  have hdefines : first.defines.map id = second.defines.map id := by
    apply (map_eq_map_iff_of ?_).mp hlines
    intro define hdefine other hother
    exact Define.directive_eq_iff (hfirst define hdefine) (hsecond other hother)
  rw [List.map_id, List.map_id] at hdefines
  cases first
  cases second
  rw [DefineBlock.mk.injEq]
  exact hdefines

/-- A block holds the defines of its steps in order, and its text is the texts of
its parts in order.  Nothing of a block whose defines fit in lines is lost in its
text: it has these lines, and no other such block has this text. -/
theorem steps_render_exact :
    (∀ steps,
      (empty.extendAll steps).defines = steps.filterMap BlockStep.define? ∧
        ((empty.extendAll steps).isEmpty = true ↔
          steps.filterMap BlockStep.define? = [])) ∧
      (∀ first second, (empty.extendAll (first ++ second)).render =
        (empty.extendAll first).render ++ (empty.extendAll second).render) ∧
      (∀ first second : DefineBlock, first.FitsLines → second.FitsLines →
        first.render = second.render → first = second) ∧
      ∀ block : DefineBlock, block.FitsLines →
        textLines block.render =
          (block.defines.map Define.directive).map String.toList ++ [[]] := by
  refine ⟨?_, render_empty_extendAll_append, ?_, ?_⟩
  · intro steps
    have hdefines := defines_empty_extendAll steps
    refine ⟨hdefines, ?_⟩
    rw [isEmpty, hdefines, List.isEmpty_iff]
  · intro first second hfirst hsecond
    exact eq_of_render_eq hfirst hsecond
  · intro block hblock
    exact textLines_render hblock

/-- A flag is told from the same name with an empty value. -/
theorem steps_render_exact_empty_value :
    (empty.flag "vecout").FitsLines ∧ (empty.value "vecout" "").FitsLines ∧
      (empty.flag "vecout").render ≠ (empty.value "vecout" "").render := by
  have hflag : (empty.flag "vecout").FitsLines := by
    intro define hdefine
    rw [List.mem_singleton.mp hdefine]
    exact ⟨by decide, by decide, by decide⟩
  have hvalue : (empty.value "vecout" "").FitsLines := by
    intro define hdefine
    rw [List.mem_singleton.mp hdefine]
    exact ⟨by decide, by decide, by decide⟩
  refine ⟨hflag, hvalue, ?_⟩
  intro heq
  have hblocks := steps_render_exact.2.2.1 _ _ hflag hvalue heq
  exact absurd hblocks (by decide)

end DefineBlock

end ShaderFamilies
