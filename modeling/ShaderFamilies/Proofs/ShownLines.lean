import ShaderFamilies.Proofs.DirectiveLines

/-!
# Lines of a text

The lines that a family puts in the place of a marker are lines of the text that
comes out.  Which of them shows a setting can be told by how it begins.
-/

namespace ShaderFamilies

/-! ## Lines between line ends -/

def textLines (text : String) : List (List Char) :=
  text.toList.splitOn '\n'

/-- The text has this line, as a whole. -/
def HasLine (text line : String) : Prop :=
  line.toList ∈ textLines text

instance (text line : String) : Decidable (HasLine text line) :=
  inferInstanceAs (Decidable (_ ∈ _))

theorem textLines_linesText {lines : List String}
    (hlines : ∀ line ∈ lines, '\n' ∉ line.toList) :
    textLines (linesText lines) = lines.map String.toList ++ [[]] := by
  unfold textLines
  induction lines with
  | nil => rfl
  | cons line rest ih =>
      rw [List.forall_mem_cons] at hlines
      rw [toList_linesText_cons, List.splitOn_append_cons_self_of_not_mem hlines.1,
        ih hlines.2]
      rfl

/-- The lines of a block are lines of its text, and there are no others but the
empty one at the end. -/
theorem hasLine_linesText {lines : List String} (hlines : ∀ line ∈ lines, IsDirective line)
    {line : String} (hne : line ≠ "") :
    HasLine (linesText lines) line ↔ line ∈ lines := by
  have hnewline : ∀ other ∈ lines, '\n' ∉ other.toList := by
    intro other hother
    exact (hlines other hother).newline_not_mem
  have hlast : line.toList ≠ [] := by
    intro hnil
    exact hne (String.toList_inj.mp hnil)
  unfold HasLine
  rw [textLines_linesText hnewline, List.mem_append, List.mem_singleton,
    or_iff_left hlast, List.mem_map_of_injective fun _ _ => String.toList_inj.mp]

/-- A line counts as a whole. -/
example : ¬ HasLine "#define KERNEL_RADIUS 04\n" "#define KERNEL_RADIUS 0" := by
  decide

/-! ## How a line begins -/

def BeginsWith (line start : String) : Prop :=
  start.toList <+: line.toList

instance (line start : String) : Decidable (BeginsWith line start) :=
  inferInstanceAs (Decidable (_ <+: _))

theorem beginsWith_append (start word : String) : BeginsWith (start ++ word) start := by
  unfold BeginsWith
  rw [String.toList_append]
  exact List.prefix_append _ _

theorem BeginsWith.append {line start : String} (hline : BeginsWith line start)
    (word : String) : BeginsWith (line ++ word) start := by
  unfold BeginsWith at hline ⊢
  rw [String.toList_append]
  exact hline.trans (List.prefix_append _ _)

/-- Two texts that begin differently do so whatever follows. -/
theorem not_beginsWith_append {start other : String}
    (hapart : ¬ BeginsWith start other ∧ ¬ BeginsWith other start) (word : String) :
    ¬ BeginsWith (other ++ word) start := by
  intro hbegins
  unfold BeginsWith at hbegins
  rw [String.toList_append] at hbegins
  rcases List.prefix_or_prefix_of_prefix hbegins (List.prefix_append _ _) with hone | hone
  · exact hapart.2 hone
  · exact hapart.1 hone

theorem ne_append_of_not_beginsWith {line start : String} (hline : ¬ BeginsWith line start)
    (word : String) : line ≠ start ++ word := by
  intro heq
  rw [heq] at hline
  exact hline (beginsWith_append start word)

/-- Where one line begins in some way and no other does, it shows one value. -/
theorem shown_mem_iff {start shown : String} {before after : List String}
    (hbefore : ∀ line ∈ before, ¬ BeginsWith line start)
    (hafter : ∀ line ∈ after, ¬ BeginsWith line start) (value : String) :
    start ++ value ∈ before ++ (start ++ shown) :: after ↔ value = shown := by
  constructor
  · intro hmem
    rcases List.mem_append.mp hmem with hmem | hmem
    · exact absurd (beginsWith_append start value) (hbefore _ hmem)
    · rcases List.mem_cons.mp hmem with heq | hmem
      · exact (String.append_right_inj start).mp heq
      · exact absurd (beginsWith_append start value) (hafter _ hmem)
  · intro heq
    rw [heq]
    exact List.mem_append_right _ List.mem_cons_self

end ShaderFamilies
