import Mathlib.Tactic.SplitIfs
import ShaderFamilies.FileTree

/-!
# Places of files

A path names a place for a file: its last name, in the directory that the names
before it lead to.  A file that is written to some place changes what is there and
nothing else, and every path goes on naming the place that it named.
-/

namespace ShaderFamilies

namespace FileTree

variable {tree : FileTree} {place : Place} {node : FileNode} {content : Bytes}
  {path : String}

/-! ## Inserting -/

theorem lookup_filter_ne (entries : List (Place × FileNode)) (place other : Place) :
    (entries.filter (·.1 != place)).lookup other =
      if other = place then none else entries.lookup other := by
  induction entries with
  | nil => simp
  | cons entry rest ih =>
      obtain ⟨first, node⟩ := entry
      by_cases hfirst : first = place
      · rw [List.filter_cons_of_neg (by simpa using hfirst), ih]
        by_cases hother : other = place
        · rw [if_pos hother, if_pos hother]
        · have hne : (other == first) = false := by
            rw [hfirst]
            exact beq_false_of_ne hother
          rw [if_neg hother, if_neg hother, List.lookup_cons, hne]
      · rw [List.filter_cons_of_pos (by simpa using hfirst), List.lookup_cons,
          List.lookup_cons, ih]
        cases hsame : other == first with
        | true =>
            have hother : other ≠ place := by
              rw [eq_of_beq hsame]
              exact hfirst
            exact (if_neg hother).symm
        | false => rfl

theorem isGiven_eq_false (hplace : tree.node? place ≠ some .directory) :
    place.isGiven = false := by
  unfold node? at hplace
  cases hgiven : place.isGiven with
  | true => exact absurd (by rw [if_pos hgiven]) hplace
  | false => rfl

/-- Inserting changes one place. -/
theorem node?_insert (hplace : tree.node? place ≠ some .directory) (other : Place) :
    (tree.insert place node).node? other =
      if other = place then some node else tree.node? other := by
  have hgiven := isGiven_eq_false hplace
  unfold node? insert
  rw [List.lookup_append, lookup_filter_ne]
  by_cases hother : other = place
  · simp [hother, hgiven]
  · have hne : (other == place) = false := beq_false_of_ne hother
    simp [hother, List.lookup_cons, hne]

/-! ## Walking -/

/-- A name of a file or a directory in the directory that holds it. -/
def IsEntryName (name : String) : Prop :=
  name ≠ "." ∧ name ≠ ".." ∧ name.utf8ByteSize ≤ longestName

/-- A step stays, goes up, or enters what is there under the name. -/
theorem step_eq_ok_iff {standing next : Standing} {component : String} :
    tree.step standing component = .ok next ↔
      standing.node = .directory ∧
        (component = "." ∧ next = standing ∨
          component = ".." ∧ next = ⟨standing.place.above, .directory⟩ ∨
          IsEntryName component ∧ next.place = standing.place ++ [component] ∧
            tree.node? next.place = some next.node) := by
  unfold step IsEntryName
  cases standing.node with
  | file content => simp
  | directory =>
      obtain ⟨place, node⟩ := next
      split_ifs with hstay hup hlong
      · simp [hstay, eq_comm]
      · simp [hup, eq_comm]
      · simp [hstay, hup, Nat.not_le.mpr hlong]
      · have hentry : component ≠ "." ∧ component ≠ ".." ∧
            component.utf8ByteSize ≤ longestName := ⟨hstay, hup, Nat.not_lt.mp hlong⟩
        constructor
        · intro hstep
          cases hnode : tree.node? (standing.place ++ [component]) with
          | none =>
              rw [hnode] at hstep
              cases hstep
          | some found =>
              rw [hnode] at hstep
              cases hstep
              exact ⟨rfl, .inr (.inr ⟨hentry, rfl, hnode⟩)⟩
        · rintro ⟨_, ⟨heq, _⟩ | ⟨heq, _⟩ | ⟨_, hplace, hnode⟩⟩
          · exact absurd heq hstay
          · exact absurd heq hup
          · dsimp only at hplace hnode
            rw [hplace] at hnode ⊢
            rw [hnode]

theorem walk_concat_eq_ok_iff {standing last : Standing} {front : List String}
    {name : String} :
    tree.walk standing (front ++ [name]) = .ok last ↔
      ∃ next, tree.walk standing front = .ok next ∧ tree.step next name = .ok last := by
  induction front generalizing standing with
  | nil =>
      have hlast : tree.walk standing [name] = tree.step standing name := by
        rw [walk]
        cases tree.step standing name <;> rfl
      simp [walk, hlast]
  | cons component front ih =>
      rw [List.cons_append, walk, walk]
      cases tree.step standing component with
      | ok next => exact ih
      | error fault => simp

/-- No name leads on from a file. -/
theorem walk_of_file {last : Standing} {components : List String}
    (hwalk : tree.walk ⟨place, .file content⟩ components = .ok last) :
    last = ⟨place, .file content⟩ := by
  cases components with
  | nil => exact (Except.ok.inj hwalk).symm
  | cons component rest => cases hwalk

/-- A step into a directory does not come to a place for a file. -/
theorem step_insert {standing : Standing} {component : String} {next : Place}
    (hplace : tree.node? place ≠ some .directory)
    (hstep : tree.step standing component = .ok ⟨next, .directory⟩) :
    (tree.insert place (.file content)).step standing component =
      .ok ⟨next, .directory⟩ := by
  rw [step_eq_ok_iff] at hstep ⊢
  rcases hstep with ⟨hfrom, hstay | hup | ⟨hname, hnext, hnode⟩⟩
  · exact ⟨hfrom, .inl hstay⟩
  · exact ⟨hfrom, .inr (.inl hup)⟩
  · refine ⟨hfrom, .inr (.inr ⟨hname, hnext, ?_⟩)⟩
    have hne : next ≠ place := by
      intro heq
      rw [heq] at hnode
      exact hplace hnode
    rw [node?_insert hplace, if_neg hne]
    exact hnode

/-- A walk to a directory does not come past a place for a file. -/
theorem walk_insert {standing : Standing} {components : List String} {last : Place}
    (hplace : tree.node? place ≠ some .directory)
    (hwalk : tree.walk standing components = .ok ⟨last, .directory⟩) :
    (tree.insert place (.file content)).walk standing components =
      .ok ⟨last, .directory⟩ := by
  induction components generalizing standing with
  | nil => exact hwalk
  | cons component rest ih =>
      unfold walk at hwalk ⊢
      cases hstep : tree.step standing component with
      | error fault =>
          rw [hstep] at hwalk
          cases hwalk
      | ok next =>
          rw [hstep] at hwalk
          obtain ⟨next, node⟩ := next
          cases node with
          | file found => cases walk_of_file hwalk
          | directory =>
              rw [step_insert hplace hstep]
              exact ih hwalk

/-! ## Naming -/

/-- The path names the place: its last name, in the directory that the names before
it lead to. -/
inductive Names (tree : FileTree) (path : String) : Place → Prop
  | intro {start : Standing} {front : List String} {name : String} {parent : Place}
      (hroute : route path = .ok ⟨start, front ++ [name], false⟩)
      (hwalk : tree.walk start front = .ok ⟨parent, .directory⟩)
      (hname : IsEntryName name) : Names tree path (parent ++ [name])

theorem Names.insert {other : Place} (hnames : tree.Names path other)
    (hplace : tree.node? place ≠ some .directory) :
    (tree.insert place (.file content)).Names path other := by
  cases hnames with
  | intro hroute hwalk hname => exact .intro hroute (walk_insert hplace hwalk) hname

theorem bind_eq_ok_iff {α β : Type} {first : Except FileFault α}
    {next : α → Except FileFault β} {value : β} :
    (first >>= next) = .ok value ↔ ∃ found, first = .ok found ∧ next found = .ok value := by
  cases first <;> simp [bind, Except.bind]

/-- A file can be written exactly to the place that its path names, if no directory is
there. -/
theorem target_eq_ok_iff :
    tree.target path = .ok place ↔
      tree.Names path place ∧ tree.node? place ≠ some .directory := by
  unfold target
  rw [bind_eq_ok_iff]
  constructor
  · rintro ⟨⟨start, components, asksDirectory⟩, hroute, htarget⟩
    dsimp only at htarget
    rcases components.eq_nil_or_concat with rfl | ⟨front, name, rfl⟩
    · cases htarget
    · rw [List.concat_eq_append] at hroute htarget
      rw [List.getLast?_concat, List.dropLast_concat] at htarget
      rcases bind_eq_ok_iff.mp htarget with ⟨⟨parent, node⟩, hwalk, hentry⟩
      cases node with
      | file content => cases hentry
      | directory =>
          dsimp only at hentry
          -- what is left of the tests is a name to look up in the directory
          split_ifs at hentry with hspecial hlong
          simp only [not_or, Bool.not_eq_true] at hspecial
          rcases hspecial with ⟨hstay, hup, rfl⟩
          have hnames : tree.Names path (parent ++ [name]) :=
            .intro hroute hwalk ⟨hstay, hup, Nat.not_lt.mp hlong⟩
          split at hentry
          · cases hentry
          · next hplace =>
              cases hentry
              exact ⟨hnames, hplace⟩
  · rintro ⟨hnames, hplace⟩
    cases hnames with
    | @intro start front name parent hroute hwalk hname =>
        refine ⟨_, hroute, ?_⟩
        dsimp only
        rw [List.getLast?_concat, List.dropLast_concat]
        refine bind_eq_ok_iff.mpr ⟨_, hwalk, ?_⟩
        have hspecial : ¬ (name = "." ∨ name = ".." ∨ false = true) := by
          simp [hname.1, hname.2.1]
        dsimp only
        rw [if_neg hspecial, if_neg (Nat.not_lt.mpr hname.2.2)]
        split
        · next hdirectory => exact absurd hdirectory hplace
        · rfl

theorem route_start {route : Route} (hroute : FileTree.route path = .ok route) :
    route.start.node = .directory := by
  unfold FileTree.route at hroute
  split_ifs at hroute
  cases hroute
  rfl

theorem read_eq_ok_iff_walk :
    tree.read path = .ok content ↔
      ∃ start components place, route path = .ok ⟨start, components, false⟩ ∧
        tree.walk start components = .ok ⟨place, .file content⟩ := by
  unfold read
  simp only [bind_eq_ok_iff]
  constructor
  · rintro ⟨⟨start, components, asksDirectory⟩, hroute, ⟨place, node⟩, hwalk, hcontent⟩
    cases node with
    | directory => cases hcontent
    | file found =>
        cases asksDirectory with
        | true => cases hcontent
        | false =>
            cases hcontent
            exact ⟨start, components, place, hroute, hwalk⟩
  · rintro ⟨start, components, place, hroute, hwalk⟩
    exact ⟨_, hroute, _, hwalk, rfl⟩

/-- A path can be read exactly if there is a file at the place that it names. -/
theorem read_eq_ok_iff :
    tree.read path = .ok content ↔
      ∃ place, tree.Names path place ∧ tree.node? place = some (.file content) := by
  rw [read_eq_ok_iff_walk]
  constructor
  · rintro ⟨start, components, place, hroute, hwalk⟩
    rcases components.eq_nil_or_concat with rfl | ⟨front, name, rfl⟩
    · have hstart := route_start hroute
      cases hwalk
      cases hstart
    · rw [List.concat_eq_append] at hroute hwalk
      rcases walk_concat_eq_ok_iff.mp hwalk with ⟨⟨parent, node⟩, hfront, hstep⟩
      rcases step_eq_ok_iff.mp hstep with ⟨rfl, ⟨_, hstay⟩ | ⟨_, hup⟩ | ⟨hname, hplace, hnode⟩⟩
      · cases hstay
      · cases hup
      · cases hplace
        exact ⟨_, .intro hroute hfront hname, hnode⟩
  · rintro ⟨place, hnames, hnode⟩
    cases hnames with
    | @intro start front name parent hroute hwalk hname =>
        have hstep : tree.step ⟨parent, .directory⟩ name =
            .ok ⟨parent ++ [name], .file content⟩ :=
          step_eq_ok_iff.mpr ⟨rfl, .inr (.inr ⟨hname, rfl, hnode⟩)⟩
        exact ⟨start, front ++ [name], parent ++ [name], hroute,
          walk_concat_eq_ok_iff.mpr ⟨_, hwalk, hstep⟩⟩

/-! ## Writing -/

theorem target_insert {other : Place} (hplace : tree.node? place ≠ some .directory)
    (htarget : tree.target path = .ok other) :
    (tree.insert place (.file content)).target path = .ok other := by
  rw [target_eq_ok_iff] at htarget ⊢
  refine ⟨htarget.1.insert hplace, ?_⟩
  rw [node?_insert hplace]
  split_ifs
  · simp
  · exact htarget.2

theorem write_of_target (htarget : tree.target path = .ok place) :
    tree.write path content = .ok (tree.insert place (.file content)) := by
  unfold write
  rw [htarget]
  rfl

end FileTree

end ShaderFamilies
