import ShaderFamilies.Proofs.TableFields

/-!
# Visiting the entries of a table

A table is visited entry by entry, in the order of its fields.  Two visits of a table
are related as the visits of each entry are, if sequencing keeps the relation: whatever
is known of single visits in order is known of the visit of the table.
-/

namespace ShaderFamilies

variable {m n : Type → Type} [Monad m] [Monad n] {α β γ δ ε : Type}

/-- A relation that sequencing keeps between the visits of some entries, two kinds of
work, and a function that takes the results of the one to those of the other. -/
structure Sequential
    (related : (β γ : Type) → List α → (β → γ) → m β → n γ → Prop) : Prop where
  pure : ∀ {β γ : Type} (results : β → γ) (value : β),
    related β γ [] results (Pure.pure value) (Pure.pure (results value))
  bind : ∀ {β γ δ ε : Type} {visited rest : List α} {view : β → γ} {results : δ → ε}
    {work : m β} {image : n γ} {next : β → m δ} {imageNext : γ → n ε},
    related β γ visited view work image →
    (∀ value, related δ ε rest results (next value) (imageNext (view value))) →
    related δ ε (visited ++ rest) results (work >>= next) (image >>= imageNext)

namespace Sequential

variable {related : (β γ : Type) → List α → (β → γ) → m β → n γ → Prop}
  (hrelated : Sequential related)
include hrelated

theorem pure_of_eq {results : β → γ} {value : β} {found : γ} (hfound : results value = found) :
    related β γ [] results (Pure.pure value) (Pure.pure found) := by
  rw [← hfound]
  exact hrelated.pure results value

/-- Work whose result is made into another. -/
theorem map {entries : List α} {view : β → γ} {results : δ → ε} {work : m β} {image : n γ}
    {make : β → δ} {imageMake : γ → ε} (hwork : related β γ entries view work image)
    (hmake : ∀ value, results (make value) = imageMake (view value)) :
    related δ ε entries results (do return make (← work)) (do return imageMake (← image)) := by
  rw [← List.append_nil entries]
  apply hrelated.bind hwork
  intro value
  exact hrelated.pure_of_eq (hmake value)

theorem mapM [LawfulMonad m] [LawfulMonad n] {entriesOf : δ → List α} {view : β → γ}
    {visit : δ → m β} {imageVisit : δ → n γ}
    (hvisit : ∀ item, related β γ (entriesOf item) view (visit item) (imageVisit item))
    (items : List δ) :
    related _ _ (items.flatMap entriesOf) (List.map view) (items.mapM visit)
      (items.mapM imageVisit) := by
  induction items with
  | nil =>
      rw [List.mapM_nil, List.mapM_nil]
      exact hrelated.pure _ []
  | cons item rest ih =>
      rw [List.mapM_cons, List.mapM_cons, List.flatMap_cons]
      apply hrelated.bind (hvisit item)
      intro found
      rw [← List.append_nil (rest.flatMap entriesOf)]
      apply hrelated.bind ih
      intro later
      exact hrelated.pure (List.map view) (found :: later)

variable {view : β → γ} {visit : α → m β} {imageVisit : α → n γ}
  (hvisit : ∀ entry, related β γ [entry] view (visit entry) (imageVisit entry))
include hvisit

/-- Work that goes on after the visit of an entry. -/
theorem entry {entry : α} {rest : List α} {results : δ → ε} {next : β → m δ}
    {imageNext : γ → n ε}
    (hnext : ∀ found, related δ ε rest results (next found) (imageNext (view found))) :
    related δ ε (entry :: rest) results (visit entry >>= next)
      (imageVisit entry >>= imageNext) :=
  hrelated.bind (hvisit entry) hnext

theorem lightTable (table : LightTable α) :
    related _ _ table.values (LightTable.map view) (table.traverse visit)
      (table.traverse imageVisit) := by
  repeat
    apply hrelated.entry hvisit
    intro _
  exact hrelated.pure _ _

theorem pointLightTable (table : PointLightTable α) :
    related _ _ table.values (PointLightTable.map view) (table.traverse visit)
      (table.traverse imageVisit) := by
  apply hrelated.bind (hrelated.lightTable hvisit table.light)
  intro _
  repeat
    apply hrelated.entry hvisit
    intro _
  exact hrelated.pure _ _

theorem dirLightTable (table : DirLightTable α) :
    related _ _ table.values (DirLightTable.map view) (table.traverse visit)
      (table.traverse imageVisit) := by
  apply hrelated.bind (hrelated.lightTable hvisit table.light)
  intro _
  repeat
    apply hrelated.entry hvisit
    intro _
  exact hrelated.pure _ _

theorem dofTable (table : DofTable α) :
    related _ _ (table.entries.map (·.2)) (DofTable.map view) (table.traverse visit)
      (table.traverse imageVisit) := by
  repeat
    apply hrelated.entry hvisit
    intro _
  exact hrelated.pure _ _

variable [LawfulMonad m] [LawfulMonad n]

theorem colorTable (table : ColorTable α) :
    related _ _ table.values (ColorTable.map view) (table.traverse visit)
      (table.traverse imageVisit) := by
  apply hrelated.bind (hrelated.mapM (hrelated.pointLightTable hvisit) table.pointLights)
  intro _
  apply hrelated.bind (hrelated.mapM (hrelated.dirLightTable hvisit) table.dirLights)
  intro _
  repeat
    apply hrelated.entry hvisit
    intro _
  exact hrelated.pure_of_eq (ColorTable.map_eq view _)

/-- All kinds of tables. -/
theorem table (table : Table α) :
    related _ _ (table.fields.map (·.2)) (Table.map view) (table.traverse visit)
      (table.traverse imageVisit) := by
  cases table with
  | color table =>
      rw [Table.fields, ColorTable.map_snd_fields]
      exact hrelated.map (hrelated.colorTable hvisit table) fun _ => rfl
  | dof table => exact hrelated.map (hrelated.dofTable hvisit table) fun _ => rfl
  | dofBlur table =>
      refine hrelated.map ?_ fun _ => rfl
      apply hrelated.bind (hrelated.dofTable hvisit table.dof)
      intro _
      repeat
        apply hrelated.entry hvisit
        intro _
      exact hrelated.pure _ _
  | dofCoc table =>
      refine hrelated.map ?_ fun _ => rfl
      exact hrelated.map (hrelated.dofTable hvisit table.dof) fun _ => rfl
  | shadow table | blend table | ssr table | bloomSearch table | blur table
  | cubemap table =>
      refine hrelated.map ?_ fun _ => rfl
      repeat
        apply hrelated.entry hvisit
        intro _
      exact hrelated.pure _ _

end Sequential

/-- A property of work that sequencing keeps, whatever the results are. -/
theorem Table.traverse_induction [LawfulMonad m] {motive : (β : Type) → m β → Prop}
    (hpure : ∀ (β : Type) (value : β), motive β (pure value))
    (hbind : ∀ (β γ : Type) (work : m β) (next : β → m γ), motive β work →
      (∀ value, motive γ (next value)) → motive γ (work >>= next))
    {visit : α → m β} (hvisit : ∀ entry, motive β (visit entry)) (table : Table α) :
    motive _ (table.traverse visit) := by
  have hrelated : Sequential (α := α) (n := m) fun β _ _ _ work _ => motive β work := {
    pure := fun _ value => hpure _ value
    bind := fun hwork hnext => hbind _ _ _ _ hwork hnext }
  -- the visit is related to itself, since the relation says nothing of the second one
  exact @Sequential.table m m _ _ α β β _ hrelated id visit visit hvisit _ _ table

end ShaderFamilies
