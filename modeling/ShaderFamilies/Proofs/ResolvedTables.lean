import ShaderFamilies.Proofs.ColorLookups
import ShaderFamilies.Proofs.ObjectLedger

/-!
# Resolving a table

Resolving a table of any kind asks the device for the location of each field, one after
the other, and does nothing else.  The fields hold what the device gave, a negative
number as it is.  What was not found is logged in the order of the lookups, each name
once, since no table asks for a name twice.
-/

namespace ShaderFamilies

variable {σ S P : Type}

/-! ## No name twice -/

theorem TableKind.nodup_lookups (kind : TableKind) : kind.lookups.Nodup := by
  cases kind with
  | color points directions =>
      have hlookups : (TableKind.color points directions).lookups =
          colorLookups points directions :=
        (ColorTable.map_snd_fields _).trans (values_slots points directions)
      rw [hlookups]
      exact nodup_colorLookups points directions
  | shadow | dof | dofBlur | dofCoc | blend | ssr | bloomSearch | blur | cubemap =>
      decide +kernel

section

variable (device : Device σ S P) (program : P)

/-- The answers of the lookups of a table, as a function of the slots. -/
theorem TableKind.exists_answer (kind : TableKind) (state : σ) :
    ∃ answer, Lookup.Agree (device.lookups program kind.lookups state).1 answer := by
  apply Lookup.exists_answer
  rw [slots_lookups]
  exact kind.nodup_lookups

/-! ## The fields of a resolved table -/

/-- The fields with the locations that were found for them. -/
theorem zipWith_lookups {answer : Slot → Location} (fields : List (String × Slot))
    (state : σ) :
    let looked := device.lookups program (fields.map (·.2)) state
    Lookup.Agree looked.1 answer →
    fields.zipWith (fun field lookup => (field.1, lookup.location)) looked.1 =
      fields.map fun field => (field.1, answer field.2) := by
  induction fields generalizing state with
  | nil =>
      intro looked _
      rfl
  | cons field rest ih =>
      intro looked hagree
      rcases List.forall_mem_cons.mp hagree with ⟨hfirst, hrest⟩
      rw [List.map_cons, ← ih (device.location program field.2 state).2 hrest]
      exact congrArg (fun location => (field.1, location) :: _) hfirst.symm

/-- The three passes look up the shared names first, and alike. -/
theorem resolve_shared (files : FileTree) (state : σ) :
    ∃ (shared : DofTable Location) (blurred : DofBlurTable Location),
      (observe (resolve device.recorded program .dof) files state).result =
        .ok (.dof shared) ∧
      (observe (resolve device.recorded program .dofCoc) files state).result =
        .ok (.dofCoc ⟨shared⟩) ∧
      (observe (resolve device.recorded program .dofBlur) files state).result =
        .ok (.dofBlur blurred) ∧
      blurred.dof = shared := by
  rcases TableKind.exists_answer device program .dofBlur state with ⟨answer, hblurred⟩
  -- the lookups of the other two tables are the first ten of these
  have hshared : Lookup.Agree (device.lookups program TableKind.dof.lookups state).1 answer := by
    have hlookups : TableKind.dofBlur.lookups =
        TableKind.dof.lookups ++ DofBlurTable.slots.entries.map (·.2) := rfl
    rw [hlookups, lookups_append] at hblurred
    exact (List.forall_mem_append.mp hblurred).1
  let blurred := Id.run (DofBlurTable.slots.traverse fun slot => pure (answer slot))
  refine ⟨DofTable.slots.map answer, blurred, ?_, ?_, ?_, rfl⟩
  · exact congrArg Observation.result
      (observe_resolve device program .dof files state answer hshared)
  · exact congrArg Observation.result
      (observe_resolve device program .dofCoc files state answer hshared)
  · exact congrArg Observation.result
      (observe_resolve device program .dofBlur files state answer hblurred)

end

/-! ## Resolving -/

theorem afterAll_lookupCalls (ledger : Ledger S P) (program : P) (lookups : List Lookup) :
    ledger.afterAll (lookupCalls program lookups) = ledger := by
  induction lookups with
  | nil => rfl
  | cons lookup rest ih =>
      have hafter : ledger.after (lookupCall program lookup.slot lookup.location) = ledger := by
        cases lookup.slot <;> rfl
      unfold lookupCalls at ih ⊢
      rw [List.map_cons, Ledger.afterAll_cons, hafter, ih]

/-- Resolving a table looks up each of its fields once and keeps what the device gave.
Nothing else is done: no object and no file changes, and the log has a line for each
lookup that gave a negative number, and no other. -/
theorem resolve_only_looks (device : Device σ S P) (program : P) (files : FileTree)
    (state : σ) (showStage : S → String) (showProgram : P → String) :
    (∀ kind : TableKind,
      let resolved := observe (resolve device.recorded program kind) files state
      let looked := device.lookups program kind.lookups state
      kind.lookups.Nodup ∧ looked.1.map (·.slot) = kind.lookups ∧
      resolved.calls =
        looked.1.map (fun lookup => lookupCall program lookup.slot lookup.location) ∧
      (∃ table, resolved.result = .ok table ∧
        table.fields = kind.slots.fields.zipWith
          (fun field lookup => (field.1, lookup.location)) looked.1) ∧
      resolved.log.map (fun event => (event.level, event.message showStage showProgram)) =
        (looked.1.filter fun lookup => lookup.location.raw < 0).map
          (fun lookup => missingLine showProgram program lookup.slot) ∧
      resolved.state = looked.2 ∧ resolved.files = files ∧
      ∀ ledger : Ledger S P, ledger.afterAll resolved.calls = ledger) ∧
    ∃ (shared : DofTable Location) (blurred : DofBlurTable Location),
      (observe (resolve device.recorded program .dof) files state).result =
        .ok (.dof shared) ∧
      (observe (resolve device.recorded program .dofCoc) files state).result =
        .ok (.dofCoc ⟨shared⟩) ∧
      (observe (resolve device.recorded program .dofBlur) files state).result =
        .ok (.dofBlur blurred) ∧
      blurred.dof = shared := by
  refine ⟨?_, resolve_shared device program files state⟩
  intro kind resolved looked
  rcases TableKind.exists_answer device program kind state with ⟨answer, hagree⟩
  have hresolved : resolved = _ :=
    observe_resolve device program kind files state answer hagree
  have hfields : (kind.slots.map answer).fields = _ :=
    (Table.fields_map answer kind.slots).trans
      (zipWith_lookups device program kind.slots.fields state hagree).symm
  rw [hresolved]
  refine ⟨kind.nodup_lookups, slots_lookups device program kind.lookups state, rfl,
    ⟨kind.slots.map answer, rfl, hfields⟩, ?_, rfl, rfl, ?_⟩
  · unfold missingEvents
    rw [List.map_map]
    apply List.map_congr_left
    intro lookup _
    exact line_missingEvent showStage showProgram program lookup.slot
  · intro ledger
    exact afterAll_lookupCalls ledger program looked.1

end ShaderFamilies
