import ShaderFamilies.Proofs.ObservedWork
import ShaderFamilies.Proofs.TableVisits

/-!
# Filling a table

A table is filled by looking up its slots one after the other.  Each lookup is one
call on the device, and the entry holds the location that this call gave.  What was
not found is logged in the order of the lookups.
-/

namespace ShaderFamilies

variable {σ S P β γ : Type}

/-! ## Lookups -/

/-- The location of a slot in a program, as the device gives it. -/
def Device.location (device : Device σ S P) (program : P) : Slot → StateM σ Location
  | .attribute name => device.attributeLocation program name
  | .uniform name => device.uniformLocation program name

/-- The call that looks up a slot, with the location that it gave. -/
def lookupCall (program : P) (slot : Slot) (location : Location) : DeviceCall S P :=
  match slot with
  | .attribute name => .attributeLocation program name location
  | .uniform name => .uniformLocation program name location

/-- The event that a program does not have a slot. -/
def missingEvent (program : P) : Slot → LogEvent S P
  | .attribute name => .attributeMissing name program
  | .uniform name => .uniformMissing name program

/-- What is logged of a name that a program does not have. -/
def missingLine (showProgram : P → String) (program : P) : Slot → LogLevel × String
  | .attribute name =>
      (.trace, "Attribute '" ++ name ++ "' not found in program " ++ showProgram program)
  | .uniform name =>
      (.trace, "Uniform '" ++ name ++ "' not found in program " ++ showProgram program)

theorem line_missingEvent (showStage : S → String) (showProgram : P → String) (program : P)
    (slot : Slot) :
    let event : LogEvent S P := missingEvent program slot
    (event.level, event.message showStage showProgram) =
      missingLine showProgram program slot := by
  cases slot <;> rfl

/-- A slot that was looked up, with its location. -/
structure Lookup where
  slot : Slot
  location : Location

namespace Lookup

/-- The device gives this location for the slot, in some state. -/
def GivenBy (lookup : Lookup) (device : Device σ S P) (program : P) : Prop :=
  ∃ state, (device.location program lookup.slot state).1 = lookup.location

/-- The locations of slots as lookups found them. -/
def Agree (lookups : List Lookup) (answer : Slot → Location) : Prop :=
  ∀ lookup ∈ lookups, answer lookup.slot = lookup.location

end Lookup

/-- Where no slot is looked up twice, the locations are a function of the slots. -/
theorem Lookup.exists_answer {lookups : List Lookup}
    (hnodup : (lookups.map Lookup.slot).Nodup) : ∃ answer, Lookup.Agree lookups answer := by
  induction lookups with
  | nil => exact ⟨fun _ => .notFound, List.forall_mem_nil _⟩
  | cons lookup rest ih =>
      rw [List.map_cons, List.nodup_cons] at hnodup
      rcases ih hnodup.2 with ⟨answer, hanswer⟩
      refine ⟨fun slot => if slot = lookup.slot then lookup.location else answer slot, ?_⟩
      have hrest : ∀ other ∈ rest,
          (if other.slot = lookup.slot then lookup.location else answer other.slot) =
            other.location := by
        intro other hother
        have hne : other.slot ≠ lookup.slot := by
          intro heq
          exact hnodup.1 (heq ▸ List.mem_map_of_mem hother)
        rw [if_neg hne]
        exact hanswer other hother
      exact List.forall_mem_cons.mpr ⟨if_pos rfl, hrest⟩

/-! ## Lookups one after the other -/

/-- Looks up slots in a program.  Each is answered in the state that the lookups before
it have left. -/
def Device.lookups (device : Device σ S P) (program : P) :
    List Slot → σ → List Lookup × σ
  | [], state => ([], state)
  | slot :: rest, state =>
      let answer := device.location program slot state
      let later := device.lookups program rest answer.2
      (⟨slot, answer.1⟩ :: later.1, later.2)

def lookupCalls (program : P) (lookups : List Lookup) : List (DeviceCall S P) :=
  lookups.map fun lookup => lookupCall program lookup.slot lookup.location

def missingEvents (program : P) (lookups : List Lookup) : List (LogEvent S P) :=
  (lookups.filter fun lookup => lookup.location.raw < 0).map fun lookup =>
    missingEvent program lookup.slot

section

variable (device : Device σ S P) (program : P)

theorem slots_lookups (slots : List Slot) (state : σ) :
    (device.lookups program slots state).1.map (·.slot) = slots := by
  induction slots generalizing state with
  | nil => rfl
  | cons slot rest ih =>
      unfold Device.lookups
      rw [List.map_cons, ih]

theorem lookups_append (first second : List Slot) (state : σ) :
    let before := device.lookups program first state
    let after := device.lookups program second before.2
    device.lookups program (first ++ second) state = (before.1 ++ after.1, after.2) := by
  induction first generalizing state with
  | nil => rfl
  | cons slot rest ih =>
      intro before after
      have hrest := ih (device.location program slot state).2
      rw [List.cons_append, Device.lookups, hrest]
      rfl

theorem lookups_givenBy (slots : List Slot) (state : σ) :
    ∀ lookup ∈ (device.lookups program slots state).1, lookup.GivenBy device program := by
  induction slots generalizing state with
  | nil => exact List.forall_mem_nil _
  | cons slot rest ih => exact List.forall_mem_cons.mpr ⟨⟨state, rfl⟩, ih _⟩

theorem lookupCalls_of_agree {lookups : List Lookup} {answer : Slot → Location}
    (hagree : Lookup.Agree lookups answer) :
    (lookupCalls program lookups : List (DeviceCall S P)) =
      (lookups.map (·.slot)).map fun slot => lookupCall program slot (answer slot) := by
  unfold lookupCalls
  rw [List.map_map]
  apply List.map_congr_left
  intro lookup hlookup
  exact congrArg (lookupCall program lookup.slot) (hagree lookup hlookup).symm

end

/-- The workbench after lookups that left the device in a state. -/
def Workbench.afterLookups (bench : Workbench (Recorded σ (DeviceCall S P)) S P)
    (program : P) (lookups : List Lookup) (state : σ) :
    Workbench (Recorded σ (DeviceCall S P)) S P where
  files := bench.files
  device := ⟨state, bench.device.calls ++ (lookupCalls program lookups).toArray⟩
  log := bench.log ++ (missingEvents program lookups).toArray

theorem Workbench.afterLookups_nil
    (bench : Workbench (Recorded σ (DeviceCall S P)) S P) (program : P) :
    bench.afterLookups program [] bench.device.state = bench := by
  simp [afterLookups, lookupCalls, missingEvents]

theorem Workbench.afterLookups_append
    (bench : Workbench (Recorded σ (DeviceCall S P)) S P) (program : P)
    (first second : List Lookup) (between state : σ) :
    bench.afterLookups program (first ++ second) state =
      (bench.afterLookups program first between).afterLookups program second state := by
  simp [afterLookups, lookupCalls, missingEvents, Array.append_assoc]

/-! ## Work that looks up -/

section

variable (device : Device σ S P) (program : P)

/-- A location that is not found is logged, and given back like any other. -/
theorem reportMissing_run (lookup : Lookup)
    (bench : Workbench (Recorded σ (DeviceCall S P)) S P) :
    (do
      unless lookup.location.isFound do Work.note (missingEvent program lookup.slot)
      return lookup.location :
        Work (Recorded σ (DeviceCall S P)) S P Location).run bench =
      (.ok lookup.location,
        { bench with log := bench.log ++ (missingEvents program [lookup]).toArray }) := by
  cases hfound : lookup.location.isFound with
  | true =>
      have hpresent : ¬ lookup.location.raw < 0 :=
        Int32.not_lt.mpr (decide_eq_true_iff.mp hfound)
      have hevents : (missingEvents program [lookup] : List (LogEvent S P)) = [] := by
        simp [missingEvents, hpresent]
      rw [hevents, Array.append_empty]
      rfl
  | false =>
      have habsent : lookup.location.raw < 0 :=
        Int32.not_le.mp (of_decide_eq_false hfound)
      have hevents : (missingEvents program [lookup] : List (LogEvent S P)) =
          [missingEvent program lookup.slot] := by
        simp [missingEvents, habsent]
      rw [hevents]
      rfl

theorem lookUp_run (slot : Slot)
    (bench : Workbench (Recorded σ (DeviceCall S P)) S P) :
    let found := device.location program slot bench.device.state
    (lookUp device.recorded program slot).run bench =
      (.ok found.1, bench.afterLookups program [⟨slot, found.1⟩] found.2) := by
  intro found
  rcases slot with name | name
  · exact reportMissing_run program ⟨.attribute name, found.1⟩ _
  · exact reportMissing_run program ⟨.uniform name, found.1⟩ _

variable (answer : Slot → Location)

/-- Work that looks up slots in order and does nothing else.  Where the answers are
those of the lookups, its result is that of a value. -/
def Fills (β γ : Type) (slots : List Slot) (results : β → γ) (value : Id β)
    (work : Work (Recorded σ (DeviceCall S P)) S P γ) : Prop :=
  ∀ bench,
    let looked := device.lookups program slots bench.device.state
    Lookup.Agree looked.1 answer →
    work.run bench = (.ok (results value.run), bench.afterLookups program looked.1 looked.2)

theorem fills_lookUp (slot : Slot) :
    Fills device program answer Slot Location [slot] answer (pure slot)
      (lookUp device.recorded program slot) := by
  intro bench looked hagree
  have hanswer : answer slot = (device.location program slot bench.device.state).1 :=
    hagree ⟨slot, _⟩ List.mem_cons_self
  rw [Id.run_pure, hanswer]
  exact lookUp_run device program slot bench

theorem fills_sequential : Sequential (Fills device program answer) where
  pure results value := by
    intro bench looked _
    have hbench : bench.afterLookups program looked.1 looked.2 = bench :=
      bench.afterLookups_nil program
    rw [hbench]
    rfl
  bind := by
    intro β γ δ ε visited rest view results value work next workNext hwork hnext bench
      looked hagree
    let before := device.lookups program visited bench.device.state
    let between := bench.afterLookups program before.1 before.2
    let after := device.lookups program rest before.2
    have hlooked : looked = (before.1 ++ after.1, after.2) :=
      lookups_append device program visited rest bench.device.state
    rw [hlooked] at hagree ⊢
    rcases List.forall_mem_append.mp hagree with ⟨hbefore, hafter⟩
    rw [Work.run_bind, hwork bench hbefore, bench.afterLookups_append program before.1 after.1
      before.2 after.2]
    exact hnext value.run between hafter

end

/-! ## Tables -/

/-- What the table of a kind looks up, in order. -/
def TableKind.lookups (kind : TableKind) : List Slot :=
  kind.slots.fields.map (·.2)

/-- All that is seen of resolving a table. -/
theorem observe_resolve (device : Device σ S P) (program : P) (kind : TableKind)
    (files : FileTree) (state : σ) (answer : Slot → Location) :
    let looked := device.lookups program kind.lookups state
    Lookup.Agree looked.1 answer →
    observe (resolve device.recorded program kind) files state =
      { result := .ok (kind.slots.map answer)
        calls := lookupCalls program looked.1
        log := missingEvents program looked.1
        files
        state := looked.2 } := by
  intro looked hagree
  have hrun := (fills_sequential device program answer).table
    (fills_lookUp device program answer) kind.slots
    { files, device := ⟨state, #[]⟩, log := #[] } hagree
  have hslots : Id.run (kind.slots.traverse pure) = kind.slots := kind.slots.map_id
  rw [hslots] at hrun
  rw [resolve, observe_of_run hrun]
  simp [Workbench.afterLookups, looked, TableKind.lookups]

end ShaderFamilies
