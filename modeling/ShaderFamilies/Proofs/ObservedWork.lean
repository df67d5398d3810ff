import ShaderFamilies.FamilyBuild

/-!
# Work as an observer sees it

From outside, a piece of work is the calls that it makes on its device, the
events that it logs, and the way it ends.  The work of a build only looks at
its files, so what it does is related to its result by a relation that depends
on the files alone.  The rules below derive such a relation from the shape of
the work.
-/

namespace ShaderFamilies

variable {σ S P α β : Type}

/-- A call of the device or an event of the log. -/
inductive Deed (S P : Type)
  | call (call : DeviceCall S P)
  | note (event : LogEvent S P)

def Deed.call? : Deed S P → Option (DeviceCall S P)
  | .call made => some made
  | .note _ => none

def Deed.note? : Deed S P → Option (LogEvent S P)
  | .call _ => none
  | .note event => some event

/-- The calls among deeds. -/
def callsOf (deeds : List (Deed S P)) : List (DeviceCall S P) :=
  deeds.filterMap Deed.call?

/-- The events among deeds. -/
def notesOf (deeds : List (Deed S P)) : List (LogEvent S P) :=
  deeds.filterMap Deed.note?

@[simp] theorem callsOf_nil : callsOf ([] : List (Deed S P)) = [] :=
  rfl

@[simp] theorem callsOf_call (call : DeviceCall S P) (deeds : List (Deed S P)) :
    callsOf (.call call :: deeds) = call :: callsOf deeds :=
  rfl

@[simp] theorem callsOf_note (event : LogEvent S P) (deeds : List (Deed S P)) :
    callsOf (.note event :: deeds) = callsOf deeds :=
  rfl

@[simp] theorem callsOf_append (first second : List (Deed S P)) :
    callsOf (first ++ second) = callsOf first ++ callsOf second :=
  List.filterMap_append

@[simp] theorem callsOf_map_call {H : Type} (make : H → DeviceCall S P)
    (handles : List H) :
    callsOf (handles.map fun handle => .call (make handle)) = handles.map make := by
  induction handles with
  | nil => rfl
  | cons handle rest ih => simp [ih]

@[simp] theorem notesOf_nil : notesOf ([] : List (Deed S P)) = [] :=
  rfl

@[simp] theorem notesOf_call (call : DeviceCall S P) (deeds : List (Deed S P)) :
    notesOf (.call call :: deeds) = notesOf deeds :=
  rfl

@[simp] theorem notesOf_note (event : LogEvent S P) (deeds : List (Deed S P)) :
    notesOf (.note event :: deeds) = event :: notesOf deeds :=
  rfl

@[simp] theorem notesOf_append (first second : List (Deed S P)) :
    notesOf (first ++ second) = notesOf first ++ notesOf second :=
  List.filterMap_append

@[simp] theorem notesOf_map_call {H : Type} (make : H → DeviceCall S P)
    (handles : List H) :
    notesOf (handles.map fun handle => .call (make handle)) = [] := by
  induction handles with
  | nil => rfl
  | cons handle rest ih => simp [ih]

theorem mem_callsOf {call : DeviceCall S P} {deeds : List (Deed S P)} :
    call ∈ callsOf deeds ↔ Deed.call call ∈ deeds := by
  unfold callsOf
  rw [List.mem_filterMap]
  constructor
  · intro hdone
    rcases hdone with ⟨deed, hmem, hcall⟩
    cases deed with
    | call made =>
        cases hcall
        exact hmem
    | note event => cases hcall
  · intro hmem
    exact ⟨.call call, hmem, rfl⟩

/-! ## Observing -/

/-- A piece of work as it was carried out. -/
structure Observation (σ S P α : Type) where
  result : Except ShaderError α
  calls : List (DeviceCall S P)
  log : List (LogEvent S P)
  files : FileTree
  state : σ

/-- Carries out work over a device that notes its calls. -/
def observe (work : Work (Recorded σ (DeviceCall S P)) S P α)
    (files : FileTree) (state : σ) : Observation σ S P α :=
  let outcome := work.run { files, device := ⟨state, #[]⟩, log := #[] }
  { result := outcome.1
    calls := outcome.2.device.calls.toList
    log := outcome.2.log.toList
    files := outcome.2.files
    state := outcome.2.device.state }

theorem observe_of_run {work : Work (Recorded σ (DeviceCall S P)) S P α} {files : FileTree}
    {state : σ} {result : Except ShaderError α}
    {after : Workbench (Recorded σ (DeviceCall S P)) S P}
    (hrun : work.run { files, device := ⟨state, #[]⟩, log := #[] } = (result, after)) :
    observe work files state =
      { result
        calls := after.device.calls.toList
        log := after.log.toList
        files := after.files
        state := after.device.state } := by
  unfold observe
  rw [hrun]

/-- The build of a family as it was carried out. -/
@[irreducible] def observeFamily (device : Device σ S P) (config : Configuration) (release : Bool)
    (family : Family) (paths : Paths) (files : FileTree) (state : σ) :
    Observation σ S P (List (LinkedProgram P)) :=
  observe (buildFamily device.recorded config release family paths) files state

/-- The programs of a build. -/
def programsOf (linked : List (LinkedProgram P)) : List P :=
  linked.map (·.program)

namespace Work

variable {files : FileTree}

/-- On the files, which stay as they are, what the work does is related to how
it ends. -/
def Behaves (work : Work (Recorded σ (DeviceCall S P)) S P α) (files : FileTree)
    (relation : List (Deed S P) → Except ShaderError α → Prop) : Prop :=
  ∀ bench, bench.files = files →
    ∃ deeds, relation deeds (work.run bench).1 ∧
      (work.run bench).2.files = files ∧
      (work.run bench).2.device.calls.toList =
        bench.device.calls.toList ++ callsOf deeds ∧
      (work.run bench).2.log.toList = bench.log.toList ++ notesOf deeds

theorem Behaves.observed {work : Work (Recorded σ (DeviceCall S P)) S P α}
    {relation : List (Deed S P) → Except ShaderError α → Prop}
    (hwork : work.Behaves files relation) (state : σ) :
    ∃ deeds, relation deeds (observe work files state).result ∧
      (observe work files state).files = files ∧
      (observe work files state).calls = callsOf deeds ∧
      (observe work files state).log = notesOf deeds := by
  obtain ⟨deeds, hrelation, hfiles, hcalls, hlog⟩ :=
    hwork { files, device := ⟨state, #[]⟩, log := #[] } rfl
  exact ⟨deeds, hrelation, hfiles, by simpa [observe] using hcalls,
    by simpa [observe] using hlog⟩

theorem Behaves.mono {work : Work (Recorded σ (DeviceCall S P)) S P α}
    {relation goal : List (Deed S P) → Except ShaderError α → Prop}
    (hwork : work.Behaves files relation)
    (himp : ∀ deeds result, relation deeds result → goal deeds result) :
    work.Behaves files goal := by
  intro bench hbench
  obtain ⟨deeds, hrelation, hrest⟩ := hwork bench hbench
  exact ⟨deeds, himp _ _ hrelation, hrest⟩

/-! ## Rules -/

/-- Work that does nothing and ends at once. -/
theorem behaves_conclude {goal : List (Deed S P) → Except ShaderError α → Prop}
    (result : Except ShaderError α) (hgoal : goal [] result) :
    (conclude result : Work (Recorded σ (DeviceCall S P)) S P α).Behaves files goal := by
  intro bench hbench
  refine ⟨[], hgoal, hbench, ?_, ?_⟩
  · simp [conclude, ExceptT.run, ExceptT.mk]
  · simp [conclude, ExceptT.run, ExceptT.mk, notesOf]

theorem behaves_pure {goal : List (Deed S P) → Except ShaderError α → Prop}
    (value : α) (hgoal : goal [] (.ok value)) :
    (pure value : Work (Recorded σ (DeviceCall S P)) S P α).Behaves files goal :=
  behaves_conclude (.ok value) hgoal

theorem behaves_throw {goal : List (Deed S P) → Except ShaderError α → Prop}
    (error : ShaderError) (hgoal : goal [] (.error error)) :
    (throw error : Work (Recorded σ (DeviceCall S P)) S P α).Behaves files goal :=
  behaves_conclude (.error error) hgoal

theorem run_bind (work : Work σ S P α) (next : α → Work σ S P β)
    (bench : Workbench σ S P) :
    (work >>= next).run bench =
      match work.run bench with
      | (.ok value, after) => (next value).run after
      | (.error error, after) => (.error error, after) := by
  change (ExceptT.bindCont next (work.run bench).1) (work.run bench).2 = _
  rcases work.run bench with ⟨result, after⟩
  cases result <;> rfl

/-- Work that goes on where other work has ended well. -/
theorem Behaves.bind {work : Work (Recorded σ (DeviceCall S P)) S P α}
    {next : α → Work (Recorded σ (DeviceCall S P)) S P β}
    {relation : List (Deed S P) → Except ShaderError α → Prop}
    {goal : List (Deed S P) → Except ShaderError β → Prop}
    (hwork : work.Behaves files relation)
    (hnext : ∀ deeds value, relation deeds (.ok value) →
      (next value).Behaves files fun later result => goal (deeds ++ later) result)
    (herror : ∀ deeds error, relation deeds (.error error) →
      goal deeds (.error error)) :
    (work >>= next).Behaves files goal := by
  intro bench hbench
  obtain ⟨deeds, hrelation, hfiles, hcalls, hlog⟩ := hwork bench hbench
  rw [run_bind]
  rcases hrun : work.run bench with ⟨result, after⟩
  rw [hrun] at hrelation hfiles hcalls hlog
  cases result with
  | ok value =>
      obtain ⟨later, hgoal, hkept, hmade, hlogged⟩ := hnext deeds value hrelation after hfiles
      refine ⟨deeds ++ later, hgoal, hkept, ?_, ?_⟩
      · rw [hmade, hcalls, callsOf_append, List.append_assoc]
      · rw [hlogged, hlog, notesOf_append, List.append_assoc]
  | error error => exact ⟨deeds, herror deeds error hrelation, hfiles, hcalls, hlog⟩

theorem Behaves.map {work : Work (Recorded σ (DeviceCall S P)) S P α} {view : α → β}
    {goal : List (Deed S P) → Except ShaderError β → Prop}
    (hwork : work.Behaves files fun deeds result => goal deeds (result.map view)) :
    (do return view (← work)).Behaves files goal := by
  apply hwork.bind
  · intro deeds value hgoal
    apply behaves_pure
    rw [List.append_nil]
    exact hgoal
  · intro deeds error hgoal
    exact hgoal

/-- Work that goes on after work of which it is known what it does. -/
theorem Behaves.bind_exact {work : Work (Recorded σ (DeviceCall S P)) S P α}
    {next : α → Work (Recorded σ (DeviceCall S P)) S P β}
    {goal : List (Deed S P) → Except ShaderError β → Prop}
    {value : α} {done : List (Deed S P)}
    (hwork : work.Behaves files fun deeds result => result = .ok value ∧ deeds = done)
    (hnext : (next value).Behaves files fun later result => goal (done ++ later) result) :
    (work >>= next).Behaves files goal := by
  apply hwork.bind
  · intro deeds found hdone
    rcases hdone with ⟨hfound, hdeeds⟩
    cases hfound
    subst hdeeds
    exact hnext
  · intro deeds error hdone
    rcases hdone with ⟨hfound, _⟩
    cases hfound

/-- Work that goes on after other work, whichever way that ended. -/
theorem Behaves.attempt_bind {work : Work (Recorded σ (DeviceCall S P)) S P α}
    {next : Except ShaderError α → Work (Recorded σ (DeviceCall S P)) S P β}
    {relation : List (Deed S P) → Except ShaderError α → Prop}
    {goal : List (Deed S P) → Except ShaderError β → Prop}
    (hwork : work.Behaves files relation)
    (hnext : ∀ deeds result, relation deeds result →
      (next result).Behaves files fun later final => goal (deeds ++ later) final) :
    (attempt work >>= next).Behaves files goal := by
  have hattempt : (attempt work).Behaves files fun deeds result =>
      ∃ ended, result = .ok ended ∧ relation deeds ended := by
    intro bench hbench
    obtain ⟨deeds, hrelation, hrest⟩ := hwork bench hbench
    exact ⟨deeds, ⟨_, rfl, hrelation⟩, hrest⟩
  apply hattempt.bind
  · intro deeds value hdone
    rcases hdone with ⟨ended, hended, hrelation⟩
    cases hended
    exact hnext deeds _ hrelation
  · intro deeds error hdone
    rcases hdone with ⟨ended, hended, _⟩
    cases hended

/-- Work that goes on after a call, with what the device answers in some state. -/
theorem behaves_answer_bind {next : α → Work (Recorded σ (DeviceCall S P)) S P β}
    {goal : List (Deed S P) → Except ShaderError β → Prop}
    (operation : StateM σ α) (note : α → DeviceCall S P)
    (hnext : ∀ state, (next (operation state).1).Behaves files fun later result =>
      goal (.call (note (operation state).1) :: later) result) :
    (call (Recorded.carryOut operation note) >>= next).Behaves files goal := by
  have hcall : (call (Recorded.carryOut operation note) :
      Work (Recorded σ (DeviceCall S P)) S P α).Behaves files fun deeds result =>
        ∃ state, result = .ok (operation state).1 ∧
          deeds = [.call (note (operation state).1)] := by
    intro bench hbench
    refine ⟨_, ⟨bench.device.state, rfl, rfl⟩, hbench, ?_, ?_⟩
    · simp [call, Recorded.carryOut, ExceptT.run, ExceptT.mk]
    · simp [call, Recorded.carryOut, ExceptT.run, ExceptT.mk, notesOf, Deed.note?]
  apply hcall.bind
  · intro deeds answer hdone
    rcases hdone with ⟨state, hanswer, hdeeds⟩
    cases hanswer
    subst hdeeds
    exact hnext state
  · intro deeds error hdone
    rcases hdone with ⟨state, hanswer, _⟩
    cases hanswer

/-- Work that goes on after a call, whatever the device answers. -/
theorem behaves_call_bind {next : α → Work (Recorded σ (DeviceCall S P)) S P β}
    {goal : List (Deed S P) → Except ShaderError β → Prop}
    (operation : StateM σ α) (note : α → DeviceCall S P)
    (hnext : ∀ answer, (next answer).Behaves files fun later result =>
      goal (.call (note answer) :: later) result) :
    (call (Recorded.carryOut operation note) >>= next).Behaves files goal :=
  behaves_answer_bind operation note fun _ => hnext _

/-- Work that goes on after logging an event. -/
theorem behaves_note_bind {next : Unit → Work (Recorded σ (DeviceCall S P)) S P β}
    {goal : List (Deed S P) → Except ShaderError β → Prop}
    (event : LogEvent S P)
    (hnext : (next ()).Behaves files fun later result =>
      goal (.note event :: later) result) :
    (note event >>= next).Behaves files goal := by
  have hnote : (note event : Work (Recorded σ (DeviceCall S P)) S P Unit).Behaves files
      fun deeds result => result = .ok () ∧ deeds = [.note event] := by
    intro bench hbench
    refine ⟨_, ⟨rfl, rfl⟩, hbench, ?_, ?_⟩
    · simp [note, ExceptT.run, ExceptT.mk, Deed.call?, callsOf]
    · simp [note, ExceptT.run, ExceptT.mk, notesOf, Deed.note?]
  exact hnote.bind_exact hnext

end Work

end ShaderFamilies
