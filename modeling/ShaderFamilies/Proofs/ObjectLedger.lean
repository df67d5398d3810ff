import Mathlib.Data.Set.Insert
import Mathlib.Data.List.Nodup
import ShaderFamilies.GraphicsDevice

/-!
# A ledger of objects

A ledger keeps account of the objects of a device: which handles have been
handed out, and which of them are live.  It is brought up to date call by call,
whatever the device.  Where handles are fresh, that is, neither live nor handed
out before, the objects that some calls leave behind are told apart from the
objects that were there before.
-/

namespace ShaderFamilies

/-! ## Objects of one kind -/

/-- The handles of one kind of objects. -/
structure Register (H : Type) where
  issued : Set H
  live : Set H

namespace Register

variable {H : Type}

def issue (register : Register H) (handle : H) : Register H :=
  ⟨insert handle register.issued, insert handle register.live⟩

def retire (register : Register H) (handle : H) : Register H :=
  { register with live := register.live \ {handle} }

/-- Whether a handle is new. -/
def Admits (register : Register H) (handle : H) : Prop :=
  handle ∉ register.live ∧ handle ∉ register.issued

theorem Admits.issue {register : Register H} {handle other : H}
    (hnew : register.Admits handle) (hne : handle ≠ other) :
    (register.issue other).Admits handle := by
  constructor
  · intro hmem
    rcases hmem with heq | hlive
    · exact hne heq
    · exact hnew.1 hlive
  · intro hmem
    rcases hmem with heq | hissued
    · exact hne heq
    · exact hnew.2 hissued

theorem Admits.retire {register : Register H} {handle other : H}
    (hnew : register.Admits handle) : (register.retire other).Admits handle := by
  constructor
  · intro hboth
    rcases hboth with ⟨hlive, _⟩
    exact hnew.1 hlive
  · exact hnew.2

/-- Beyond what was live at the base, exactly the listed objects are live, and
they came after the base. -/
structure Extends (base register : Register H) (handles : List H) : Prop where
  live : register.live = base.live ∪ {handle | handle ∈ handles}
  issued : base.issued ⊆ register.issued
  nodup : handles.Nodup
  admitted : ∀ handle ∈ handles, base.Admits handle

theorem extends_self (register : Register H) : register.Extends register [] := by
  constructor <;> simp

theorem Extends.issue {base register : Register H} {handles : List H} {handle : H}
    (hregister : base.Extends register handles) (hnew : register.Admits handle) :
    base.Extends (register.issue handle) (handles ++ [handle]) := by
  obtain ⟨hnotLive, hnotIssued⟩ := hnew
  rw [hregister.live] at hnotLive
  have hnotBase : handle ∉ base.live := by
    intro hmem
    exact hnotLive (Or.inl hmem)
  have hnotListed : handle ∉ handles := by
    intro hmem
    exact hnotLive (Or.inr hmem)
  constructor
  · ext other
    simp only [Register.issue, hregister.live, Set.mem_insert_iff, Set.mem_union,
      Set.mem_ofPred_eq, List.mem_append, List.mem_singleton]
    tauto
  · intro other hother
    exact Set.mem_insert_of_mem handle (hregister.issued hother)
  · rw [List.nodup_append]
    refine ⟨hregister.nodup, List.nodup_singleton handle, ?_⟩
    intro other hother last hlast heq
    rw [List.mem_singleton] at hlast
    exact hnotListed (by rw [← hlast, ← heq]; exact hother)
  · intro other hother
    rcases List.mem_append.mp hother with hother | hother
    · exact hregister.admitted other hother
    · rw [List.mem_singleton] at hother
      subst other
      exact ⟨hnotBase, fun hissued => hnotIssued (hregister.issued hissued)⟩

theorem Extends.retire {base register : Register H} {before after : List H} {handle : H}
    (hregister : base.Extends register (before ++ handle :: after)) :
    base.Extends (register.retire handle) (before ++ after) := by
  have hsub : (before ++ after).Sublist (before ++ handle :: after) :=
    (List.Sublist.refl before).append (List.sublist_cons_self handle after)
  have hnotLeft : handle ∉ before ++ after := by
    have hnodup := hregister.nodup
    rw [List.nodup_middle, List.nodup_cons] at hnodup
    exact hnodup.1
  have hnotBase : handle ∉ base.live :=
    (hregister.admitted handle (by simp)).1
  constructor
  · ext other
    have hlisted : other ∈ before ++ handle :: after ↔
        other = handle ∨ other ∈ before ++ after := by
      simp only [List.mem_append, List.mem_cons]
      tauto
    simp only [Register.retire, hregister.live, Set.mem_sdiff, Set.mem_union,
      Set.mem_ofPred_eq, Set.mem_singleton_iff, hlisted]
    constructor
    · intro hmem
      rcases hmem with ⟨hbase | heq | hleft, hne⟩
      · exact Or.inl hbase
      · exact absurd heq hne
      · exact Or.inr hleft
    · intro hmem
      rcases hmem with hbase | hleft
      · exact ⟨Or.inl hbase, fun heq => hnotBase (heq ▸ hbase)⟩
      · exact ⟨Or.inr (Or.inr hleft), fun heq => hnotLeft (heq ▸ hleft)⟩
  · exact hregister.issued
  · exact hregister.nodup.sublist hsub
  · intro other hother
    exact hregister.admitted other (hsub.subset hother)

/-- Beyond what was live at the base, exactly the added handles are live, and
they are new. -/
structure Grows (base register : Register H) (added : Set H) : Prop where
  live : register.live = base.live ∪ added
  admitted : ∀ handle ∈ added, base.Admits handle

theorem Extends.grows {base register : Register H} {handles : List H}
    (hregister : base.Extends register handles) :
    base.Grows register {handle | handle ∈ handles} :=
  ⟨hregister.live, hregister.admitted⟩

/-- Objects are left behind exactly when the live ones have changed. -/
theorem Extends.live_eq_iff {base register : Register H} {handles : List H}
    (hregister : base.Extends register handles) :
    register.live = base.live ↔ handles = [] := by
  rw [hregister.live, Set.union_eq_left]
  constructor
  · intro hsub
    rw [List.eq_nil_iff_forall_not_mem]
    intro handle hmem
    exact (hregister.admitted handle hmem).1 (hsub hmem)
  · intro hnil
    subst hnil
    simp

end Register

/-! ## Stages and programs -/

/-- The account of all the objects of a device. -/
structure Ledger (S P : Type) where
  stages : Register S
  programs : Register P

namespace Ledger

variable {S P : Type}

/-- The account after a call. -/
def after (ledger : Ledger S P) : DeviceCall S P → Ledger S P
  | .createStage _ (.ok stage) => { ledger with stages := ledger.stages.issue stage }
  | .destroyStage stage => { ledger with stages := ledger.stages.retire stage }
  | .createProgram (.ok program) =>
      { ledger with programs := ledger.programs.issue program }
  | .destroyProgram program =>
      { ledger with programs := ledger.programs.retire program }
  | _ => ledger

def afterAll (ledger : Ledger S P) (calls : List (DeviceCall S P)) : Ledger S P :=
  calls.foldl after ledger

/-- Whether a call gives a fresh handle, if it gives one. -/
def Admits (ledger : Ledger S P) : DeviceCall S P → Prop
  | .createStage _ (.ok stage) => ledger.stages.Admits stage
  | .createProgram (.ok program) => ledger.programs.Admits program
  | _ => True

/-- Every creation among the calls fails or gives a handle that is not live and
was never given before. -/
def Fresh (ledger : Ledger S P) : List (DeviceCall S P) → Prop
  | [] => True
  | call :: rest => ledger.Admits call ∧ (ledger.after call).Fresh rest

/-- Whether a call leaves alone what was live or handed out at the base. -/
def Spares (base : Ledger S P) : DeviceCall S P → Prop
  | .destroyStage stage => base.stages.Admits stage
  | .destroyProgram program => base.programs.Admits program
  | _ => True

@[simp] theorem afterAll_nil (ledger : Ledger S P) : ledger.afterAll [] = ledger :=
  rfl

@[simp] theorem afterAll_cons (ledger : Ledger S P) (call : DeviceCall S P)
    (rest : List (DeviceCall S P)) :
    ledger.afterAll (call :: rest) = (ledger.after call).afterAll rest :=
  rfl

@[simp] theorem afterAll_append (ledger : Ledger S P)
    (first second : List (DeviceCall S P)) :
    ledger.afterAll (first ++ second) = (ledger.afterAll first).afterAll second :=
  List.foldl_append

@[simp] theorem fresh_append (ledger : Ledger S P)
    (first second : List (DeviceCall S P)) :
    ledger.Fresh (first ++ second) ↔
      ledger.Fresh first ∧ (ledger.afterAll first).Fresh second := by
  induction first generalizing ledger with
  | nil => simp [Fresh]
  | cons call rest ih =>
      simp only [List.cons_append, Fresh, afterAll_cons]
      rw [ih, and_assoc]

/-- The ledger on which exactly the listed objects are live. -/
def holding (stages : List S) (programs : List P) : Ledger S P where
  stages := ⟨{stage | stage ∈ stages}, {stage | stage ∈ stages}⟩
  programs := ⟨{program | program ∈ programs}, {program | program ∈ programs}⟩

def stagesMade (calls : List (DeviceCall S P)) : List S :=
  calls.filterMap fun
    | .createStage _ result => result.toOption
    | _ => none

def programsMade (calls : List (DeviceCall S P)) : List P :=
  calls.filterMap fun
    | .createProgram result => result.toOption
    | _ => none

@[simp] theorem stagesMade_append (first second : List (DeviceCall S P)) :
    stagesMade (first ++ second) = stagesMade first ++ stagesMade second :=
  List.filterMap_append

@[simp] theorem programsMade_append (first second : List (DeviceCall S P)) :
    programsMade (first ++ second) = programsMade first ++ programsMade second :=
  List.filterMap_append

theorem mem_programsMade {calls : List (DeviceCall S P)} {program : P} :
    program ∈ programsMade calls ↔ .createProgram (.ok program) ∈ calls := by
  unfold programsMade
  rw [List.mem_filterMap]
  constructor
  · intro hmade
    rcases hmade with ⟨call, hmem, hcall⟩
    rcases call with _ | _ | _ | ⟨_ | made⟩ | _ | _ | _ | _ | _ <;> cases hcall
    exact hmem
  · intro hmem
    exact ⟨_, hmem, rfl⟩

/-- Handles that are new at first and differ from each other are fresh. -/
theorem fresh_of_nodup {ledger : Ledger S P} {calls : List (DeviceCall S P)}
    (hstages : (stagesMade calls).Nodup)
    (hnewStages : ∀ stage ∈ stagesMade calls, ledger.stages.Admits stage)
    (hprograms : (programsMade calls).Nodup)
    (hnewPrograms : ∀ program ∈ programsMade calls, ledger.programs.Admits program) :
    ledger.Fresh calls := by
  induction calls generalizing ledger with
  | nil => trivial
  | cons call rest ih =>
      cases call with
      | createStage kind result =>
          cases result with
          | error reason => exact ⟨trivial, ih hstages hnewStages hprograms hnewPrograms⟩
          | ok stage =>
              obtain ⟨hother, hrest⟩ := List.nodup_cons.mp hstages
              refine ⟨hnewStages stage List.mem_cons_self, ?_⟩
              refine ih hrest ?_ hprograms hnewPrograms
              intro other hmem
              apply (hnewStages other (List.mem_cons_of_mem stage hmem)).issue
              intro heq
              exact hother (heq ▸ hmem)
      | createProgram result =>
          cases result with
          | error reason => exact ⟨trivial, ih hstages hnewStages hprograms hnewPrograms⟩
          | ok program =>
              obtain ⟨hother, hrest⟩ := List.nodup_cons.mp hprograms
              refine ⟨hnewPrograms program List.mem_cons_self, ?_⟩
              refine ih hstages hnewStages hrest ?_
              intro other hmem
              apply (hnewPrograms other (List.mem_cons_of_mem program hmem)).issue
              intro heq
              exact hother (heq ▸ hmem)
      | destroyStage stage =>
          refine ⟨trivial, ih hstages ?_ hprograms hnewPrograms⟩
          intro other hmem
          exact (hnewStages other hmem).retire
      | destroyProgram program =>
          refine ⟨trivial, ih hstages hnewStages hprograms ?_⟩
          intro other hmem
          exact (hnewPrograms other hmem).retire
      | compileStage | attachStage | linkProgram | attributeLocation | uniformLocation =>
          exact ⟨trivial, ih hstages hnewStages hprograms hnewPrograms⟩

theorem holding_fresh {stages : List S} {programs : List P}
    {calls : List (DeviceCall S P)} (hstages : (stages ++ stagesMade calls).Nodup)
    (hprograms : (programs ++ programsMade calls).Nodup) :
    (holding stages programs).Fresh calls := by
  obtain ⟨_, hmadeStages, hstagesApart⟩ := List.nodup_append.mp hstages
  obtain ⟨_, hmadePrograms, hprogramsApart⟩ := List.nodup_append.mp hprograms
  refine fresh_of_nodup hmadeStages ?_ hmadePrograms ?_
  · intro stage hmade
    have hnotHeld : stage ∉ stages := by
      intro hheld
      exact hstagesApart stage hheld stage hmade rfl
    exact ⟨hnotHeld, hnotHeld⟩
  · intro program hmade
    have hnotHeld : program ∉ programs := by
      intro hheld
      exact hprogramsApart program hheld program hmade rfl
    exact ⟨hnotHeld, hnotHeld⟩

/-- Beyond what was live at the base, exactly the listed objects are live. -/
structure Extends (base ledger : Ledger S P) (stages : List S) (programs : List P) :
    Prop where
  stages : base.stages.Extends ledger.stages stages
  programs : base.programs.Extends ledger.programs programs

theorem extends_self (ledger : Ledger S P) : ledger.Extends ledger [] [] :=
  ⟨Register.extends_self _, Register.extends_self _⟩

/-- The calls lead to a ledger with exactly the listed objects beyond the base,
and destroy none of the base. -/
structure Reaches (base ledger : Ledger S P) (calls : List (DeviceCall S P))
    (stages : List S) (programs : List P) : Prop where
  extended : base.Extends (ledger.afterAll calls) stages programs
  spares : ∀ call ∈ calls, base.Spares call

variable {base ledger : Ledger S P} {stages : List S} {programs : List P}

theorem Extends.reaches_nil (hledger : base.Extends ledger stages programs) :
    base.Reaches ledger [] stages programs :=
  ⟨hledger, by simp⟩

theorem Reaches.append {first second : List (DeviceCall S P)}
    {laterStages : List S} {laterPrograms : List P}
    (hfirst : base.Reaches ledger first stages programs)
    (hsecond : base.Reaches (ledger.afterAll first) second laterStages laterPrograms) :
    base.Reaches ledger (first ++ second) laterStages laterPrograms := by
  constructor
  · rw [afterAll_append]
    exact hsecond.extended
  · intro call hmem
    rcases List.mem_append.mp hmem with hmem | hmem
    · exact hfirst.spares call hmem
    · exact hsecond.spares call hmem

theorem Reaches.cons {call : DeviceCall S P} {rest : List (DeviceCall S P)}
    (hcall : base.Spares call)
    (hrest : base.Reaches (ledger.after call) rest stages programs) :
    base.Reaches ledger (call :: rest) stages programs := by
  constructor
  · exact hrest.extended
  · intro other hmem
    rcases List.mem_cons.mp hmem with heq | hmem
    · rw [heq]
      exact hcall
    · exact hrest.spares other hmem

/-! ## What each kind of call does -/

/-- Whether a call neither makes nor destroys an object. -/
def IsSilent : DeviceCall S P → Prop
  | .createStage _ (.ok _) => False
  | .destroyStage _ => False
  | .createProgram (.ok _) => False
  | .destroyProgram _ => False
  | _ => True

theorem after_of_isSilent {call : DeviceCall S P} (hsilent : IsSilent call)
    (ledger : Ledger S P) : ledger.after call = ledger := by
  rcases call with ⟨_, _ | _⟩ | _ | _ | ⟨_ | _⟩ | _ | _ | _ | _ | _ <;>
    first | rfl | exact hsilent.elim

theorem spares_of_isSilent {call : DeviceCall S P} (hsilent : IsSilent call)
    (base : Ledger S P) : base.Spares call := by
  cases call <;> trivial

theorem Reaches.silent_cons {call : DeviceCall S P} {rest : List (DeviceCall S P)}
    (hcall : IsSilent call) (hrest : base.Reaches ledger rest stages programs) :
    base.Reaches ledger (call :: rest) stages programs := by
  refine .cons (spares_of_isSilent hcall base) ?_
  rw [after_of_isSilent hcall]
  exact hrest

theorem Extends.reaches_silent (hledger : base.Extends ledger stages programs)
    (calls : List (DeviceCall S P)) (hsilent : ∀ call ∈ calls, IsSilent call) :
    base.Reaches ledger calls stages programs := by
  induction calls with
  | nil => exact hledger.reaches_nil
  | cons call rest ih =>
      have hcall : IsSilent call := hsilent call (by simp)
      have hrest : ∀ other ∈ rest, IsSilent other := by
        intro other hmem
        exact hsilent other (by simp [hmem])
      exact .silent_cons hcall (ih hrest)

theorem Extends.createStage (hledger : base.Extends ledger stages programs)
    {kind : Stage} {stage : S} (hnew : ledger.Admits (.createStage kind (.ok stage))) :
    base.Extends (ledger.after (.createStage kind (.ok stage))) (stages ++ [stage])
      programs :=
  ⟨hledger.stages.issue hnew, hledger.programs⟩

theorem Extends.createProgram (hledger : base.Extends ledger stages programs)
    {program : P} (hnew : ledger.Admits (.createProgram (.ok program))) :
    base.Extends (ledger.after (.createProgram (.ok program))) stages
      (programs ++ [program]) :=
  ⟨hledger.stages, hledger.programs.issue hnew⟩

theorem Extends.reaches_destroyStages {kept : List S} (destroyed : List S)
    (hledger : base.Extends ledger (kept ++ destroyed) programs) :
    base.Reaches ledger (destroyed.map .destroyStage) kept programs := by
  induction destroyed generalizing ledger with
  | nil => simpa using hledger.reaches_nil
  | cons stage rest ih =>
      refine .cons (hledger.stages.admitted stage (by simp)) ?_
      apply ih
      exact ⟨hledger.stages.retire, hledger.programs⟩

theorem Extends.reaches_destroyPrograms {kept : List P} (destroyed : List P)
    (hledger : base.Extends ledger stages (kept ++ destroyed)) :
    base.Reaches ledger (destroyed.map .destroyProgram) stages kept := by
  induction destroyed generalizing ledger with
  | nil => simpa using hledger.reaches_nil
  | cons program rest ih =>
      refine .cons (hledger.programs.admitted program (by simp)) ?_
      apply ih
      exact ⟨hledger.stages, hledger.programs.retire⟩

end Ledger

end ShaderFamilies
