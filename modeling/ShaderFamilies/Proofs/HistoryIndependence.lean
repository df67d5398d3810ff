import ShaderFamilies.Proofs.BuildConduct
import ShaderFamilies.Proofs.LaterObjects

/-!
# Builds do not depend on what came before

Whatever a session did before, a build of a family gives the same result, makes the
same calls and logs the same, but for the numbers of the objects that it creates.
The reason is that it does with new objects what it would do if there were no
objects yet.
-/

namespace ShaderFamilies

/-! ## Interfaces -/

/-- The interfaces that a session can use. -/
inductive Interface
  | direct
  | openGl

namespace Interface

abbrev Call : Interface → Type
  | .direct => DeviceCall Nat Nat
  | .openGl => OpenGlCall Nat Nat

def backend : (interface : Interface) → Backend interface.Call
  | .direct => directBackend
  | .openGl => openGlBackend

def rename (stage program : Nat → Nat) :
    (interface : Interface) → interface.Call → interface.Call
  | .direct => DeviceCall.rename stage program
  | .openGl => OpenGlCall.rename stage program

/-- The stages that calls create, in order. -/
def stagesMade : (interface : Interface) → List interface.Call → List Nat
  | .direct => Ledger.stagesMade
  | .openGl => OpenGlCall.stagesMade

/-- The programs that calls create, in order. -/
def programsMade : (interface : Interface) → List interface.Call → List Nat
  | .direct => Ledger.programsMade
  | .openGl => OpenGlCall.programsMade

end Interface

/-! ## Steps of two sessions -/

/-- Some objects come after `here` others in one session and after `there` others
in another.  The number there of the one that has a number here; the others keep
their numbers. -/
def counterpart (here there number : Nat) : Nat :=
  if number ≤ here then number else number - here + there

def ScriptedObjects.liveStageNumbers (objects : ScriptedObjects) : List Nat :=
  objects.liveStages.map (·.number)

def ScriptedObjects.liveProgramNumbers (objects : ScriptedObjects) : List Nat :=
  objects.livePrograms.map (·.number)

namespace Session

variable {κ : Type}

def objects (session : Session κ) : ScriptedObjects :=
  session.bench.device.state

/-- All the calls of the last step. -/
def calls (session : Session κ) : List κ :=
  session.bench.device.calls.toList

/-- The same files, configuration, choice of release and script. -/
structure SameSettings (first second : Session κ) : Prop where
  files : first.bench.files = second.bench.files
  config : first.config = second.config
  release : first.release = second.release
  script : first.objects.script = second.objects.script

/-- The stage of a session that corresponds to a new stage of another. -/
def stageIn (first second : Session κ) : Nat → Nat :=
  counterpart first.objects.stages.length second.objects.stages.length

def programIn (first second : Session κ) : Nat → Nat :=
  counterpart first.objects.programs.length second.objects.programs.length

/-- The step does the same in both sessions, but for the numbers of the objects
that it creates.  These come one after the other after all the objects that were
there, so the first that is created in one session corresponds to the first in the
other, and so on.  Objects that were live stay live. -/
structure Alike (interface : Interface) (first second : Session interface.Call)
    (step : SessionStep) : Prop where
  result : (second.perform interface.backend step).1.result =
    (first.perform interface.backend step).1.result.map
      (StepResult.rename (first.stageIn second) (first.programIn second))
  calls : (second.perform interface.backend step).2.calls =
    (first.perform interface.backend step).2.calls.map
      (interface.rename (first.stageIn second) (first.programIn second))
  shownCalls : (second.perform interface.backend step).1.calls =
    (first.perform interface.backend step).1.calls.map
      (interface.rename (first.stageIn second) (first.programIn second))
  log : (second.perform interface.backend step).1.log =
    (first.perform interface.backend step).1.log.map
      (LogEvent.rename (first.stageIn second) (first.programIn second))
  stagesMade : ∃ count,
    interface.stagesMade (first.perform interface.backend step).2.calls =
      List.range' (first.objects.stages.length + 1) count ∧
    interface.stagesMade (second.perform interface.backend step).2.calls =
      List.range' (second.objects.stages.length + 1) count
  programsMade : ∃ count,
    interface.programsMade (first.perform interface.backend step).2.calls =
      List.range' (first.objects.programs.length + 1) count ∧
    interface.programsMade (second.perform interface.backend step).2.calls =
      List.range' (second.objects.programs.length + 1) count
  liveStages : ∃ added,
    (first.perform interface.backend step).2.objects.liveStageNumbers =
      first.objects.liveStageNumbers ++ added ∧
    (second.perform interface.backend step).2.objects.liveStageNumbers =
      second.objects.liveStageNumbers ++ added.map (first.stageIn second)
  livePrograms : ∃ added,
    (first.perform interface.backend step).2.objects.liveProgramNumbers =
      first.objects.liveProgramNumbers ++ added ∧
    (second.perform interface.backend step).2.objects.liveProgramNumbers =
      second.objects.liveProgramNumbers ++ added.map (first.programIn second)

/-- Each of two steps does the same whether the other one comes before it or after
it. -/
structure Swappable (interface : Interface) (session : Session interface.Call)
    (one other : SessionStep) : Prop where
  alikeOne : Alike interface session (session.after interface.backend [other]) one
  alikeOther : Alike interface (session.after interface.backend [one]) session other

/-- Builds of families as steps. -/
def buildSteps (builds : List (Family × Paths)) : List SessionStep :=
  builds.map fun build => .build build.1 build.2

end Session

/-! ## Numbers and live objects -/

theorem counterpart_comp_laterNumber (here there : Nat) :
    counterpart here there ∘ laterNumber here = laterNumber there := by
  funext number
  cases number with
  | zero => rfl
  | succ number =>
      have hlater : ¬ here + number + 1 ≤ here := by omega
      have hcounterpart : counterpart here there (here + number + 1) = there + number + 1 := by
        rw [counterpart, if_neg hlater]
        omega
      exact hcounterpart

theorem ScriptedObjects.liveStageNumbers_followedBy (past fresh : ScriptedObjects) :
    (past.followedBy fresh).liveStageNumbers =
      past.liveStageNumbers ++ fresh.liveStageNumbers.map (laterNumber past.stages.length) := by
  simp only [liveStageNumbers, liveStages, followedBy]
  rw [List.filter_append, List.filter_map, List.map_append, List.map_map, List.map_map]
  rfl

theorem ScriptedObjects.liveProgramNumbers_followedBy (past fresh : ScriptedObjects) :
    (past.followedBy fresh).liveProgramNumbers =
      past.liveProgramNumbers ++
        fresh.liveProgramNumbers.map (laterNumber past.programs.length) := by
  simp only [liveProgramNumbers, livePrograms, followedBy]
  rw [List.filter_append, List.filter_map, List.map_append, List.map_map, List.map_map]
  rfl

/-! ## A build in a session without objects -/

/-- The recorded objects come after others. -/
def Translation.recordedFollowing (past : ScriptedObjects) :
    Translation (Recorded ScriptedObjects (DeviceCall Nat Nat))
      (Recorded ScriptedObjects (DeviceCall Nat Nat)) Nat Nat Nat Nat :=
  .recording (fun fresh => fresh.script.IgnoresNumbers) past.followedBy
    (laterNumber past.stages.length) (laterNumber past.programs.length)

theorem scriptedDevice_keepsScript (script : Script) :
    scriptedDevice.CarriedBy (.keeping fun objects => objects.script = script)
      scriptedDevice where
  createStage kind :=
    Translation.carries_map_keeping fun objects hobjects => by
      change (ScriptedObjects.createStage kind objects).2.script = script
      unfold ScriptedObjects.createStage
      cases objects.script.stageFailures.lookup kind <;> exact hobjects
  compileStage _ _ := Translation.carries_keeping fun _ hobjects => hobjects
  destroyStage _ := Translation.carries_keeping fun _ hobjects => hobjects
  createProgram :=
    Translation.carries_map_keeping fun objects hobjects => by
      change (ScriptedObjects.createProgram objects).2.script = script
      unfold ScriptedObjects.createProgram
      cases objects.script.programFailure <;> exact hobjects
  attachStage _ _ := Translation.carries_keeping fun _ hobjects => hobjects
  linkProgram _ := Translation.carries_keeping fun _ hobjects => hobjects
  destroyProgram _ := Translation.carries_keeping fun _ hobjects => hobjects
  attributeLocation _ _ := Translation.carries_keeping fun _ hobjects => hobjects
  uniformLocation _ _ := Translation.carries_keeping fun _ hobjects => hobjects

namespace Session

variable {session first second : Session (DeviceCall Nat Nat)}

/-- A session with the same settings in which nothing happened. -/
def restarted (session : Session (DeviceCall Nat Nat)) : Session (DeviceCall Nat Nat) :=
  { start session.bench.files session.objects.script session.config with
    release := session.release }

theorem SameSettings.restarted_eq (hsame : first.SameSettings second) :
    first.restarted = second.restarted := by
  unfold restarted
  rw [hsame.files, hsame.config, hsame.release, hsame.script]

theorem cleared_bench (session : Session (DeviceCall Nat Nat)) :
    session.cleared.bench =
      (Translation.recordedFollowing session.objects).bench session.restarted.cleared.bench := by
  have hobjects : session.objects.followedBy { script := session.objects.script } =
      session.objects := by
    simp [ScriptedObjects.followedBy]
  simp only [Translation.bench, Translation.recordedFollowing, Translation.recording,
    Translation.relabeling, Recorded.relabel, cleared, restarted, start]
  rw [hobjects, Array.map_empty, Array.map_empty]
  rfl

/-- What a step does when some objects are there already, compared with what it does
when there are none. -/
structure Followed (past : ScriptedObjects)
    (fresh later : StepReport (DeviceCall Nat Nat) × Session (DeviceCall Nat Nat)) : Prop where
  result : later.1.result = fresh.1.result.map
    (StepResult.rename (laterNumber past.stages.length) (laterNumber past.programs.length))
  calls : later.2.calls = fresh.2.calls.map
    (DeviceCall.rename (laterNumber past.stages.length) (laterNumber past.programs.length))
  shownCalls : later.1.calls = fresh.1.calls.map
    (DeviceCall.rename (laterNumber past.stages.length) (laterNumber past.programs.length))
  log : later.1.log = fresh.1.log.map
    (LogEvent.rename (laterNumber past.stages.length) (laterNumber past.programs.length))
  objects : later.2.objects = past.followedBy fresh.2.objects

/-- A build in a session is the build in the session without objects, with other
numbers. -/
theorem perform_build_followed (hsession : session.objects.Numbered)
    (hscript : session.objects.script.IgnoresNumbers) (family : Family) (paths : Paths) :
    Followed session.objects
      (session.restarted.perform directBackend (.build family paths))
      (session.perform directBackend (.build family paths)) := by
  let fresh := session.restarted.perform directBackend (.build family paths)
  let later := session.perform directBackend (.build family paths)
  -- the cleared session is the restarted one behind the objects that are there, so
  -- the run of the build carries over from the one to the other
  have hdevice : directBackend.device.CarriedBy (.recordedFollowing session.objects)
      directBackend.device :=
    (scriptedDevice_following hsession).recorded
  let work := buildFamily directBackend.device session.config session.release family paths
  obtain ⟨_, hrun⟩ := buildFamily_carried hdevice session.config session.release family paths
    session.restarted.cleared.bench hscript
  rw [← cleared_bench, Translation.recordedFollowing, linked_recording] at hrun
  have hfreshResult : fresh.1.result =
      (work.run session.restarted.cleared.bench).1.map (.built family) := rfl
  have hresult : later.1.result = (work.run session.cleared.bench).1.map (.built family) := rfl
  have hbench : later.2.bench =
      (Translation.recordedFollowing session.objects).bench fresh.2.bench :=
    congrArg Prod.snd hrun
  have hcalls : later.2.calls = fresh.2.calls.map
      (DeviceCall.rename (laterNumber session.objects.stages.length)
        (laterNumber session.objects.programs.length)) := by
    rw [Session.calls, hbench]
    exact Array.toList_map
  have hobjects : later.2.objects = session.objects.followedBy fresh.2.objects :=
    congrArg (fun bench => bench.device.state) hbench
  constructor
  · rw [hresult, hfreshResult, hrun]
    cases (work.run session.restarted.cleared.bench).1 <;> rfl
  · exact hcalls
  · have hshown : later.1.calls = later.2.calls.filter fun call =>
        later.2.objects.script.showsLookups || ! call.isLookup := rfl
    rw [hshown, hcalls, hobjects]
    exact DeviceCall.filter_rename _ _ _ _
  · have hlog : later.1.log = later.2.bench.log.toList := rfl
    rw [hlog, hbench]
    exact Array.toList_map
  · exact hobjects

/-- In the session without objects, the objects that a build creates are numbered
from one. -/
theorem perform_build_restarted (session : Session (DeviceCall Nat Nat)) (family : Family)
    (paths : Paths) :
    let fresh := (session.restarted.perform directBackend (.build family paths)).2
    Ledger.stagesMade fresh.calls = List.range' 1 fresh.objects.stages.length ∧
      Ledger.programsMade fresh.calls = List.range' 1 fresh.objects.programs.length := by
  intro fresh
  have hnone : ({ script := session.objects.script } : ScriptedObjects).Numbered := ⟨rfl, rfl⟩
  have hfresh : CountedFrom 0 0 fresh.bench.device :=
    (buildFamily_carried (directBackend_keepsCount 0 0) session.config session.release family
      paths session.restarted.cleared.bench (.refl hnone)).1
  constructor
  · exact hfresh.stagesMade.trans hfresh.numbered.stages
  · exact hfresh.programsMade.trans hfresh.numbered.programs

/-- The same build in two sessions. -/
theorem build_alike (hfirst : first.objects.Numbered) (hsecond : second.objects.Numbered)
    (hsame : first.SameSettings second) (hscript : first.objects.script.IgnoresNumbers)
    (family : Family) (paths : Paths) :
    Alike .direct first second (.build family paths) := by
  -- both sessions restart as the same session, with which each is compared
  let fresh := first.restarted.perform directBackend (.build family paths)
  have hold : Followed first.objects fresh
      (first.perform Interface.direct.backend (.build family paths)) :=
    perform_build_followed hfirst hscript family paths
  have hnew : Followed second.objects fresh
      (second.perform Interface.direct.backend (.build family paths)) := by
    have hfollowed := perform_build_followed hsecond (hsame.script ▸ hscript) family paths
    rwa [← hsame.restarted_eq] at hfollowed
  obtain ⟨hstages, hprograms⟩ := perform_build_restarted first family paths
  have hstageIn : first.stageIn second ∘ laterNumber first.objects.stages.length =
      laterNumber second.objects.stages.length := counterpart_comp_laterNumber _ _
  have hprogramIn : first.programIn second ∘ laterNumber first.objects.programs.length =
      laterNumber second.objects.programs.length := counterpart_comp_laterNumber _ _
  have hrename : Interface.direct.rename (first.stageIn second) (first.programIn second) ∘
      DeviceCall.rename (laterNumber first.objects.stages.length)
        (laterNumber first.objects.programs.length) =
      DeviceCall.rename (laterNumber second.objects.stages.length)
        (laterNumber second.objects.programs.length) := by
    rw [← hstageIn, ← hprogramIn]
    exact DeviceCall.rename_comp_rename _ _ _ _
  constructor
  · rw [hnew.result, hold.result, map_map_except, StepResult.rename_comp_rename, hstageIn,
      hprogramIn]
  · rw [hnew.calls, hold.calls, List.map_map, hrename]
  · rw [hnew.shownCalls, hold.shownCalls, List.map_map, hrename]
  · rw [hnew.log, hold.log, List.map_map, LogEvent.rename_comp_rename, hstageIn, hprogramIn]
  · refine ⟨fresh.2.objects.stages.length, ?_, ?_⟩
    · rw [hold.calls, ← map_laterNumber_range', ← hstages]
      exact Ledger.stagesMade_rename _ _ _
    · rw [hnew.calls, ← map_laterNumber_range', ← hstages]
      exact Ledger.stagesMade_rename _ _ _
  · refine ⟨fresh.2.objects.programs.length, ?_, ?_⟩
    · rw [hold.calls, ← map_laterNumber_range', ← hprograms]
      exact Ledger.programsMade_rename _ _ _
    · rw [hnew.calls, ← map_laterNumber_range', ← hprograms]
      exact Ledger.programsMade_rename _ _ _
  · refine ⟨fresh.2.objects.liveStageNumbers.map (laterNumber first.objects.stages.length),
      ?_, ?_⟩
    · rw [hold.objects, ScriptedObjects.liveStageNumbers_followedBy]
    · rw [hnew.objects, ScriptedObjects.liveStageNumbers_followedBy, List.map_map, hstageIn]
  · refine ⟨fresh.2.objects.liveProgramNumbers.map
      (laterNumber first.objects.programs.length), ?_, ?_⟩
    · rw [hold.objects, ScriptedObjects.liveProgramNumbers_followedBy]
    · rw [hnew.objects, ScriptedObjects.liveProgramNumbers_followedBy, List.map_map,
        hprogramIn]

/-! ## Settings -/

theorem SameSettings.refl {κ : Type} (session : Session κ) : session.SameSettings session :=
  ⟨rfl, rfl, rfl, rfl⟩

theorem SameSettings.symm {κ : Type} {first second : Session κ}
    (hsame : first.SameSettings second) : second.SameSettings first :=
  ⟨hsame.files.symm, hsame.config.symm, hsame.release.symm, hsame.script.symm⟩

theorem SameSettings.trans {κ : Type} {first second third : Session κ}
    (hfirst : first.SameSettings second) (hsecond : second.SameSettings third) :
    first.SameSettings third :=
  ⟨hfirst.files.trans hsecond.files, hfirst.config.trans hsecond.config,
    hfirst.release.trans hsecond.release, hfirst.script.trans hsecond.script⟩

/-- A build changes no settings. -/
theorem build_sameSettings (session : Session (DeviceCall Nat Nat)) (family : Family)
    (paths : Paths) :
    session.SameSettings (session.perform directBackend (.build family paths)).2 := by
  obtain ⟨_, _, hfiles, _⟩ := buildFamily_behaves scriptedDevice session.bench.files
    session.config session.release family paths session.cleared.bench rfl
  have hscript := (buildFamily_carried
    (scriptedDevice_keepsScript session.objects.script).recorded session.config
    session.release family paths session.cleared.bench rfl).1
  exact ⟨hfiles.symm, rfl, rfl, hscript.symm⟩

theorem buildSteps_sameSettings (session : Session (DeviceCall Nat Nat))
    (builds : List (Family × Paths)) :
    session.SameSettings (session.after directBackend (buildSteps builds)) := by
  induction builds generalizing session with
  | nil => exact .refl session
  | cons build rest ih =>
      exact (session.build_sameSettings build.1 build.2).trans (ih _)

/-! ## Sessions over OpenGL -/

theorem after_overOpenGl (session : Session (DeviceCall Nat Nat)) (steps : List SessionStep) :
    session.overOpenGl.after openGlBackend steps =
      (session.after directBackend steps).overOpenGl := by
  induction steps generalizing session with
  | nil => rfl
  | cons step rest ih =>
      change (session.overOpenGl.perform openGlBackend step).2.after openGlBackend rest = _
      rw [session.perform_mirrored step]
      exact ih _

theorem Reached.ofOpenGl {session : Session (OpenGlCall Nat Nat)}
    (hreached : session.Reached openGlBackend) :
    ∃ original : Session (DeviceCall Nat Nat),
      original.Reached directBackend ∧ session = original.overOpenGl := by
  obtain ⟨files, script, config, steps, rfl⟩ := hreached
  exact ⟨_, ⟨files, script, config, steps, rfl⟩,
    (start files script config).after_overOpenGl steps⟩

/-- Steps that do the same over a direct device do the same over OpenGL. -/
theorem Alike.overOpenGl {step : SessionStep} (halike : Alike .direct first second step) :
    Alike .openGl first.overOpenGl second.overOpenGl step := by
  have hfirst : first.overOpenGl.perform Interface.openGl.backend step = _ :=
    first.perform_mirrored step
  have hsecond : second.overOpenGl.perform Interface.openGl.backend step = _ :=
    second.perform_mirrored step
  have hcalls (calls : List (DeviceCall Nat Nat)) :
      (calls.map (Interface.direct.rename (first.stageIn second) (first.programIn second))).flatMap
          DeviceCall.overOpenGl =
        (calls.flatMap DeviceCall.overOpenGl).map
          (Interface.openGl.rename (first.stageIn second) (first.programIn second)) :=
    DeviceCall.flatMap_overOpenGl_rename _ _ calls
  constructor
  · rw [hfirst, hsecond]
    have hresult := congrArg (Except.map StepResult.standard) halike.result
    rw [map_map_except, StepResult.standard_comp_rename, ← map_map_except] at hresult
    exact hresult
  · rw [hfirst, hsecond]
    have hall := congrArg (List.flatMap DeviceCall.overOpenGl) halike.calls
    rw [hcalls] at hall
    exact hall
  · rw [hfirst, hsecond]
    have hshown := congrArg (List.flatMap DeviceCall.overOpenGl) halike.shownCalls
    rw [hcalls] at hshown
    exact hshown
  · rw [hfirst, hsecond]
    exact halike.log
  · rw [hfirst, hsecond]
    obtain ⟨count, hfirstMade, hsecondMade⟩ := halike.stagesMade
    exact ⟨count, (OpenGlCall.stagesMade_overOpenGl _).trans hfirstMade,
      (OpenGlCall.stagesMade_overOpenGl _).trans hsecondMade⟩
  · rw [hfirst, hsecond]
    obtain ⟨count, hfirstMade, hsecondMade⟩ := halike.programsMade
    exact ⟨count, (OpenGlCall.programsMade_overOpenGl _).trans hfirstMade,
      (OpenGlCall.programsMade_overOpenGl _).trans hsecondMade⟩
  · rw [hfirst, hsecond]
    exact halike.liveStages
  · rw [hfirst, hsecond]
    exact halike.livePrograms

/-- However many builds come before. -/
theorem build_alike_after (hfirst : first.Reached directBackend)
    (hsecond : second.Reached directBackend) (hsame : first.SameSettings second)
    (hscript : first.objects.script.IgnoresNumbers) (family : Family) (paths : Paths)
    (earlier later : List (Family × Paths)) :
    Alike .direct (first.after directBackend (buildSteps earlier))
      (second.after directBackend (buildSteps later)) (.build family paths) := by
  have hbefore := first.buildSteps_sameSettings earlier
  have hafter := second.buildSteps_sameSettings later
  exact build_alike (hfirst.after _).numbered (hsecond.after _).numbered
    (hbefore.symm.trans (hsame.trans hafter)) (hbefore.script ▸ hscript) family paths

theorem build_alike_over (interface : Interface) {first second : Session interface.Call}
    (hfirst : first.Reached interface.backend) (hsecond : second.Reached interface.backend)
    (hsame : first.SameSettings second) (hscript : first.objects.script.IgnoresNumbers)
    (family : Family) (paths : Paths) (earlier later : List (Family × Paths)) :
    Alike interface (first.after interface.backend (buildSteps earlier))
      (second.after interface.backend (buildSteps later)) (.build family paths) := by
  cases interface with
  | direct => exact build_alike_after hfirst hsecond hsame hscript family paths earlier later
  | openGl =>
      obtain ⟨original, horiginal, rfl⟩ := hfirst.ofOpenGl
      obtain ⟨other, hother, rfl⟩ := hsecond.ofOpenGl
      have hsettings : original.SameSettings other :=
        ⟨hsame.files, hsame.config, hsame.release, hsame.script⟩
      have halike := build_alike_after horiginal hother hsettings hscript family paths earlier
        later
      have himage := halike.overOpenGl
      rw [← after_overOpenGl, ← after_overOpenGl] at himage
      exact himage

end Session

/-- Two sessions have the same files, configuration, choice of release and script,
and the script treats all programs alike.  Whatever happened in the sessions before,
and however many builds come first, a build has the same outcome in both, makes the
same calls, logs the same and adds the same to the live objects, but for the numbers
of the new objects.  So two builds can change places. -/
theorem builds_independent_of_history (interface : Interface)
    {first second : Session interface.Call} (hfirst : first.Reached interface.backend)
    (hsecond : second.Reached interface.backend) (hsame : first.SameSettings second)
    (hscript : first.objects.script.IgnoresNumbers) (family : Family) (paths : Paths) :
    (∀ earlier later,
      Session.Alike interface (first.after interface.backend (Session.buildSteps earlier))
        (second.after interface.backend (Session.buildSteps later)) (.build family paths)) ∧
    ∀ other otherPaths,
      Session.Swappable interface first (.build family paths) (.build other otherPaths) := by
  constructor
  · exact Session.build_alike_over interface hfirst hsecond hsame hscript family paths
  · intro other otherPaths
    constructor
    · exact Session.build_alike_over interface hfirst hfirst (.refl first) hscript family paths
        [] [(other, otherPaths)]
    · exact Session.build_alike_over interface hfirst hfirst (.refl first) hscript other
        otherPaths [(family, paths)] []

/-- A session in which nothing happened yet. -/
def Session.quiet : Session (DeviceCall Nat Nat) :=
  start ⟨[(["v"], .file []), (["f"], .file [])]⟩ { auto := true } {}

/-- The session after a link that failed, with the stages that are left of it. -/
def Session.afterFailedLink : Session (DeviceCall Nat Nat) :=
  quiet.after directBackend
    [.script { linkRules := [{ log := "no varying" }] },
      .compile { vertex := "v", fragment := "f" }, .link [1, 2], .script { auto := true }]

theorem builds_independent_of_failed_link :
    (Session.quiet.Reached directBackend ∧ Session.afterFailedLink.Reached directBackend ∧
      Session.quiet.SameSettings Session.afterFailedLink ∧
      Session.quiet.objects.script.IgnoresNumbers) ∧
    (Session.quiet.objects.liveStageNumbers = [] ∧
      Session.afterFailedLink.objects.liveStageNumbers = [1, 2] ∧
      Session.afterFailedLink.objects.programNumbers = [1]) ∧
    (∀ earlier later,
      Session.Alike .direct
        (Session.quiet.after directBackend (Session.buildSteps earlier))
        (Session.afterFailedLink.after directBackend (Session.buildSteps later))
        (.build .blend { vertex := "v", fragment := "f" })) ∧
    ∀ other otherPaths,
      Session.Swappable .direct Session.quiet
        (.build .blend { vertex := "v", fragment := "f" }) (.build other otherPaths) := by
  have hquiet : Session.quiet.Reached directBackend := ⟨_, _, _, [], rfl⟩
  have hfailed : Session.afterFailedLink.Reached directBackend := hquiet.after _
  have hsame : Session.quiet.SameSettings Session.afterFailedLink := ⟨rfl, rfl, rfl, rfl⟩
  have hscript : Session.quiet.objects.script.IgnoresNumbers :=
    Script.ignoresNumbers_of_stride rfl fun _ hrule => absurd hrule List.not_mem_nil
  exact ⟨⟨hquiet, hfailed, hsame, hscript⟩, ⟨rfl, rfl, rfl⟩,
    builds_independent_of_history .direct hquiet hfailed hsame hscript .blend _⟩

end ShaderFamilies
