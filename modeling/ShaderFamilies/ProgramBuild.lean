import ShaderFamilies.Workbench

/-!
# Compiling and linking

Stages are compiled in order; when one fails, it and the earlier ones are
destroyed.  Linking makes a program of stages and destroys the program when it
fails.  Stages outlive the linking unless they are released with it.
-/

namespace ShaderFamilies

variable {σ S P : Type} (device : Device σ S P)

def releaseStages : List S → Work σ S P Unit
  | [] => pure ()
  | stage :: rest => do
      Work.call (device.destroyStage stage)
      releaseStages rest

/-- Compiles the stages that are left, after those that are `done`. -/
def compileRemaining (done : List S) : List (Stage × String) → Work σ S P (List S)
  | [] => return done
  | (kind, text) :: rest => do
      match ← Work.call (device.createStage kind) with
      | .error reason =>
          releaseStages device done
          throw (.device ("failed to create " ++ kind.name ++ " shader: " ++ reason))
      | .ok stage =>
          match ← Work.call (device.compileStage stage text) with
          | .error diagnostic =>
              Work.note (.stageFailed kind diagnostic)
              Work.call (device.destroyStage stage)
              releaseStages device done
              throw (.compile kind diagnostic)
          | .ok () =>
              Work.note (.stageCompiled kind stage)
              compileRemaining (done ++ [stage]) rest

def compileStages (sources : Sources) : Work σ S P (List S) :=
  compileRemaining device [] sources.stages

def attachStages (program : P) : List S → Work σ S P Unit
  | [] => pure ()
  | stage :: rest => do
      Work.call (device.attachStage program stage)
      attachStages program rest

/-- Links stages into a new program.  The stages stay with the caller. -/
def linkProgram (stages : List S) : Work σ S P P := do
  match ← Work.call device.createProgram with
  | .error reason => throw (.device reason)
  | .ok program =>
      attachStages device program stages
      match ← Work.call (device.linkProgram program) with
      | .ok () =>
          Work.note (.programLinked program stages.length)
          return program
      | .error diagnostic =>
          Work.note (.programFailed diagnostic)
          Work.call (device.destroyProgram program)
          throw (.link diagnostic)

/-- Links stages into a new program and destroys them in any case. -/
def linkProgramReleasing (stages : List S) : Work σ S P P := do
  let result ← Work.attempt (linkProgram device stages)
  releaseStages device stages
  Work.conclude result

/-- The program of the sources.  `release` says whether its stages are
destroyed once linking is over. -/
def buildProgram (release : Bool) (sources : Sources) : Work σ S P P := do
  let stages ← compileStages device sources
  if release then linkProgramReleasing device stages
  else linkProgram device stages

end ShaderFamilies
