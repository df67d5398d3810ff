import ShaderFamilies.BuildLog
import ShaderFamilies.GraphicsDevice

/-!
# The workbench

A build works on files and on a device and keeps a log.  Work that fails
leaves the workbench as it was at that point: nothing is undone by itself.
-/

namespace ShaderFamilies

/-- Files, a device with state `σ`, and the log, oldest event first. -/
structure Workbench (σ S P : Type) where
  files : FileTree
  device : σ
  log : Array (LogEvent S P)

abbrev Work (σ S P α : Type) : Type :=
  ExceptT ShaderError (StateM (Workbench σ S P)) α

namespace Work

variable {σ S P α : Type}

def call (operation : StateM σ α) : Work σ S P α :=
  ExceptT.mk fun bench =>
    let outcome := operation bench.device
    (.ok outcome.1, { bench with device := outcome.2 })

def note (event : LogEvent S P) : Work σ S P Unit :=
  ExceptT.mk fun bench =>
    (.ok (), { bench with log := bench.log.push event })

/-- Carries on after the work, whichever way it ended. -/
def attempt (work : Work σ S P α) : Work σ S P (Except ShaderError α) :=
  ExceptT.mk fun bench =>
    let outcome := work.run bench
    (.ok outcome.1, outcome.2)

/-- Ends the way that an earlier attempt ended. -/
def conclude (result : Except ShaderError α) : Work σ S P α :=
  ExceptT.mk fun bench => (result, bench)

def readFile (path : String) : Work σ S P Bytes :=
  ExceptT.mk fun bench =>
    ((bench.files.read path).mapError (.file path), bench)

def writeFile (path : String) (content : Bytes) : Work σ S P Unit :=
  ExceptT.mk fun bench =>
    match bench.files.write path content with
    | .ok files => (.ok (), { bench with files := files })
    | .error fault => (.error (.file path fault), bench)

end Work

end ShaderFamilies
