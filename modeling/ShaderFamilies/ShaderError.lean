import ShaderFamilies.ConfigurationDocument
import ShaderFamilies.FamilyVariants
import ShaderFamilies.FileTree
import ShaderFamilies.QuotedText

/-!
# Errors

An error says what failed and keeps the diagnostic as it was given.
-/

namespace ShaderFamilies

inductive ConfigurationProblem
  | document (fault : Document.Fault)
  | parameters (fault : ConfigurationFault)
  | outputCount (family : Family) (variants outputs : Nat)
  /-- A problem that was found elsewhere. -/
  | other (report : String)

def ConfigurationProblem.message : ConfigurationProblem → String
  | .document fault => fault.message
  | .parameters fault => fault.message
  | .outputCount family variants outputs =>
      family.name ++ " family has " ++ toString variants ++ " variants but " ++
        toString outputs ++ " output path sets were given"
  | .other report => report

inductive ShaderError
  | file (path : String) (fault : FileFault)
  | compile (stage : Stage) (log : String)
  | link (log : String)
  | device (report : String)
  | configuration (problem : ConfigurationProblem)

namespace ShaderError

def message : ShaderError → String
  | .file path fault =>
      "Failed to access shader file " ++ Quoted.quote path ++ ": " ++ fault.message
  | .compile stage log => stage.name ++ " shader compilation failed: " ++ log
  | .link log => "Program link failed: " ++ log
  | .device report => "Graphics backend error: " ++ report
  | .configuration problem => "Invalid shader configuration: " ++ problem.message

/-- The wording of the error behind this one, if there is one. -/
def source? : ShaderError → Option String
  | .file _ fault => some fault.message
  | _ => none

end ShaderError

def Configuration.validate (config : Configuration) : Except ShaderError Unit :=
  match config.fault? with
  | some fault => .error (.configuration (.parameters fault))
  | none => .ok ()

def Configuration.ofDocument (document : String) :
    Except ShaderError Configuration :=
  (Configuration.read document).mapError fun fault =>
    .configuration (.document fault)

end ShaderFamilies
