import ShaderFamilies.ShaderError

/-!
# The log of a build

What happens is logged as events, each with a level and a wording.  Objects of
a device appear in the wording as the caller shows them.
-/

namespace ShaderFamilies

inductive LogLevel
  | error
  | warning
  | info
  | debug
  | trace
  deriving DecidableEq

def LogLevel.name : LogLevel → String
  | .error => "ERROR"
  | .warning => "WARN"
  | .info => "INFO"
  | .debug => "DEBUG"
  | .trace => "TRACE"

/-- What is logged, with stage objects `S` and program objects `P`. -/
inductive LogEvent (S P : Type)
  | configurationLoaded (path : String)
  | sourcesLoaded (paths : Paths) (geometry : Bool)
  | variantsDumped (count : Nat) (family : Family)
  | stageCompiled (kind : Stage) (stage : S)
  | stageFailed (kind : Stage) (diagnostic : String)
  | programLinked (program : P) (stages : Nat)
  | programFailed (diagnostic : String)
  | familyBuilt (family : Family) (program : P)
  | familyFailed (family : Family) (error : ShaderError)
  | attributeMissing (name : String) (program : P)
  | uniformMissing (name : String) (program : P)

namespace LogEvent

variable {S P : Type}

def level : LogEvent S P → LogLevel
  | .configurationLoaded .. => .debug
  | .sourcesLoaded .. => .debug
  | .variantsDumped .. => .debug
  | .stageCompiled .. => .trace
  | .stageFailed .. => .error
  | .programLinked .. => .debug
  | .programFailed .. => .error
  | .familyBuilt .. => .info
  | .familyFailed .. => .error
  | .attributeMissing .. => .trace
  | .uniformMissing .. => .trace

def message (showStage : S → String) (showProgram : P → String) :
    LogEvent S P → String
  | .configurationLoaded path =>
      "Loaded shader configuration from " ++ Quoted.quote path
  | .sourcesLoaded paths geometry =>
      "Loaded shader sources " ++ Quoted.quote paths.vertex ++ " / " ++
        Quoted.quote paths.fragment ++ " (geometry: " ++
        (if geometry then "true" else "false") ++ ")"
  | .variantsDumped count family =>
      "Dumped " ++ toString count ++ " " ++ family.name ++ " variant(s)"
  | .stageCompiled kind stage =>
      "Compiled " ++ kind.name ++ " shader " ++ showStage stage
  | .stageFailed kind diagnostic =>
      "Failed to compile " ++ kind.name ++ " shader: " ++ diagnostic
  | .programLinked program stages =>
      "Linked program " ++ showProgram program ++ " from " ++
        toString stages ++ " stages"
  | .programFailed diagnostic => "Failed to link program: " ++ diagnostic
  | .familyBuilt family program =>
      "Built " ++ family.name ++ " shader program " ++ showProgram program
  | .familyFailed family error =>
      "Failed to build " ++ family.name ++ " shader: " ++ error.message
  | .attributeMissing name program =>
      "Attribute '" ++ name ++ "' not found in program " ++ showProgram program
  | .uniformMissing name program =>
      "Uniform '" ++ name ++ "' not found in program " ++ showProgram program

end LogEvent

end ShaderFamilies
