/-!
# Blocks of defines

A define is a name with an optional value.  A block is an ordered list of
defines; later lines of a shader may rely on earlier ones, so the order is
part of the block.  Rendering writes one line per define.
-/

namespace ShaderFamilies

/-- A preprocessor define.  Without a value it only marks its name as set. -/
structure Define where
  name : String
  value : Option String := none
  deriving DecidableEq

/-- The line that states a define, without its line end. -/
def Define.directive (define : Define) : String :=
  match define.value with
  | none => "#define " ++ define.name
  | some value => "#define " ++ define.name ++ " " ++ value

inductive DefineValue
  | text (content : String)
  | integer (value : Int)
  | truth (value : Bool)

def DefineValue.render : DefineValue → String
  | .text content => content
  | .integer value => toString value
  | .truth true => "true"
  | .truth false => "false"

structure DefineBlock where
  defines : List Define := []
  deriving DecidableEq

namespace DefineBlock

def empty : DefineBlock := {}

def append (block : DefineBlock) (define : Define) : DefineBlock :=
  ⟨block.defines ++ [define]⟩

def flag (block : DefineBlock) (name : String) : DefineBlock :=
  block.append { name }

/-- Adds a define without a value when `enabled`. -/
def flagIf (block : DefineBlock) (enabled : Bool) (name : String) : DefineBlock :=
  if enabled then block.flag name else block

/-- Adds a define without a value for the name, if there is one. -/
def flagOption (block : DefineBlock) : Option String → DefineBlock
  | some name => block.flag name
  | none => block

def value (block : DefineBlock) (name value : String) : DefineBlock :=
  block.append { name, value := some value }

def number (block : DefineBlock) (name : String) (value : UInt32) : DefineBlock :=
  block.value name (toString value.toNat)

def length (block : DefineBlock) : Nat :=
  block.defines.length

def isEmpty (block : DefineBlock) : Bool :=
  block.defines.isEmpty

/-- One line per define, each with its line end. -/
def renderDefines : List Define → String
  | [] => ""
  | define :: rest => define.directive ++ "\n" ++ renderDefines rest

def render (block : DefineBlock) : String :=
  renderDefines block.defines

end DefineBlock

inductive BlockStep
  | flag (name : String)
  | flagIf (enabled : Bool) (name : String)
  | flagOption (name : Option String)
  | value (name : String) (value : DefineValue)

def DefineBlock.extend (block : DefineBlock) : BlockStep → DefineBlock
  | .flag name => block.flag name
  | .flagIf enabled name => block.flagIf enabled name
  | .flagOption name => block.flagOption name
  | .value name value => block.value name value.render

/-- The blocks that come about step by step, without the first one. -/
def DefineBlock.extensions (block : DefineBlock) : List BlockStep → List DefineBlock
  | [] => []
  | step :: rest => block.extend step :: (block.extend step).extensions rest

def DefineBlock.extendAll (block : DefineBlock) (steps : List BlockStep) : DefineBlock :=
  steps.foldl DefineBlock.extend block

@[simp] theorem DefineBlock.renderDefines_nil :
    DefineBlock.renderDefines [] = "" :=
  rfl

@[simp] theorem DefineBlock.renderDefines_cons (define : Define) (rest : List Define) :
    DefineBlock.renderDefines (define :: rest) =
      define.directive ++ "\n" ++ DefineBlock.renderDefines rest :=
  rfl

theorem DefineBlock.renderDefines_append (before after : List Define) :
    DefineBlock.renderDefines (before ++ after) =
      DefineBlock.renderDefines before ++ DefineBlock.renderDefines after := by
  induction before with
  | nil => simp
  | cons define rest ih => simp [ih, String.append_assoc]

end ShaderFamilies
