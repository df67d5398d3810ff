/-!
# Writing documents

A document that is written consists of labels, numbers, truth values and
records.  It is laid out with one member per line, two spaces to a level.
-/

namespace ShaderFamilies

namespace Document

inductive Tree
  | label (name : String)
  | number (value : UInt32)
  | truth (value : Bool)
  | record (members : List (String × Tree))

def indentation (depth : Nat) : String :=
  String.ofList (List.replicate (2 * depth) ' ')

def quoted (name : String) : String :=
  "\"" ++ name ++ "\""

mutual

/-- The text of a tree that starts inside of `depth` records. -/
def Tree.layout (depth : Nat) : Tree → String
  | .label name => quoted name
  | .number value => toString value.toNat
  | .truth true => "true"
  | .truth false => "false"
  | .record [] => "\x7b\x7d"
  | .record (member :: rest) =>
      "\x7b\n" ++ layoutMembers (depth + 1) (member :: rest) ++
        "\n" ++ indentation depth ++ "\x7d"

def layoutMembers (depth : Nat) : List (String × Tree) → String
  | [] => ""
  | [(name, tree)] => indentation depth ++ quoted name ++ ": " ++ tree.layout depth
  | (name, tree) :: member :: rest =>
      indentation depth ++ quoted name ++ ": " ++ tree.layout depth ++ ",\n" ++
        layoutMembers depth (member :: rest)

end

def Tree.text (tree : Tree) : String :=
  tree.layout 0

end Document

end ShaderFamilies
