import ShaderFamilies.Utf8Text

/-!
# Files around a working directory

A tree maps places to files and directories.  Paths are walked component by
component from the working directory, as a hierarchical file system does it:
`.` stays, `..` goes up, repeated slashes count once, and a trailing slash asks
for a directory.
-/

namespace ShaderFamilies

inductive FileNode
  | directory
  | file (content : Bytes)
  deriving DecidableEq

/-- A place by the names that lead to it from the working directory.  Above
the working directory each step up is a leading `..`; a leading slash stands
for the root. -/
abbrev Place := List String

namespace Place

def root : Place := ["/"]

/-- Whether a place is the working directory, a directory above it or the
root.  These are always there. -/
def isGiven (place : Place) : Bool :=
  place.all (· == "..") || place == root

/-- The directory that holds a place.  The root holds itself. -/
def above (place : Place) : Place :=
  if place = root then root
  else if place.isGiven then place ++ [".."]
  else place.dropLast

def isBelow : Place → Bool
  | [] => false
  | name :: _ => name != ".." && name != "/"

end Place

inductive FileFault
  | notFound
  | isDirectory
  | notDirectory
  | nameTooLong
  | nulInPath
  | notText
  /-- A fault that was found elsewhere. -/
  | other (report : String)
  deriving DecidableEq

def FileFault.message : FileFault → String
  | .notFound => "No such file or directory (os error 2)"
  | .isDirectory => "Is a directory (os error 21)"
  | .notDirectory => "Not a directory (os error 20)"
  | .nameTooLong => "File name too long (os error 36)"
  | .nulInPath => "file name contained an unexpected NUL byte"
  | .notText => "stream did not contain valid UTF-8"
  | .other report => report

/-- The files and directories, without those that are always there. -/
structure FileTree where
  entries : List (Place × FileNode) := []
  deriving DecidableEq

namespace FileTree

def node? (tree : FileTree) (place : Place) : Option FileNode :=
  if place.isGiven then some .directory else tree.entries.lookup place

def insert (tree : FileTree) (place : Place) (node : FileNode) : FileTree :=
  ⟨tree.entries.filter (·.1 != place) ++ [(place, node)]⟩

/-! ## Walking -/

/-- Where a walk stands, and what is there. -/
structure Standing where
  place : Place
  node : FileNode

def longestName : Nat := 255

/-- The shortest path that is too long, in bytes. -/
def pathLimit : Nat := 4096

def step (tree : FileTree) (standing : Standing) (component : String) :
    Except FileFault Standing :=
  match standing.node with
  | .file _ => .error .notDirectory
  | .directory =>
      if component = "." then .ok standing
      else if component = ".." then .ok ⟨standing.place.above, .directory⟩
      else if longestName < component.utf8ByteSize then .error .nameTooLong
      else
        match tree.node? (standing.place ++ [component]) with
        | some node => .ok ⟨standing.place ++ [component], node⟩
        | none => .error .notFound

def walk (tree : FileTree) (standing : Standing) :
    List String → Except FileFault Standing
  | [] => .ok standing
  | component :: rest =>
      match tree.step standing component with
      | .ok next => tree.walk next rest
      | .error fault => .error fault

def pieces : List Char → List (List Char)
  | [] => [[]]
  | head :: tail =>
      if head = '/' then [] :: pieces tail
      else
        match pieces tail with
        | [] => [[head]]
        | piece :: rest => (head :: piece) :: rest

def components (path : String) : List String :=
  ((pieces path.toList).filter (! ·.isEmpty)).map String.ofList

def origin (path : String) : Place :=
  if path.toList.head? = some '/' then .root else []

structure Route where
  start : Standing
  components : List String
  asksDirectory : Bool

def route (path : String) : Except FileFault Route :=
  if path.toList.contains (Char.ofNat 0) then .error .nulInPath
  else if path = "" then .error .notFound
  else if pathLimit ≤ path.utf8ByteSize then .error .nameTooLong
  else
    .ok
      { start := ⟨origin path, .directory⟩
        components := components path
        asksDirectory := path.toList.getLast? = some '/' }

/-! ## Reading and writing -/

def read (tree : FileTree) (path : String) : Except FileFault Bytes := do
  let route ← route path
  match (← tree.walk route.start route.components).node with
  | .directory => throw .isDirectory
  | .file content =>
      if route.asksDirectory then throw .notDirectory else return content

def target (tree : FileTree) (path : String) : Except FileFault Place := do
  let route ← route path
  match route.components.getLast? with
  | none => throw .isDirectory
  | some name =>
      let standing ← tree.walk route.start route.components.dropLast
      match standing.node with
      | .file _ => throw .notDirectory
      | .directory =>
          if name = "." ∨ name = ".." ∨ route.asksDirectory then throw .isDirectory
          else if longestName < name.utf8ByteSize then throw .nameTooLong
          else
            match tree.node? (standing.place ++ [name]) with
            | some .directory => throw .isDirectory
            | _ => return standing.place ++ [name]

def write (tree : FileTree) (path : String) (content : Bytes) :
    Except FileFault FileTree :=
  (tree.target path).map fun place => tree.insert place (.file content)

/-! ## Laying out a tree -/

/-- The place that a path names where all its directories are there. -/
def placeOf (path : String) : Place :=
  (components path).foldl
    (fun place component =>
      if component = "." then place
      else if component = ".." then place.above
      else place ++ [component])
    (origin path)

def ancestors : Place → List Place
  | [] => []
  | [_] => []
  | head :: tail => [head] :: (ancestors tail).map (head :: ·)

/-- The tree with a node laid at a path and the directories that it needs. -/
def lay (tree : FileTree) (path : String) (node : FileNode) : FileTree :=
  let place := placeOf path
  let parents := (ancestors place).filter fun parent => (tree.node? parent).isNone
  (parents.foldl (fun tree parent => tree.insert parent .directory) tree).insert
    place node

def remove (tree : FileTree) (path : String) : FileTree :=
  ⟨tree.entries.filter fun entry => ! (placeOf path).isPrefixOf entry.1⟩

def pathOf (place : Place) : String :=
  "/".intercalate place

/-- Everything below the working directory by its relative path, in order of
the paths. -/
def listing (tree : FileTree) : List (String × FileNode) :=
  ((tree.entries.filter (·.1.isBelow)).map fun entry =>
    (pathOf entry.1, entry.2)).mergeSort fun first second => first.1 ≤ second.1

end FileTree

end ShaderFamilies
