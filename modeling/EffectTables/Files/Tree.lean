import EffectTables.Files.Fault
import EffectTables.Path

namespace EffectTables.Files

-- The names from the root of a tree down to one of its nodes.
abbrev Place := List String

inductive Node where
  | directory
  | file (bytes : ByteArray)

def Node.isDirectory : Node → Bool
  | directory => true
  | file _ => false

-- A file system: the nodes below the root, which is a directory and where relative paths start.
structure Tree where
  nodes : List (Place × Node) := []

namespace Tree

def node? (tree : Tree) (place : Place) : Option Node :=
  if place = [] then some .directory else tree.nodes.lookup place

def holdsDirectory (tree : Tree) (place : Place) : Bool :=
  (tree.node? place).any Node.isDirectory

def erase (tree : Tree) (place : Place) : Tree :=
  ⟨tree.nodes.filter fun entry => entry.1 != place⟩

def put (tree : Tree) (place : Place) (node : Node) : Tree :=
  ⟨(tree.erase place).nodes ++ [(place, node)]⟩

-- Where a path leads: to the root or some directory by way of dots, or to a name in a directory,
-- be there something of that name or not. A slash after the name asks for a directory.
inductive Location where
  | directory (place : Place)
  | entry (parent : Place) (name : String) (slash : Bool)
  deriving DecidableEq

def longestName : Nat := 255

def longestPath : Nat := 4095

-- The directory that the names lead to; two dots lead to the directory above, and above the root
-- there is only the root.
def walk (tree : Tree) (place : Place) : List String → Except Fault Place
  | [] => .ok place
  | name :: rest =>
      if name = "." then walk tree place rest
      else if name = ".." then walk tree place.dropLast rest
      else if longestName < name.utf8ByteSize then .error .nameTooLong
      else
        match tree.node? (place ++ [name]) with
        | none => .error .notFound
        | some (.file _) => .error .notADirectory
        | some .directory => walk tree (place ++ [name]) rest

def pathFault? (path : String) : Option Fault :=
  if path.toList.contains '\x00' then some .zeroInPath
  else if path = "" then some .notFound
  else if longestPath < path.utf8ByteSize then some .nameTooLong
  else none

-- The end of a path whose other names led to `parent`.
def arrive (parent : Place) (last : String) (slash : Bool) : Except Fault Location :=
  if last = "." then .ok (.directory parent)
  else if last = ".." then .ok (.directory parent.dropLast)
  else if longestName < last.utf8ByteSize then .error .nameTooLong
  else .ok (.entry parent last slash)

def locate (tree : Tree) (path : String) : Except Fault Location :=
  match pathFault? path with
  | some fault => .error fault
  | none =>
      match (Path.names path).getLast? with
      | none => .ok (.directory [])
      | some last => do
          let parent ← tree.walk [] (Path.names path).dropLast
          arrive parent last (Path.endsInSlash path)

def isDirectory (tree : Tree) (path : String) : Bool :=
  match tree.locate path with
  | .error _ => false
  | .ok (.directory _) => true
  | .ok (.entry parent name _) => tree.holdsDirectory (parent ++ [name])

def read (tree : Tree) (path : String) : Except Fault ByteArray := do
  match ← tree.locate path with
  | .directory _ => throw .isADirectory
  | .entry parent name slash =>
      match tree.node? (parent ++ [name]) with
      | none => throw .notFound
      | some .directory => throw .isADirectory
      | some (.file bytes) => if slash then throw .notADirectory else return bytes

def write (tree : Tree) (path : String) (bytes : ByteArray) : Except Fault Tree := do
  match ← tree.locate path with
  | .directory _ => throw .isADirectory
  | .entry parent name slash =>
      if slash || tree.holdsDirectory (parent ++ [name]) then throw .isADirectory
      else return tree.put (parent ++ [name]) (.file bytes)

-- Makes an empty file where there was nothing before.
def create (tree : Tree) (path : String) : Except Fault Tree := do
  match ← tree.locate path with
  | .directory _ => throw .alreadyExists
  | .entry parent name slash =>
      if slash then throw .isADirectory
      else
        match tree.node? (parent ++ [name]) with
        | some _ => throw .alreadyExists
        | none => return tree.put (parent ++ [name]) (.file .empty)

def makeDirectory (tree : Tree) (path : String) : Except Fault Tree := do
  match ← tree.locate path with
  | .directory _ => throw .alreadyExists
  | .entry parent name _ =>
      match tree.node? (parent ++ [name]) with
      | some _ => throw .alreadyExists
      | none => return tree.put (parent ++ [name]) .directory

def remove (tree : Tree) (path : String) : Except Fault Tree := do
  match ← tree.locate path with
  | .directory _ => throw .isADirectory
  | .entry parent name slash =>
      match tree.node? (parent ++ [name]) with
      | none => throw .notFound
      | some .directory => throw .isADirectory
      | some (.file _) =>
          if slash then throw .notADirectory else return tree.erase (parent ++ [name])

def rename (tree : Tree) (source target : String) : Except Fault Tree := do
  let bytes ← tree.read source
  match ← tree.locate target with
  | .directory _ => throw .isADirectory
  | .entry parent name slash =>
      if tree.holdsDirectory (parent ++ [name]) then throw .isADirectory
      else if slash then throw .notADirectory
      else return (← tree.remove source).put (parent ++ [name]) (.file bytes)

-- The paths of all nodes in ascending order, those of directories with a slash at the end, and
-- what the files hold.
def listing (tree : Tree) : List (String × Option ByteArray) :=
  (tree.nodes.map fun (place, node) =>
    match node with
    | .directory => ("/".intercalate place ++ "/", none)
    | .file bytes => ("/".intercalate place, some bytes)).mergeSort fun a b => a.1 ≤ b.1

end Tree

end EffectTables.Files
