import ExecUnit.CommandLine.FileSystem
import ExecUnit.CommandLine.Path

/-!
A file system without links: directories, files and devices, each in one place. A path is
followed part by part from the root or from the directory of the run.
-/

namespace ExecUnit.CommandLine

/-- Files that are no storage. -/
inductive Device where
  | null
  | input
  | output
  deriving DecidableEq, Repr

inductive Node where
  | directory
  | device (device : Device)
  | file (bytes : List UInt8)
  deriving DecidableEq, Repr

/-- The nodes of a tree are kept by the names on the way from the root, the last one first;
the first entry of a place counts. The root is there without an entry. -/
structure Tree where
  nodes : List (List String × Node)
  here : List String
  deriving DecidableEq, Repr

namespace Tree

/-- Where a path ends: in a directory, or at a name in one that is not that of another. A name
may have a slash after it, which only a directory could have. -/
inductive Goal where
  | directory
  | entry (parent : List String) (name : String) (slash : Bool)
  deriving DecidableEq, Repr

def node? (tree : Tree) (place : List String) : Option Node :=
  tree.nodes.lookup place

-- Looks a name up; its length is judged first.
def look (tree : Tree) (parent : List String) (name : String) : Except FileFault Node :=
  if Path.maxNameBytes < name.utf8ByteSize then .error .nameTooLong
  else match tree.node? (name :: parent) with
    | some node => .ok node
    | none => .error .notFound

/-- Goes from a directory along the parts of a path that may end with a slash. -/
def follow (tree : Tree) (slash : Bool) (place : List String) :
    List String → Except FileFault Goal
  | [] => .ok .directory
  | name :: rest =>
      if name = "." then tree.follow slash place rest
      else if name = ".." then tree.follow slash place.tail rest
      else match tree.look place name with
        | .ok .directory => tree.follow slash (name :: place) rest
        | .ok _ => if rest = [] then .ok (.entry place name slash) else .error .notADirectory
        | .error fault => if rest = [] then .ok (.entry place name slash) else .error fault

def goal (tree : Tree) (path : String) : Except FileFault Goal :=
  if path = "" then .error .notFound
  else if Path.maxBytes < path.utf8ByteSize then .error .nameTooLong
  else
    let start := if Path.startsWith '/' path then [] else tree.here
    tree.follow (Path.endsWith '/' path) start (Path.parts path)

def sourceAt (tree : Tree) : Goal → Except FileFault (Source (List String))
  | .directory => .error .isADirectory
  | .entry parent name slash => do
      let node ← tree.look parent name
      if slash then .error .notADirectory
      else match node with
        | .directory => .error .isADirectory
        | .device .null => .ok .empty
        | .device .input => .ok .input
        | .device .output => .error .permissionDenied
        | .file _ => .ok (.file (name :: parent))

def source (tree : Tree) (path : String) : Except FileFault (Source (List String)) := do
  tree.sourceAt (← tree.goal path)

/-- What a writer can write to where a path ends. A name with a slash after it cannot be that
of a new file, whatever its length. -/
def targetAt (tree : Tree) : Goal → Except FileFault (Target (List String))
  | .directory => .error .isADirectory
  | .entry parent name slash =>
      if slash then .error .isADirectory
      else if Path.maxNameBytes < name.utf8ByteSize then .error .nameTooLong
      else match tree.node? (name :: parent) with
        | some .directory => .error .isADirectory
        | some (.device .null) => .ok .void
        | some (.device .input) => .error .permissionDenied
        | some (.device .output) => .ok .output
        | some (.file _) | none => .ok (.file (name :: parent))

def target (tree : Tree) (path : String) : Except FileFault (Target (List String)) := do
  tree.targetAt (← tree.goal path)

def content? (tree : Tree) (place : List String) : Option (List UInt8) :=
  match tree.node? place with
  | some (.file bytes) => some bytes
  | some .directory | some (.device _) | none => none

def store (tree : Tree) (place : List String) (bytes : List UInt8) : Tree :=
  { tree with nodes := (place, .file bytes) :: tree.nodes }

theorem node?_store_self (tree : Tree) (place : List String) (bytes : List UInt8) :
    (tree.store place bytes).node? place = some (.file bytes) :=
  List.lookup_cons_self

theorem node?_store_of_ne (tree : Tree) {place other : List String} (different : other ≠ place)
    (bytes : List UInt8) : (tree.store place bytes).node? other = tree.node? other := by
  rw [node?, store, List.lookup_cons, beq_eq_false_iff_ne.mpr different]
  rfl

instance : FileSystem Tree where
  File := List String
  content? := content?
  source := source
  target tree path _ := tree.target path
  store := store
  content?_store_self tree place bytes := by rw [content?, node?_store_self]
  content?_store_of_ne tree _ _ different bytes := by
    rw [content?, node?_store_of_ne tree different, content?]

end Tree

end ExecUnit.CommandLine
