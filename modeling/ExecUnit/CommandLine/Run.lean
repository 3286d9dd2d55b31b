import ExecUnit.CommandLine.System
import ExecUnit.CommandLine.Tree

/-!
Runs in a directory that holds nothing but files, on a tree with nothing else in it but the
devices.
-/

namespace ExecUnit.CommandLine

/-- Files by name; the first entry of a name counts. -/
structure Directory where
  files : List (String × List UInt8)
  deriving DecidableEq, Repr

namespace Directory

def find? (name : String) (directory : Directory) : Option (List UInt8) :=
  directory.files.lookup name

def place : List String :=
  ["work", "tmp"]

def surroundings : List (List String × Node) :=
  [(["tmp"], .directory), (["work", "tmp"], .directory), (["dev"], .directory),
    (["null", "dev"], .device .null), (["stdin", "dev"], .device .input),
    (["stdout", "dev"], .device .output)]

def tree (directory : Directory) : Tree where
  nodes := directory.files.map (fun file => (file.1 :: place, .file file.2)) ++ surroundings
  here := place

end Directory

def Tree.fileIn? (here : List String) : List String × Node → Option (String × List UInt8)
  | (name :: parent, .file bytes) => if parent = here then some (name, bytes) else none
  | _ => none

def Tree.directory (tree : Tree) : Directory :=
  ⟨tree.nodes.filterMap (fileIn? tree.here)⟩

def run (arguments : List String) (world : World Directory) (streams : Streams := {}) :
    Outcome Tree :=
  World.run arguments ⟨world.input, world.files.tree⟩ streams

def Outcome.directory (outcome : Outcome Tree) : Directory :=
  outcome.files.directory

end ExecUnit.CommandLine
