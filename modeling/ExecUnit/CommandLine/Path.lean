/-!
The text of paths. Slashes cut a path into its parts.
-/

namespace ExecUnit.CommandLine

namespace Path

def maxBytes : Nat := 4095

def maxNameBytes : Nat := 255

/-- The parts between slashes. `read` is the start of a part, in reverse; slashes
next to each other have no part between them. -/
def splitFrom (read : List Char) : List Char → List (List Char)
  | [] => if read = [] then [] else [read.reverse]
  | char :: rest =>
      if char ≠ '/' then splitFrom (char :: read) rest
      else if read = [] then splitFrom [] rest
      else read.reverse :: splitFrom [] rest

def parts (path : String) : List String :=
  (splitFrom [] path.toList).map String.ofList

def startsWith (char : Char) (path : String) : Bool :=
  path.toList.head? = some char

def endsWith (char : Char) (path : String) : Bool :=
  path.toList.getLast? = some char

/-- A dash stands for a standard stream, also with slashes and dots after it. -/
def isStream (path : String) : Bool :=
  startsWith '-' path ∧ (parts path).filter (· ≠ ".") = ["-"]

end Path

end ExecUnit.CommandLine
