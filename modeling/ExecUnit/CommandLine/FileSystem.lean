/-!
The files around a run. How a path leads to a file is up to the system: links, rights and
room are its business. What is relied on is that a file holds what was stored in it last,
and that storing in it leaves the other files alone.
-/

namespace ExecUnit.CommandLine

structure FileFault where
  reason : String
  number : Nat
  deriving DecidableEq, Repr

namespace FileFault

def notFound : FileFault := ⟨"No such file or directory", 2⟩

def permissionDenied : FileFault := ⟨"Permission denied", 13⟩

def notADirectory : FileFault := ⟨"Not a directory", 20⟩

def isADirectory : FileFault := ⟨"Is a directory", 21⟩

def nameTooLong : FileFault := ⟨"File name too long", 36⟩

def message (fault : FileFault) : String :=
  s!"{fault.reason} (os error {fault.number})"

end FileFault

/-- What a path leads to for a reader. Standard input can be read by the name of its device. -/
inductive Source (File : Type) where
  | file (file : File)
  | input
  | empty
  deriving DecidableEq, Repr

inductive Target (File : Type) where
  | file (file : File)
  | output
  | void
  deriving DecidableEq, Repr

/-- The states `F` of a file system. A path may lead a writer to a file that is not there
yet; whether there is room for the bytes is known before they are stored. -/
class FileSystem (F : Type) where
  /-- What tells files apart, by whatever paths they are reached. -/
  File : Type
  content? (files : F) (file : File) : Option (List UInt8)
  source (files : F) (path : String) : Except FileFault (Source File)
  target (files : F) (path : String) (bytes : List UInt8) : Except FileFault (Target File)
  store (files : F) (file : File) (bytes : List UInt8) : F
  content?_store_self (files : F) (file : File) (bytes : List UInt8) :
    content? (store files file bytes) file = some bytes
  content?_store_of_ne (files : F) {file other : File} (different : other ≠ file)
    (bytes : List UInt8) : content? (store files file bytes) other = content? files other

end ExecUnit.CommandLine
