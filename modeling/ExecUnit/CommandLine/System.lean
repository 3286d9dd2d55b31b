import ExecUnit.CommandLine.Host

/-!
Runs of the disassembler on a system that is kept as a value: two streams and a file system.
Its operations change the system where they succeed, and leave it alone where they fail.
-/

namespace ExecUnit.CommandLine

variable {F : Type}

/-- The faults of standard streams that do not work. -/
structure Streams where
  inputFault? : Option FileFault := none
  outputFault? : Option FileFault := none
  deriving DecidableEq, Repr

structure World (F : Type) where
  input : List UInt8
  files : F
  deriving DecidableEq, Repr

structure System (F : Type) where
  world : World F
  streams : Streams
  output : String
  log : List LogEntry
  deriving DecidableEq, Repr

structure Outcome (F : Type) where
  ending : Ending
  output : String
  files : F
  deriving DecidableEq, Repr

namespace Outcome

def exitCode (outcome : Outcome F) : Nat :=
  outcome.ending.exitCode

def complaint (outcome : Outcome F) : String :=
  outcome.ending.complaint

end Outcome

section Operations

variable [FileSystem F]

def World.readInput (streams : Streams) (world : World F) : Except FileFault (List UInt8) :=
  match streams.inputFault? with
  | none => .ok world.input
  | some fault => .error fault

def World.readFile (path : String) (streams : Streams) (world : World F) :
    Except FileFault (List UInt8) :=
  match FileSystem.source world.files path with
  | .error fault => .error fault
  | .ok .empty => .ok []
  | .ok .input => world.readInput streams
  | .ok (.file file) =>
      match FileSystem.content? world.files file with
      | some bytes => .ok bytes
      | none => .error .notFound

namespace System

def start (world : World F) (streams : Streams) : System F :=
  ⟨world, streams, "", []⟩

def print (text : String) (system : System F) : Except FileFault (System F) :=
  match system.streams.outputFault? with
  | none => .ok { system with output := system.output ++ text }
  | some fault => .error fault

def put (target : Target (FileSystem.File F)) (text : String) (system : System F) :
    Except FileFault (System F) :=
  match target with
  | .output => system.print text
  | .void => .ok system
  | .file file =>
      let files := FileSystem.store system.world.files file (Utf8.encode text)
      .ok { system with world := { system.world with files } }

def writeFile (path text : String) (system : System F) : Except FileFault (System F) :=
  match FileSystem.target system.world.files path (Utf8.encode text) with
  | .error fault => .error fault
  | .ok target => system.put target text

/-- Changes the system, unless the change fails. -/
def change (operation : System F → Except FileFault (System F)) :
    StateM (System F) (Except FileFault Unit) := fun system =>
  match operation system with
  | .ok after => (.ok (), after)
  | .error fault => (.error fault, system)

def host : Host (StateM (System F)) where
  readInput := do
    let system ← get
    pure (system.world.readInput system.streams)
  readFile path := do
    let system ← get
    pure (system.world.readFile path system.streams)
  print text := change (print text)
  writeFile path text := change (writeFile path text)
  report entry := modify fun system => { system with log := system.log ++ [entry] }

end System

def World.run (arguments : List String) (world : World F) (streams : Streams) : Outcome F :=
  let finished := (System.host.main arguments).run (.start world streams)
  ⟨finished.1, finished.2.output, finished.2.world.files⟩

end Operations

end ExecUnit.CommandLine
