import ExecUnit.CommandLine.Arguments
import ExecUnit.CommandLine.FileSystem
import ExecUnit.CommandLine.Path
import ExecUnit.Program.Basic
import ExecUnit.Text.Utf8

/-!
The disassembler as a sequence of operations on the system around it: it reads the
input, lists the program in it and delivers the listing. A failing operation ends the
run; nothing takes back what was done before it.
-/

namespace ExecUnit.CommandLine

inductive RunFault where
  | noInput (fault : FileFault)
  | unreadable (path : String) (fault : FileFault)
  | notText (path : String) (fault : Utf8.Fault)
  | noInstructions (path : String)
  | noOutput (fault : FileFault)
  | unwritable (path : String) (fault : FileFault)
  deriving DecidableEq, Repr

def RunFault.message : RunFault → String
  | .noInput fault => s!"Failed to read standard input: {fault.message}"
  | .unreadable path fault => s!"Failed to read \"{path}\": {fault.message}"
  | .notText path fault =>
      s!"\"{path}\" is not text; pass --raw for binary input: {fault.message}"
  | .noInstructions path => s!"No instructions in \"{path}\""
  | .noOutput fault => s!"Failed to write standard output: {fault.message}"
  | .unwritable path fault => s!"Failed to write \"{path}\": {fault.message}"

inductive Ending where
  | usage (fault : ArgumentFault)
  | version
  | help
  | failed (fault : RunFault)
  | done
  deriving DecidableEq, Repr

namespace Ending

def exitCode : Ending → Nat
  | .usage _ | .failed _ => 1
  | .version | .help | .done => 0

/-- What is written to standard error, apart from reports. -/
def complaint : Ending → String
  | .usage fault => fault.message ++ "\n"
  | .failed fault => fault.message ++ "\n"
  | .version | .help | .done => ""

end Ending

def versionText : String := "geneu-disasm 0.1.0\n"

def helpText : String :=
  String.intercalate "\n" [
    "Disassembles Intel Gen4 through Gen9 EU instructions",
    "",
    "Usage: geneu-disasm [OPTIONS] <INPUT>",
    "",
    "Arguments:",
    "  <INPUT>  Instructions to disassemble; `-` reads standard input",
    "",
    "Options:",
    "  -o, --output <OUTPUT>   Where to write the disassembly; `-` (the default) is standard output",
    "  -b, --binary            Read the input as a C-style byte array instead of words",
    "  -r, --raw               Read the input as raw little-endian instructions",
    "  -g, --gen <GENERATION>  Hardware generation the instructions were encoded for [default: 4]",
    "  -v, --verbose...        Log more; repeat for even more",
    "  -h, --help              Print help",
    "  -V, --version           Print version",
    ""]

namespace Options

def load (bytes : List UInt8) (options : Options) : Except RunFault Loaded :=
  if options.raw then .ok (.ofBytes bytes)
  else match Utf8.decode bytes with
    | .error fault => .error (.notText options.input fault)
    | .ok text => .ok (.ofText (if options.binary then .byte else .word) text)

def programLog (program : Program) (options : Options) : List LogEntry :=
  let listing := program.listing options.gen
  let started : LogEntry :=
    ⟨.info, s!"Disassembling {program.size} {options.gen.name} instruction(s)"⟩
  let ended : List LogEntry :=
    if listing.isClean then [] else [⟨.warn, s!"{listing.errors} invalid field value(s)"⟩]
  started :: program.listingLog options.gen ++ ended

end Options

/-- What the disassembler asks of the system around it. Each operation works as a whole
or not at all. -/
structure Host (m : Type → Type) where
  readInput : m (Except FileFault (List UInt8))
  readFile (path : String) : m (Except FileFault (List UInt8))
  print (text : String) : m (Except FileFault Unit)
  writeFile (path text : String) : m (Except FileFault Unit)
  report (entry : LogEntry) : m Unit

namespace Host

variable {m : Type → Type} [Monad m] (host : Host m)

def read (path : String) : ExceptT RunFault m (List UInt8) :=
  if Path.isStream path then ExceptT.mk ((·.mapError .noInput) <$> host.readInput)
  else ExceptT.mk ((·.mapError (.unreadable path)) <$> host.readFile path)

def deliver (output? : Option String) (text : String) : ExceptT RunFault m Unit :=
  match output?.filter (!Path.isStream ·) with
  | none => ExceptT.mk ((·.mapError .noOutput) <$> host.print text)
  | some path => ExceptT.mk ((·.mapError (.unwritable path)) <$> host.writeFile path text)

-- Warnings are always shown, the rest on request.
def reportAll (verbosity : Nat) (log : List LogEntry) : ExceptT RunFault m Unit :=
  (log.filter fun entry => entry.level = .warn || 0 < verbosity).forM fun entry =>
    ExceptT.lift (host.report entry)

def disassemble (options : Options) : ExceptT RunFault m Unit := do
  let bytes ← host.read options.input
  let loaded ← ExceptT.mk (pure (options.load bytes))
  host.reportAll options.verbosity loaded.log
  if loaded.program.isEmpty then throw (.noInstructions options.input)
  host.reportAll options.verbosity (options.programLog loaded.program)
  host.deliver options.output? (loaded.program.listing options.gen).text

/-- A whole run. Texts that were asked for instead of one may get lost on their way. -/
def main (arguments : List String) : m Ending := do
  match Options.ofArguments arguments with
  | .error (.fault fault) => pure (.usage fault)
  | .error .version => do
      let _ ← host.print versionText
      pure .version
  | .error .help => do
      let _ ← host.print helpText
      pure .help
  | .ok options => do
      match ← (host.disassemble options).run with
      | .ok _ => pure .done
      | .error fault => pure (.failed fault)

end Host

end ExecUnit.CommandLine
