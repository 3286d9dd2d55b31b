import ExecUnit.CommandLine.Host

/-!
The disassembler as a program: it runs on the standard streams and the files of the
operating system.
-/

namespace ExecUnit.CommandLine

-- Faults that do not come from the system have no number.
def faultOf : IO.Error → FileFault
  | .alreadyExists _ number reason | .interrupted _ number reason
  | .invalidArgument _ number reason | .noFileOrDirectory _ number reason
  | .inappropriateType _ number reason | .noSuchThing _ number reason
  | .permissionDenied _ number reason | .resourceExhausted _ number reason
  | .hardwareFault number reason | .illegalOperation number reason
  | .otherError number reason | .protocolError number reason | .resourceBusy number reason
  | .resourceVanished number reason | .timeExpired number reason
  | .unsatisfiedConstraints number reason | .unsupportedOperation number reason =>
      ⟨reason, number.toNat⟩
  | .unexpectedEof => ⟨"end of file", 0⟩
  | .userError reason => ⟨reason, 0⟩

def attempt {α : Type} (action : IO α) : IO (Except FileFault α) := do
  try
    let result ← action
    return .ok result
  catch problem => return .error (faultOf problem)

def systemHost : Host IO where
  readInput := attempt do
    let input ← IO.getStdin
    let bytes ← input.readBinToEnd
    return bytes.toList
  readFile path := attempt do
    let file ← IO.FS.Handle.mk path .read
    let bytes ← file.readBinToEnd
    return bytes.toList
  print text := attempt do
    let output ← IO.getStdout
    output.putStr text
    output.flush
  writeFile path text := attempt do
    let file ← IO.FS.Handle.mk path .write
    file.putStr text
    file.flush
  report entry := IO.eprintln s!"{entry.level.name}: {entry.message}"

end ExecUnit.CommandLine

open ExecUnit.CommandLine in
def main (arguments : List String) : IO UInt32 := do
  let ending ← systemHost.main arguments
  IO.eprint ending.complaint
  return .ofNat ending.exitCode
