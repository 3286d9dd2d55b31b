import ExecUnit.Listing.Line
import ExecUnit.Text.HexLiteral

/-!
Programs: lists of instructions, in the formats they are read from and written
to. Input is counted in units, words or bytes, and units at the end that do not
fill an instruction are left out with a warning.
-/

namespace ExecUnit

inductive LogLevel where
  | warn | info
  deriving DecidableEq, Repr

def LogLevel.name : LogLevel → String
  | .warn => "WARN"
  | .info => "INFO"

structure LogEntry where
  level : LogLevel
  message : String
  deriving DecidableEq, Repr

structure Program where
  instructions : List Encoding
  deriving DecidableEq, Repr

inductive InputUnit where
  | word | byte
  deriving DecidableEq, Repr

namespace InputUnit

def name : InputUnit → String
  | .word => "word"
  | .byte => "byte"

def base : InputUnit → Nat
  | .word => 0x100000000
  | .byte => 0x100

def perInstruction : InputUnit → Nat
  | .word => 4
  | .byte => 16

def literalDigits : InputUnit → Nat
  | .word => 8
  | .byte => 2

end InputUnit

/-- The number whose digits are given from the lowest up. -/
def littleEndian (base : Nat) : List Nat → Nat
  | [] => 0
  | digit :: rest => digit + base * littleEndian base rest

/-- The first `count` chunks of `size` elements each. -/
def chunks {α : Type} (size : Nat) : Nat → List α → List (List α)
  | 0, _ => []
  | count + 1, elements => elements.take size :: chunks size count (elements.drop size)

/-- A program as it was read, with the number of units that were left out. -/
structure Loaded where
  program : Program
  unit : InputUnit
  trailing : Nat
  deriving DecidableEq, Repr

namespace Loaded

def ofUnits (unit : InputUnit) (values : List Nat) : Loaded where
  program := ⟨(chunks unit.perInstruction (values.length / unit.perInstruction) values).map
    fun digits => .ofNat 128 (littleEndian unit.base digits)⟩
  unit := unit
  trailing := values.length % unit.perInstruction

def ofText (unit : InputUnit) (text : String) : Loaded :=
  ofUnits unit (HexLiteral.values unit.literalDigits text)

def ofBytes (bytes : List UInt8) : Loaded :=
  ofUnits .byte (bytes.map UInt8.toNat)

def log (loaded : Loaded) : List LogEntry :=
  let count := loaded.trailing
  let unit := loaded.unit.name
  if count = 0 then []
  else
    [⟨.warn, s!"Ignoring {count} trailing {unit}(s) that don't form a whole instruction"⟩]

end Loaded

namespace Program

def size (program : Program) : Nat :=
  program.instructions.length

def isEmpty (program : Program) : Bool :=
  program.instructions.isEmpty

def push (instruction : Encoding) (program : Program) : Program :=
  ⟨program.instructions ++ [instruction]⟩

def encodingBytes (bits : Encoding) : List UInt8 :=
  (List.range 16).map fun index => ⟨bits.extractLsb' (8 * index) 8⟩

/-- The bytes of all instructions, the lowest of each first. -/
def toBytes (program : Program) : List UInt8 :=
  program.instructions.flatMap encodingBytes

def arrayLine (bits : Encoding) : String :=
  let words := bits.words.map fun word => "0x" ++ Numeral.hexPadded 8 word.toNat
  "   \x7b " ++ String.intercalate ", " words ++ " \x7d,\n"

/-- One line of four words for each instruction. -/
def toArray (program : Program) : String :=
  String.join (program.instructions.map arrayLine)

def listing (gen : Generation) (program : Program) : Listing :=
  program.instructions.foldl
    (fun done bits => done.append (Instruction.listing ⟨gen, bits⟩)) .empty

def listingLog (gen : Generation) (program : Program) : List LogEntry :=
  let errors := (program.listing gen).errors
  if errors = 0 then []
  else [⟨.info, s!"{errors} malformed field(s) in {program.size} instruction(s)"⟩]

end Program

end ExecUnit
