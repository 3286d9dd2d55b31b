import ExecUnit.Refusal

/-!
An instruction is 128 bits and the generation they are meant for.
-/

namespace ExecUnit

structure Instruction where
  gen : Generation
  bits : Encoding
  deriving DecidableEq, Repr

namespace Instruction

def layout (instr : Instruction) : Layout :=
  instr.gen.layout

def ofLayout (kind : LayoutKind) (gen : Generation) (bits : Encoding) :
    Except Refusal Instruction := do
  demand (kind.covers gen) (.layoutMismatch kind gen)
  pure ⟨gen, bits⟩

def get (field : Field) (instr : Instruction) : Nat :=
  field.get instr.bits

def isSet (field : Field) (instr : Instruction) : Bool :=
  instr.get field ≠ 0

def set (field : Field) (value : Nat) (instr : Instruction) : Instruction :=
  { instr with bits := field.set value instr.bits }

def setAny (field? : Option Field) (value : Nat) (instr : Instruction) : Instruction :=
  match field? with
  | some field => instr.set field value
  | none => instr

def getBits (high low : Nat) (instr : Instruction) : Except Refusal Nat :=
  match BitRange.ofBounds high low with
  | .ok range => .ok (range.get instr.bits)
  | .error fault => .error (.badRange high low fault)

def setBits (high low value : Nat) (instr : Instruction) : Except Refusal Instruction :=
  match BitRange.ofBounds high low with
  | .ok range => .ok { instr with bits := range.set value instr.bits }
  | .error fault => .error (.badRange high low fault)

def describe (instr : Instruction) : String :=
  let words := instr.bits.words.map fun word => "0x" ++ Numeral.hexPadded 8 word.toNat
  let joined := String.intercalate " " words
  s!"Instruction<{instr.layout.title}>({instr.gen.name}, {joined})"

end Instruction

end ExecUnit
