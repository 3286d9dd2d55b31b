import ExecUnit.Register.Channel
import ExecUnit.Register.DataType
import ExecUnit.Register.Region
import ExecUnit.RestrictedFloat

/-!
Instruction operands and the ways to build them.
-/

namespace ExecUnit

/-- The place `file[a0.subreg + offset]`. -/
structure Address where
  subreg : Nat
  offset : Int
  deriving DecidableEq, Repr

inductive Addressing where
  | direct
  | indirect (address : Address)
  deriving DecidableEq, Repr

/-- One operand. `offset` is the byte offset within the register, and
`immediate` is the payload of operands in the immediate file. -/
structure Register where
  file : RegisterFile
  type : DataType
  number : Nat
  offset : Nat
  negate : Bool
  abs : Bool
  region : Region
  swizzle : Swizzle
  writeMask : WriteMask
  addressing : Addressing
  immediate : Word
  deriving DecidableEq, Repr

/-- The kind of an architecture register is given by the high half of its
number, the low half selecting an instance. -/
inductive ArchKind where
  | null | address | accumulator | flag | mask | maskStack | state | control
  | notificationCount | ip
  deriving DecidableEq, Repr

namespace ArchKind

def base : ArchKind → Nat
  | .null => 0x00
  | .address => 0x10
  | .accumulator => 0x20
  | .flag => 0x30
  | .mask => 0x40
  | .maskStack => 0x50
  | .state => 0x70
  | .control => 0x80
  | .notificationCount => 0x90
  | .ip => 0xa0

def all : List ArchKind :=
  [.null, .address, .accumulator, .flag, .mask, .maskStack, .state, .control,
    .notificationCount, .ip]

def ofNumber? (number : Nat) : Option ArchKind :=
  all.find? (·.base == number / 16 % 16 * 16)

end ArchKind

namespace Register

def plain (file : RegisterFile) (number offset : Nat) (type : DataType) (region : Region) :
    Register where
  file := file
  type := type
  number := number
  offset := offset
  negate := false
  abs := false
  region := region
  swizzle := .identity
  writeMask := .full
  addressing := .direct
  immediate := 0

-- Registers start as eight adjacent floats.
def vector8 (file : RegisterFile) (number offset : Nat) : Register :=
  plain file number offset .f (.contiguous .w8)

def general (number offset : Nat) : Register :=
  vector8 .general number offset

def message (number offset : Nat) : Register :=
  vector8 .message number offset

def architecture (number offset : Nat) : Register :=
  vector8 .architecture number offset

def null : Register :=
  architecture ArchKind.null.base 0

def address (offset : Nat) : Register :=
  plain .architecture ArchKind.address.base offset .uw .scalar

def accumulator (number : Nat) : Register :=
  architecture (ArchKind.accumulator.base + number) 0

def flag (number offset : Nat) : Register :=
  plain .architecture (ArchKind.flag.base + number) offset .uw .scalar

/-- The region that immediates of a type have; the packed vectors spread over
their elements. -/
def immediateRegion : DataType → Region
  | .v => ⟨.s0, .w8, .s1⟩
  | .vf => ⟨.s0, .w4, .s1⟩
  | _ => .scalar

def ofImmediate (type : DataType) (payload : Word) : Register :=
  { plain .immediate 0 0 type (immediateRegion type) with immediate := payload }

-- Word immediates fill both halves of the payload.
def doubled (half : BitVec 16) : Word :=
  half ++ half

def immF (bits : Word) : Register := ofImmediate .f bits

def immD (value : Word) : Register := ofImmediate .d value

def immUD (value : Word) : Register := ofImmediate .ud value

def immW (value : BitVec 16) : Register := ofImmediate .w (doubled value)

def immUW (value : BitVec 16) : Register := ofImmediate .uw (doubled value)

def immUB (value : BitVec 8) : Register := ofImmediate .ub (value.setWidth 32)

def immV (value : Word) : Register := ofImmediate .v value

def immVF (value : Word) : Register := ofImmediate .vf value

def immVF4? (first second third fourth : Word) : Option Register :=
  (RestrictedFloat.packFloats? first second third fourth).map immVF

def withType (type : DataType) (register : Register) : Register :=
  { register with type }

def withRegion (region : Region) (register : Register) : Register :=
  { register with region }

-- The vectors of one element are scalars.
def vector : Width → Register → Register
  | .w1, register => register.withRegion .scalar
  | width, register => register.withRegion (.contiguous width)

def withSwizzle (swizzle : Swizzle) (register : Register) : Register :=
  { register with swizzle }

def withWriteMask (writeMask : WriteMask) (register : Register) : Register :=
  { register with writeMask }

def negated (register : Register) : Register :=
  { register with negate := !register.negate }

-- Taking the absolute value forgets a negation.
def absolute (register : Register) : Register :=
  { register with abs := true, negate := false }

/-- Addresses `file[a0.subreg + offset]` instead of the register's number. -/
def indirect (address : Address) (register : Register) : Register :=
  { register with addressing := .indirect address }

def isImmediate (register : Register) : Bool :=
  register.file = .immediate

def isNull (register : Register) : Bool :=
  register.file = .architecture ∧ register.number = ArchKind.null.base

end Register

end ExecUnit
