import ExecUnit.Operand.Address

/-!
Operands of three-source instructions. They are general registers in Align16
and count sub-registers in dwords. All sources share one type.
-/

namespace ExecUnit

structure TripleSourceCodes where
  number : Nat
  subreg : Nat
  swizzle : Swizzle
  replicate : Bool
  negate : Bool
  abs : Bool
  deriving DecidableEq, Repr

namespace TripleSourceFields

def read (fields : TripleSourceFields) (bits : Encoding) : TripleSourceCodes where
  number := fields.number.get bits
  subreg := fields.subreg.get bits
  swizzle := .unpack (fields.swizzle.get bits)
  replicate := fields.replicate.get bits ≠ 0
  negate := fields.negate.get bits ≠ 0
  abs := fields.abs.get bits ≠ 0

def write (fields : TripleSourceFields) (codes : TripleSourceCodes) (bits : Encoding) :
    Encoding :=
  bits
    |> fields.number.set codes.number
    |> fields.subreg.set codes.subreg
    |> fields.swizzle.set codes.swizzle.pack
    |> fields.replicate.set codes.replicate.toNat
    |> fields.negate.set codes.negate.toNat
    |> fields.abs.set codes.abs.toNat

end TripleSourceFields

namespace TripleSourceCodes

def decode (type : DataType) (codes : TripleSourceCodes) : Register :=
  let region := if codes.replicate then Region.scalar else .contiguous .w4
  { Register.plain .general codes.number (4 * codes.subreg) type region with
    swizzle := codes.swizzle
    negate := codes.negate
    abs := codes.abs }

end TripleSourceCodes

namespace TripleFields

structure DestinationCodes where
  number : Nat
  subreg : Nat
  writeMask : WriteMask
  deriving DecidableEq, Repr

def readDestination (fields : TripleFields) (bits : Encoding) : DestinationCodes where
  number := fields.number.get bits
  subreg := fields.subreg.get bits
  writeMask := .unpack (fields.writeMask.get bits)

def writeDestination (fields : TripleFields) (codes : DestinationCodes) (bits : Encoding) :
    Encoding :=
  bits
    |> fields.number.set codes.number
    |> fields.subreg.set codes.subreg
    |> fields.writeMask.set codes.writeMask.pack

def DestinationCodes.decode (type : DataType) (codes : DestinationCodes) : Register :=
  { Register.plain .general codes.number (4 * codes.subreg) type (.contiguous .w4) with
    writeMask := codes.writeMask }

end TripleFields

namespace Register

def tripleDestinationCodes (register : Register) : TripleFields.DestinationCodes :=
  ⟨register.number, register.offset / 4, register.writeMask⟩

-- A zero vertical stride replicates one element to all channels.
def tripleSourceCodes (register : Register) : TripleSourceCodes where
  number := register.number
  subreg := register.offset / 4
  swizzle := register.swizzle
  replicate := register.region.vstride = .s0
  negate := register.negate
  abs := register.abs

end Register

end ExecUnit
