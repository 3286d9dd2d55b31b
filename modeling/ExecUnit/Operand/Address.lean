import ExecUnit.DecodeFault
import ExecUnit.Layout.Basic
import ExecUnit.Register.Placed

/-!
Register-indirect addresses and regions, as the fields of an operand hold them.
-/

namespace ExecUnit

namespace AddressFields

def read (fields : AddressFields) (bits : Encoding) : Address :=
  ⟨fields.subreg.get bits, fields.offset.getSigned bits⟩

-- Both numbers are reduced to the room they have.
def write (fields : AddressFields) (address : Address) (bits : Encoding) : Encoding :=
  bits |> fields.subreg.set address.subreg |> fields.offset.setSigned address.offset

end AddressFields

structure RegionCodes where
  vstride : Nat
  width : Nat
  hstride : Nat
  deriving DecidableEq, Repr

def Region.codes (region : Region) : RegionCodes :=
  ⟨code region.vstride, code region.width, code region.hstride⟩

namespace SourceFields

def readRegion (fields : SourceFields) (bits : Encoding) : RegionCodes :=
  ⟨fields.vstride.get bits, fields.width.get bits, fields.hstride.get bits⟩

def writeRegion (fields : SourceFields) (codes : RegionCodes) (bits : Encoding) : Encoding :=
  bits
    |> fields.vstride.set codes.vstride
    |> fields.width.set codes.width
    |> fields.hstride.set codes.hstride

-- The vertical stride is judged first, then the width.
def decodeRegion (fields : SourceFields) (codes : RegionCodes) : Except DecodeFault Region := do
  let vstride ← decodeCode fields.vstride codes.vstride
  let width ← decodeCode fields.width codes.width
  let hstride ← decodeCode fields.hstride codes.hstride
  pure ⟨vstride, width, hstride⟩

theorem decodeRegion_codes (fields : SourceFields) (region : Region) :
    fields.decodeRegion region.codes = .ok region := by
  simp [decodeRegion, Region.codes, decodeCode_code, bind, Except.bind, pure, Except.pure]

end SourceFields

/-- The file and the type of an operand; the file decides what type numbers
mean. -/
def decodeFileType (file type : Field) (fileCode typeCode : Nat) :
    Except DecodeFault (RegisterFile × DataType) := do
  let found : RegisterFile ← decodeCode file fileCode
  let meaning ← orFault type typeCode (DataType.ofCodeIn? found typeCode)
  pure (found, meaning)

end ExecUnit
