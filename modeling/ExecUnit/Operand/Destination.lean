import ExecUnit.Header.Control
import ExecUnit.Operand.Address

/-!
Destinations of instructions with up to two sources, in the same three forms
as the sources: register, field numbers and bits.
-/

namespace ExecUnit

inductive DestinationPlace where
  | indirect (address : Address) (hstride : Nat)
  | align1 (number offset hstride : Nat)
  | align16 (number half : Nat) (writeMask : WriteMask)
  deriving DecidableEq, Repr

structure DestinationCodes where
  file : Nat
  type : Nat
  place : DestinationPlace
  deriving DecidableEq, Repr

namespace DestinationFields

def readPlace (fields : DestinationFields) (mode : AccessMode) (bits : Encoding) :
    DestinationPlace :=
  if fields.addressMode.get bits ≠ 0 then
    .indirect (fields.address.read bits) (fields.hstride.get bits)
  else match mode with
    | .align1 =>
        .align1 (fields.number.get bits) (fields.byteOffset.get bits) (fields.hstride.get bits)
    | .align16 =>
        .align16 (fields.number.get bits) (fields.halfOffset.get bits)
          (.unpack (fields.writeMask.get bits))

def read (fields : DestinationFields) (mode : AccessMode) (bits : Encoding) :
    DestinationCodes where
  file := fields.file.get bits
  type := fields.type.get bits
  place := fields.readPlace mode bits

def writePlace (fields : DestinationFields) (place : DestinationPlace) (bits : Encoding) :
    Encoding :=
  match place with
  | .indirect address hstride =>
      bits
        |> fields.addressMode.set 1
        |> fields.hstride.set hstride
        |> fields.address.write address
  | .align1 number offset hstride =>
      bits
        |> fields.addressMode.set 0
        |> fields.number.set number
        |> fields.byteOffset.set offset
        |> fields.hstride.set hstride
  | .align16 number half writeMask =>
      bits
        |> fields.addressMode.set 0
        |> fields.number.set number
        |> fields.halfOffset.set half
        |> fields.writeMask.set writeMask.pack

def write (fields : DestinationFields) (codes : DestinationCodes) (bits : Encoding) : Encoding :=
  bits
    |> fields.file.set codes.file
    |> fields.type.set codes.type
    |> fields.writePlace codes.place

-- Only the horizontal stride of a destination's region is encoded.
def decode (fields : DestinationFields) (codes : DestinationCodes) :
    Except DecodeFault Register := do
  let (file, type) ← decodeFileType fields.file fields.type codes.file codes.type
  let base := Register.plain file 0 0 type .scalar
  match codes.place with
  | .indirect address hstride =>
      let hstride ← decodeCode fields.hstride hstride
      pure { base with
        addressing := .indirect address
        region := { Region.scalar with hstride } }
  | .align1 number offset hstride =>
      let hstride ← decodeCode fields.hstride hstride
      pure { base with
        number
        offset
        region := { Region.scalar with hstride } }
  | .align16 number half writeMask =>
      pure { base with
        number
        offset := 16 * half
        region := { Region.scalar with hstride := .s1 }
        writeMask }

end DestinationFields

namespace Register

-- Destinations cannot have a zero stride.
def destinationStride (register : Register) : HorizontalStride :=
  match register.region.hstride with
  | .s0 => .s1
  | hstride => hstride

def destinationPlace (mode : AccessMode) (register : Register) :
    Except Refusal DestinationPlace :=
  match register.addressing, mode with
  | .direct, .align1 =>
      .ok (.align1 register.number register.offset (code register.destinationStride))
  | .direct, .align16 => do
      demand (register.offset = 0 ∨ register.offset = 16)
        (.misalignedDestination register.offset)
      pure (.align16 register.number (register.offset / 16) register.writeMask)
  | .indirect address, .align1 =>
      .ok (.indirect address (code register.destinationStride))
  | .indirect _, .align16 => .error .indirectDestination

def destinationCodes (mode : AccessMode) (register : Register) :
    Except Refusal DestinationCodes := do
  let type ← register.typeNumber
  let place ← register.destinationPlace mode
  pure ⟨code register.file, type, place⟩

end Register

end ExecUnit
