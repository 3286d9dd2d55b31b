import ExecUnit.Header.Control
import ExecUnit.Operand.Address

/-!
Sources of instructions with up to two of them. A source passes through three
forms: the register it means, the numbers its fields hold (`SourceCodes`), and
the bits. `Register.sourceCodes` and `SourceFields.write` go towards the bits,
`SourceFields.read` and `SourceFields.decode` back.
-/

namespace ExecUnit

-- Which form a source takes decides what its bits mean.
inductive SourcePlace where
  | immediate (value : Word)
  | indirect (address : Address) (region : RegionCodes)
  | align1 (number offset : Nat) (region : RegionCodes)
  | align16 (number half vstride : Nat) (swizzle : Swizzle)
  deriving DecidableEq, Repr

structure SourceCodes where
  file : Nat
  type : Nat
  negate : Bool
  abs : Bool
  place : SourcePlace
  deriving DecidableEq, Repr

namespace SourceFields

def readSwizzle (fields : SourceFields) (bits : Encoding) : Swizzle :=
  ⟨.ofNumber (fields.swizzleX.get bits), .ofNumber (fields.swizzleY.get bits),
    .ofNumber (fields.swizzleZ.get bits), .ofNumber (fields.swizzleW.get bits)⟩

def writeSwizzle (fields : SourceFields) (swizzle : Swizzle) (bits : Encoding) : Encoding :=
  bits
    |> fields.swizzleX.set (code swizzle.x)
    |> fields.swizzleY.set (code swizzle.y)
    |> fields.swizzleZ.set (code swizzle.z)
    |> fields.swizzleW.set (code swizzle.w)

/-- An immediate is recognised by its file, an indirect operand by its address
mode; only then does the access mode matter. -/
def readPlace (fields : SourceFields) (mode : AccessMode) (bits : Encoding) : SourcePlace :=
  if fields.file.get bits = code RegisterFile.immediate then
    .immediate (.ofNat 32 (immediateRange.get bits))
  else if fields.addressMode.get bits ≠ 0 then
    .indirect (fields.address.read bits) (fields.readRegion bits)
  else match mode with
    | .align1 =>
        .align1 (fields.number.get bits) (fields.byteOffset.get bits) (fields.readRegion bits)
    | .align16 =>
        .align16 (fields.number.get bits) (fields.halfOffset.get bits)
          (fields.vstride.get bits) (fields.readSwizzle bits)

def read (fields : SourceFields) (mode : AccessMode) (bits : Encoding) : SourceCodes where
  file := fields.file.get bits
  type := fields.type.get bits
  negate := fields.negate.get bits ≠ 0
  abs := fields.abs.get bits ≠ 0
  place := fields.readPlace mode bits

def writePlace (fields : SourceFields) (place : SourcePlace) (bits : Encoding) : Encoding :=
  match place with
  | .immediate value => immediateRange.set value.toNat bits
  | .indirect address region =>
      bits
        |> fields.addressMode.set 1
        |> fields.writeRegion region
        |> fields.address.write address
  | .align1 number offset region =>
      bits
        |> fields.addressMode.set 0
        |> fields.number.set number
        |> fields.byteOffset.set offset
        |> fields.writeRegion region
  | .align16 number half vstride swizzle =>
      bits
        |> fields.addressMode.set 0
        |> fields.number.set number
        |> fields.halfOffset.set half
        |> fields.vstride.set vstride
        |> fields.writeSwizzle swizzle

-- The place is written last: the immediate of src1 covers the bits of its negation and absolute
-- value.
def write (fields : SourceFields) (codes : SourceCodes) (bits : Encoding) : Encoding :=
  bits
    |> fields.file.set codes.file
    |> fields.type.set codes.type
    |> fields.abs.set codes.abs.toNat
    |> fields.negate.set codes.negate.toNat
    |> fields.writePlace codes.place

def decode (fields : SourceFields) (codes : SourceCodes) : Except DecodeFault Register := do
  let (file, type) ← decodeFileType fields.file fields.type codes.file codes.type
  let base :=
    { Register.plain file 0 0 type .scalar with
      negate := codes.negate
      abs := codes.abs }
  match codes.place with
  | .immediate value => pure (Register.ofImmediate type value)
  | .indirect address region =>
      let region ← fields.decodeRegion region
      pure { base with
        addressing := .indirect address
        region }
  | .align1 number offset region =>
      let region ← fields.decodeRegion region
      pure { base with
        number
        offset
        region }
  | .align16 number half vstride swizzle =>
      let vstride ← decodeCode fields.vstride vstride
      pure { base with
        number
        offset := 16 * half
        region := ⟨vstride, .w4, .s1⟩
        swizzle }

end SourceFields

namespace Register

-- A single channel reading a single element has only one encoding.
def sourceRegion (oneChannel : Bool) (register : Register) : Region :=
  if register.region.width = .w1 ∧ oneChannel then .scalar else register.region

/-- Align16 regions are four wide, so eight adjacent elements are two rows. -/
def align16Stride : VerticalStride → VerticalStride
  | .s8 => .s4
  | vstride => vstride

def sourcePlace (mode : AccessMode) (oneChannel : Bool) (register : Register) :
    Except Refusal SourcePlace :=
  if register.isImmediate then
    .ok (.immediate register.immediate)
  else match register.addressing, mode with
    | .direct, .align1 =>
        .ok (.align1 register.number register.offset (register.sourceRegion oneChannel).codes)
    | .direct, .align16 => do
        demand (register.offset = 0 ∨ register.offset = 16) (.misalignedSource register.offset)
        pure (.align16 register.number (register.offset / 16)
          (code (align16Stride register.region.vstride)) register.swizzle)
    | .indirect address, .align1 =>
        .ok (.indirect address (register.sourceRegion oneChannel).codes)
    | .indirect _, .align16 => .error .indirectSource

end Register

end ExecUnit
