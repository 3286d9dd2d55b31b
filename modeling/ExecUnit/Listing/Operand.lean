import ExecUnit.Listing.Mnemonic
import ExecUnit.Numeral.Hex
import ExecUnit.Numeral.SixDigits
import ExecUnit.Operand.Destination
import ExecUnit.Operand.Source
import ExecUnit.Operand.Triple

/-!
Operands in a listing. They are printed from the numbers their fields hold, so
that an operand without a meaning still shows what is in it.
-/

namespace ExecUnit

def decodedType? (file type : Nat) : Option DataType :=
  (Coded.ofCode? file).bind fun (found : RegisterFile) => DataType.ofCodeIn? found type

def typePieces (what : String) (file type : Nat) : List Piece :=
  match decodedType? file type with
  | some found => [.text found.name]
  | none => [.malformed what type]

-- Sub-registers are printed in elements; unknown types count as bytes.
def elementSize (file type : Nat) : Nat :=
  match decodedType? file type with
  | some found => found.size
  | none => 1

def subregPieces (subreg : Nat) : List Piece :=
  if subreg = 0 then [] else [.text s!".{subreg}"]

/-- The sub-register at a byte offset, left out at the start of a register. -/
def offsetPieces (file type offset : Nat) : List Piece :=
  if offset = 0 then [] else [.text s!".{offset / elementSize file type}"]

def archKind? (file number : Nat) : Option ArchKind :=
  if file = code RegisterFile.architecture then ArchKind.ofNumber? number else none

/-- The null register and the instruction pointer are printed without region
and type. -/
def isBare (file number : Nat) : Bool :=
  archKind? file number = some .null ∨ archKind? file number = some .ip

def archName (number : Nat) : String :=
  match ArchKind.ofNumber? number with
  | some .null => ArchKind.null.stem
  | some .ip => ArchKind.ip.stem
  | some kind => s!"{kind.stem}{number % 16}"
  | none => s!"ARF{number}"

def filePieces (gen : Generation) (file : Nat) : List Piece :=
  entry "src reg file" (.registerFile gen) file

def registerPieces (gen : Generation) (file number : Nat) : List Piece :=
  if file = code RegisterFile.architecture then [.text (archName number)]
  else filePieces gen file ++ [.text (toString number)]

def addressPieces (gen : Generation) (file : Nat) (address : Address) : List Piece :=
  filePieces gen file ++ [.text "[a0"] ++ subregPieces address.subreg ++
    (if address.offset = 0 then [] else [.text s!" {address.offset}"]) ++ [.text "]"]

namespace DestinationCodes

def stridePieces (hstride : Nat) : List Piece :=
  [.text "<"] ++ entry "horiz stride" .horizontalStride hstride ++ [.text ">"]

def pieces (gen : Generation) (codes : DestinationCodes) : List Piece :=
  let type := typePieces "dest reg encoding" codes.file codes.type
  match codes.place with
  | .indirect address hstride =>
      addressPieces gen codes.file address ++ stridePieces hstride ++ type
  | .align1 number offset hstride =>
      registerPieces gen codes.file number ++
        if isBare codes.file number then []
        else offsetPieces codes.file codes.type offset ++ stridePieces hstride ++ type
  | .align16 number half writeMask =>
      registerPieces gen codes.file number ++
        if isBare codes.file number then []
        else offsetPieces codes.file codes.type (16 * half) ++
          [.text "<1>", .text writeMask.word] ++ type

end DestinationCodes

def immediatePieces (type : Nat) (value : Word) : List Piece :=
  match DataType.ofCodeIn? .immediate type with
  | some .ud => [.text s!"0x{Numeral.hexPadded 8 value.toNat}UD"]
  | some .d => [.text s!"{value.toInt}D"]
  | some .uw => [.text s!"0x{Numeral.hexPadded 4 (value.setWidth 16).toNat}UW"]
  | some .w => [.text s!"{(value.setWidth 16).toInt}W"]
  | some .ub => [.text s!"0x{Numeral.hexPadded 2 (value.setWidth 8).toNat}UB"]
  | some .v => [.text s!"0x{Numeral.hexPadded 8 value.toNat}V"]
  | some .vf =>
      let floats := (RestrictedFloat.unpack4 value).map fun byte =>
        Numeral.float (RestrictedFloat.toFloat byte)
      [.text ("[" ++ String.intercalate ", " floats ++ "]VF")]
  | some .f => [.text (Numeral.float value ++ "F")]
  | _ => [.malformed "immediate type" type]

namespace RegionCodes

def pieces (region : RegionCodes) : List Piece :=
  [.text "<"] ++ entry "vert stride" .verticalStride region.vstride ++
    [.text ","] ++ entry "width" .width region.width ++
    [.text ","] ++ entry "horiz_stride" .horizontalStride region.hstride ++ [.text ">"]

end RegionCodes

def signPieces (negate abs : Bool) : List Piece :=
  [.text (if negate then "-" else ""), .text (if abs then "(abs)" else "")]

namespace SourceCodes

def pieces (gen : Generation) (codes : SourceCodes) : List Piece :=
  match codes.place with
  | .immediate value => immediatePieces codes.type value
  | .indirect address region =>
      signPieces codes.negate codes.abs ++ addressPieces gen codes.file address ++
        region.pieces ++ typePieces "src reg encoding" codes.file codes.type
  | .align1 number offset region =>
      signPieces codes.negate codes.abs ++ registerPieces gen codes.file number ++
        if isBare codes.file number then []
        else offsetPieces codes.file codes.type offset ++ region.pieces ++
          typePieces "src reg encoding" codes.file codes.type
  | .align16 number half vstride swizzle =>
      signPieces codes.negate codes.abs ++ registerPieces gen codes.file number ++
        if isBare codes.file number then []
        else offsetPieces codes.file codes.type (16 * half) ++
          [.text "<"] ++ entry "vert stride" .verticalStride vstride ++
          [.text ",4,1>", .text swizzle.word] ++
          typePieces "src da16 reg type" codes.file codes.type

end SourceCodes

/-- The type of three-source operands; without a type field they are floats. -/
def tripleTypePieces (what : String) : Option Nat → List Piece
  | none => [.text DataType.f.name]
  | some number =>
      match DataType.ofThreeSourceCode? number with
      | some type => [.text type.name]
      | none => [.malformed what number]

namespace TripleFields.DestinationCodes

def pieces (gen : Generation) (type? : Option Nat) (codes : DestinationCodes) : List Piece :=
  registerPieces gen (code RegisterFile.general) codes.number ++ subregPieces codes.subreg ++
    [.text "<1>", .text codes.writeMask.word] ++ tripleTypePieces "dest reg encoding" type?

end TripleFields.DestinationCodes

namespace TripleSourceCodes

def pieces (gen : Generation) (type? : Option Nat) (codes : TripleSourceCodes) : List Piece :=
  signPieces codes.negate codes.abs ++
    registerPieces gen (code RegisterFile.general) codes.number ++ subregPieces codes.subreg ++
    [.text (if codes.replicate then "<0,1,0>" else "<4,1,1>")] ++
    tripleTypePieces "src da16 reg type" type? ++ [.text codes.swizzle.word]

end TripleSourceCodes

end ExecUnit
