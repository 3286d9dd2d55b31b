import ExecUnit.Proofs.Listing.Spelling
import ExecUnit.Proofs.Text.HexNumerals

/-!
Texts of operands taken apart again. The text of a register operand has four parts, each of
which ends at a character that it does not have itself (`OperandText.text_injective`), and an
immediate is a numeral in front of its type (`immediateText_injective`). Registers have angles
and immediates have none, so no text stands for both (`Spells.eq_of_text`).
-/

namespace ExecUnit

section Parts

/-- The parts that the text of every register operand has: the place with the signs in front of
it, the strides between angles, the channels and the type. -/
structure OperandText where
  place : String
  strides : String
  channels : String
  type : DataType
  placeAvoids : Avoids (· == '<') place
  stridesAvoid : Avoids (· == '>') strides
  channelsAvoid : Avoids Char.isUpper channels

namespace OperandText

def text (operand : OperandText) : String :=
  operand.place ++ ("<" ++ (operand.strides ++ (">" ++ (operand.channels ++ operand.type.name))))

theorem text_injective : Function.Injective text := by
  intro left right same
  have opening (rest : String) : Halts (· == '<') ("<" ++ rest) := .literal_append rfl rest
  have closing (rest : String) : Halts (· == '>') (">" ++ rest) := .literal_append rfl rest
  obtain ⟨places, same⟩ := cut same left.placeAvoids right.placeAvoids (opening _) (opening _)
  obtain ⟨strides, same⟩ := cut ((String.append_right_inj _).mp same) left.stridesAvoid
    right.stridesAvoid (closing _) (closing _)
  obtain ⟨channels, names⟩ := cut ((String.append_right_inj _).mp same) left.channelsAvoid
    right.channelsAvoid left.type.name_halts right.type.name_halts
  have types := DataType.name_injective names
  cases left
  cases right
  subst places strides channels types
  rfl

end OperandText

/-- What the text of a destination says of it. -/
structure DestinationParts where
  file : RegisterFile
  type : DataType
  place : Placement
  hstride : HorizontalStride
  writeMask : WriteMask
  deriving DecidableEq, Repr

namespace DestinationParts

def register (parts : DestinationParts) : Register :=
  parts.place.put
    { Register.plain parts.file 0 0 parts.type { Region.scalar with hstride := parts.hstride } with
      writeMask := parts.writeMask }

def operandText (parts : DestinationParts) : OperandText where
  place := parts.place.text parts.file parts.type
  strides := parts.hstride.word
  channels := parts.writeMask.word
  type := parts.type
  placeAvoids := Placement.avoids_text _ _ _
  stridesAvoid := .digits (by decide) _
  channelsAvoid := WriteMask.avoids_word _

theorem text_eq (parts : DestinationParts) : parts.operandText.text =
    parts.place.front parts.file ++ (parts.place.rest parts.type ++
      ("<" ++ (parts.hstride.word ++ (">" ++ (parts.writeMask.word ++ parts.type.name))))) :=
  String.append_assoc

theorem eq_of_text {parts parts' : DestinationParts}
    (legible : parts.place.Legible parts.file parts.type)
    (legible' : parts'.place.Legible parts'.file parts'.type)
    (same : parts.operandText.text = parts'.operandText.text) : parts = parts' := by
  obtain ⟨file, type, place, hstride, writeMask⟩ := parts
  obtain ⟨file', type', place', hstride', writeMask'⟩ := parts'
  obtain ⟨places, strides, channels, rfl⟩ :=
    OperandText.mk.inj (OperandText.text_injective same)
  obtain ⟨rfl, rfl⟩ := Placement.text_injective legible legible' places
  obtain rfl := HorizontalStride.word_injective strides
  obtain rfl := WriteMask.word_injective channels
  rfl

end DestinationParts

/-- What stands between the angles of a region. The widest strides have no word. -/
def Region.text? (region : Region) : Option String :=
  region.vstride.word?.map fun vstride =>
    vstride ++ ("," ++ (region.width.word ++ ("," ++ region.hstride.word)))

theorem Region.eq_of_text? {region region' : Region} {text : String}
    (isText : region.text? = some text) (isText' : region'.text? = some text) :
    region = region' := by
  obtain ⟨vstride, isWord, rfl⟩ := Option.map_eq_some_iff.mp isText
  obtain ⟨vstride', isWord', same⟩ := Option.map_eq_some_iff.mp isText'
  have comma (rest : String) : Halts (· == ',') ("," ++ rest) := .literal_append rfl rest
  have vertical {vstride : VerticalStride} {word : String} (isWord : vstride.word? = some word) :
      Avoids (· == ',') word :=
    .single rfl (VerticalStride.avoids_word? isWord)
  have middle (width : Width) : Avoids (· == ',') width.word := .digits (by decide) _
  obtain ⟨words, same⟩ := cut same (vertical isWord') (vertical isWord) (comma _) (comma _)
  obtain ⟨widths, same⟩ := cut ((String.append_right_inj _).mp same) (middle _)
    (middle _) (comma _) (comma _)
  have hstrides := (String.append_right_inj _).mp same
  have vstrides := VerticalStride.eq_of_word? isWord (words ▸ isWord')
  exact congr (congrArg₂ Region.mk vstrides (Width.word_injective widths.symm))
    (HorizontalStride.word_injective hstrides.symm)

theorem Region.avoids_text? {region : Region} {text : String} (isText : region.text? = some text) :
    Avoids (· == '>') text := by
  obtain ⟨word, isWord, rfl⟩ := Option.map_eq_some_iff.mp isText
  have vertical : Avoids (· == '>') word := .single rfl (VerticalStride.avoids_word? isWord)
  have comma : Avoids (· == '>') "," := .literal rfl
  simp only [Avoids.append_iff]
  exact ⟨vertical, comma, .digits (by decide) _, comma, .digits (by decide) _⟩

/-- What the text of a source says of it, if it is no immediate. -/
structure SourceParts where
  negate : Bool
  abs : Bool
  file : RegisterFile
  type : DataType
  place : Placement
  region : Region
  swizzle : Swizzle
  strides : String
  isStrides : region.text? = some strides

namespace SourceParts

def register (parts : SourceParts) : Register :=
  parts.place.put
    { Register.plain parts.file 0 0 parts.type parts.region with
      negate := parts.negate
      abs := parts.abs
      swizzle := parts.swizzle }

def signed (parts : SourceParts) : String :=
  (if parts.negate then "-" else "") ++
    ((if parts.abs then "(abs)" else "") ++ parts.place.text parts.file parts.type)

theorem avoids_signed (parts : SourceParts) : Avoids (· == '<') parts.signed := by
  have minus : Avoids (· == '<') (if parts.negate then "-" else "") :=
    .ite (.literal rfl) (.literal rfl)
  have bars : Avoids (· == '<') (if parts.abs then "(abs)" else "") :=
    .ite (.literal rfl) (.literal rfl)
  simp only [signed, Avoids.append_iff]
  exact ⟨minus, bars, Placement.avoids_text _ _ _⟩

def operandText (parts : SourceParts) : OperandText where
  place := parts.signed
  strides := parts.strides
  channels := parts.swizzle.word
  type := parts.type
  placeAvoids := parts.avoids_signed
  stridesAvoid := Region.avoids_text? parts.isStrides
  channelsAvoid := Swizzle.avoids_word _

theorem text_eq (parts : SourceParts) : parts.operandText.text =
    (if parts.negate then "-" else "") ++ ((if parts.abs then "(abs)" else "") ++
      (parts.place.front parts.file ++ (parts.place.rest parts.type ++
        ("<" ++ (parts.strides ++ (">" ++ (parts.swizzle.word ++ parts.type.name))))))) := by
  simp only [operandText, OperandText.text, signed, Placement.text, String.append_assoc]

theorem signs_of_signed {parts parts' : SourceParts} (same : parts.signed = parts'.signed) :
    parts.negate = parts'.negate ∧ parts.abs = parts'.abs ∧
      parts.place.text parts.file parts.type = parts'.place.text parts'.file parts'.type := by
  -- A place begins with a letter, so both signs are seen in front of it.
  have noBars (parts : SourceParts) :
      Halts (· != '(') (parts.place.text parts.file parts.type) :=
    Placement.text_halts (by decide) (fun file => by cases file <;> decide) _ _ _
  have noMinus (parts : SourceParts) : Halts (· != '-')
      ((if parts.abs then "(abs)" else "") ++ parts.place.text parts.file parts.type) := by
    have place : Halts (· != '-') (parts.place.text parts.file parts.type) :=
      Placement.text_halts (by decide) (fun file => by cases file <;> decide) _ _ _
    cases parts.abs with
    | false => exact Halts.empty.append fun _ => place
    | true => exact .literal_append rfl _
  obtain ⟨negates, rests⟩ := cut_mark same String.toList_ofList (noMinus parts) (noMinus parts')
  obtain ⟨abses, places⟩ := cut_mark rests String.toList_ofList (noBars parts) (noBars parts')
  exact ⟨negates, abses, places⟩

theorem eq_of_text {parts parts' : SourceParts}
    (legible : parts.place.Legible parts.file parts.type)
    (legible' : parts'.place.Legible parts'.file parts'.type)
    (same : parts.operandText.text = parts'.operandText.text) : parts = parts' := by
  obtain ⟨signed, strides, channels, types⟩ :=
    OperandText.mk.inj (OperandText.text_injective same)
  obtain ⟨negates, abses, places⟩ := signs_of_signed signed
  obtain ⟨negate, abs, file, type, place, region, swizzle, text, isText⟩ := parts
  obtain ⟨negate', abs', file', type', place', region', swizzle', text', isText'⟩ := parts'
  obtain rfl : negate = negate' := negates
  obtain rfl : abs = abs' := abses
  obtain rfl : type = type' := types
  obtain ⟨rfl, rfl⟩ := Placement.text_injective legible legible' places
  obtain rfl : text = text' := strides
  obtain rfl := Region.eq_of_text? isText isText'
  obtain rfl := Swizzle.word_injective channels
  rfl

end SourceParts

end Parts

section Immediates

def immediateNumeral (value : Word) : DataType → String
  | .ud | .v => "0x" ++ Numeral.hexPadded 8 value.toNat
  | .d => toString value.toInt
  | .uw => "0x" ++ Numeral.hexPadded 4 (value.setWidth 16).toNat
  | .w => toString (value.setWidth 16).toInt
  | .ub => "0x" ++ Numeral.hexPadded 2 (value.setWidth 8).toNat
  | _ => ""

def immediateText (value : Word) (type : DataType) : String :=
  immediateNumeral value type ++ type.name

/-- The numeral says all of the payload: the narrow types use a part of it, so the rest has to
be as it is when an immediate is built. -/
def Recoverable (value : Word) : DataType → Prop
  | .ud | .d | .v => True
  | .uw | .w => ∃ half, value = Register.doubled half
  | .ub => ∃ byte : BitVec 8, value = byte.setWidth 32
  | _ => False

theorem setWidth_doubled (half : BitVec 16) : (Register.doubled half).setWidth 16 = half := by
  rw [Register.doubled, BitVec.setWidth_append, dif_pos (Nat.le_refl 16), BitVec.setWidth_eq]

theorem immediateNumeral_avoids {stop : Char → Bool}
    (digits : ∀ digit < 16, stop digit.digitChar = false) (minus : stop '-' = false)
    (mark : Avoids stop "0x") (value : Word) (type : DataType) :
    Avoids stop (immediateNumeral value type) := by
  have decimal (digit : Nat) (small : digit < 10) : stop digit.digitChar = false :=
    digits digit (by omega)
  cases type with
  | d | w => exact .signed decimal minus _
  | ud | uw | ub | v => exact (Avoids.append_iff _ _).mpr ⟨mark, .hexPadded digits _ _⟩
  | _ => exact .literal rfl

theorem immediateNumeral_injective {type : DataType} {value value' : Word}
    (recoverable : Recoverable value type) (recoverable' : Recoverable value' type)
    (same : immediateNumeral value type = immediateNumeral value' type) : value = value' := by
  have hex {width left right : Nat}
      (same : "0x" ++ Numeral.hexPadded width left = "0x" ++ Numeral.hexPadded width right) :
      left = right :=
    HexLiteral.hexPadded_injective width ((String.append_right_inj _).mp same)
  cases type with
  | ud | v => exact BitVec.eq_of_toNat_eq (hex same)
  | d => exact BitVec.eq_of_toInt_eq (toString_int_injective same)
  | uw =>
      obtain ⟨half, rfl⟩ := recoverable
      obtain ⟨half', rfl⟩ := recoverable'
      have halves := BitVec.eq_of_toNat_eq (hex same)
      rw [setWidth_doubled, setWidth_doubled] at halves
      rw [halves]
  | w =>
      obtain ⟨half, rfl⟩ := recoverable
      obtain ⟨half', rfl⟩ := recoverable'
      have halves := BitVec.eq_of_toInt_eq (toString_int_injective same)
      rw [setWidth_doubled, setWidth_doubled] at halves
      rw [halves]
  | ub =>
      obtain ⟨byte, rfl⟩ := recoverable
      obtain ⟨byte', rfl⟩ := recoverable'
      have bytes := BitVec.eq_of_toNat_eq (hex same)
      simp only [BitVec.setWidth_setWidth_of_le, Nat.reduceLeDiff, BitVec.setWidth_eq] at bytes
      rw [bytes]
  | _ => exact recoverable.elim

theorem immediateText_injective {type type' : DataType} {value value' : Word}
    (recoverable : Recoverable value type) (recoverable' : Recoverable value' type')
    (same : immediateText value type = immediateText value' type') :
    type = type' ∧ value = value' := by
  -- The type begins at the first capital letter.
  have small : ∀ value type, Avoids Char.isUpper (immediateNumeral value type) :=
    immediateNumeral_avoids (by decide) rfl (.literal rfl)
  obtain ⟨numerals, names⟩ :=
    cut same (small value type) (small value' type') type.name_halts type'.name_halts
  obtain rfl := DataType.name_injective names
  exact ⟨rfl, immediateNumeral_injective recoverable recoverable' numerals⟩

end Immediates

/-- The register that a text in a slot stands for. -/
inductive Spells : Slot → Register → String → Prop where
  | destination (parts : DestinationParts) (legible : parts.place.Legible parts.file parts.type) :
      Spells .dst parts.register parts.operandText.text
  | source (slot : SourceSlot) (parts : SourceParts)
      (legible : parts.place.Legible parts.file parts.type) :
      Spells (.source slot) parts.register parts.operandText.text
  | immediate (slot : SourceSlot) (type : DataType) (value : Word)
      (recoverable : Recoverable value type) :
      Spells (.source slot) (.ofImmediate type value) (immediateText value type)

namespace Spells

variable {slot : Slot} {register register' : Register} {text text' : String}

-- An immediate has no region.
theorem immediateText_ne (value : Word) (type : DataType) (operand : OperandText) :
    immediateText value type ≠ operand.text := by
  intro same
  have numeral : Avoids (· == '<') (immediateNumeral value type) :=
    immediateNumeral_avoids (by decide) rfl (.literal rfl) value type
  have name : Avoids (· == '<') type.name := by cases type <;> exact .literal rfl
  have avoids : Avoids (· == '<') (immediateText value type) :=
    (Avoids.append_iff _ _).mpr ⟨numeral, name⟩
  rw [same, OperandText.text, Avoids.append_iff, Avoids.append_iff] at avoids
  exact absurd avoids.2.1 (by decide)

theorem eq_of_text (spells : Spells slot register text) (spells' : Spells slot register' text')
    (same : text = text') : register = register' := by
  cases spells with
  | destination parts legible =>
      cases spells' with
      | destination parts' legible' =>
          exact congrArg DestinationParts.register
            (DestinationParts.eq_of_text legible legible' same)
  | source slot parts legible =>
      cases spells' with
      | source _ parts' legible' =>
          exact congrArg SourceParts.register (SourceParts.eq_of_text legible legible' same)
      | immediate _ type value recoverable =>
          exact absurd same.symm (immediateText_ne value type parts.operandText)
  | immediate slot type value recoverable =>
      cases spells' with
      | source _ parts legible =>
          exact absurd same (immediateText_ne value type parts.operandText)
      | immediate _ type' value' recoverable' =>
          obtain ⟨rfl, rfl⟩ := immediateText_injective recoverable recoverable' same
          rfl

end Spells

end ExecUnit
