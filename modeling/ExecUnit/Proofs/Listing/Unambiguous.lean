import ExecUnit.Proofs.Listing.OperandText
import ExecUnit.Proofs.Listing.Text

/-!
The text of an operand is unambiguous: `operand_of_text`. What is printed of an operand that
decodes is put together from the parts of its register, and texts that are put together that
way come apart in one way.
-/

namespace ExecUnit

section Ink

variable {gen : Generation} {file : RegisterFile} {type : DataType} {number typeNumber : Nat}

theorem ink_ofWord {α : Type} [Coded α] (what : String) (word : α → String) (value : α) :
    ink (entry what (.ofCoded (some ∘ word)) (code value)) = word value :=
  ink_entry (Mnemonics.ofCoded_code (some ∘ word) value)

theorem word?_of_clean {α : Type} [Coded α] {what : String} {word? : α → Option String} {value : α}
    (clean : Clean (entry what (.ofCoded word?) (code value))) :
    ∃ word, word? value = some word ∧ ink (entry what (.ofCoded word?) (code value)) = word := by
  rw [entry_clean_iff, Option.isSome_iff_exists] at clean
  obtain ⟨word, isWord⟩ := clean
  exact ⟨word, Mnemonics.ofCoded_code word? value ▸ isWord, ink_entry isWord⟩

theorem ink_filePieces (clean : Clean (filePieces gen (code file))) :
    ink (filePieces gen (code file)) = file.word := by
  obtain ⟨word, isWord, isInk⟩ := word?_of_clean clean
  exact isInk.trans (RegisterFile.eq_word isWord)

theorem archKind?_of_other (other : file ≠ .architecture) (number : Nat) :
    archKind? (code file) number = none :=
  if_neg (mt Coded.code_injective other)

theorem ink_registerPieces (clean : Clean (registerPieces gen (code file) number))
    (named : isBare (code file) number = false) :
    ink (registerPieces gen (code file) number) = registerName file number := by
  by_cases architecture : file = .architecture
  · subst architecture
    have kinds : archKind? (code RegisterFile.architecture) number = ArchKind.ofNumber? number :=
      if_pos rfl
    rw [isBare, kinds] at named
    rw [registerPieces, if_pos rfl, ink_cons, ink_nil, String.append_empty, Piece.ink, archName,
      registerName, Family.ofRegister, kinds]
    cases isKind : ArchKind.ofNumber? number with
    | none => rfl
    | some kind =>
        rw [isKind] at named
        cases kind with
        | null | ip => cases named
        | _ => rfl
  · have family : Family.ofRegister file number = (file, none) :=
      congrArg (Prod.mk file) (archKind?_of_other architecture number)
    have stem : Family.stem (file, none) = file.word := by
      cases file with
      | architecture => exact absurd rfl architecture
      | _ => rfl
    have isOther : code file ≠ code RegisterFile.architecture :=
      mt Coded.code_injective architecture
    rw [registerPieces, if_neg isOther] at clean ⊢
    rw [Clean.append_iff] at clean
    rw [ink_append, ink_filePieces clean.1, registerName, family, stem]
    simp only [ink_cons, ink_nil, Piece.ink, String.append_empty, Family.index]

theorem ink_markedPieces {α : Type} [DecidableEq α] [OfNat α 0] [ToString α] (mark : String)
    (number : α) : ink (if number = 0 then [] else [.text (mark ++ toString number)]) =
      markedText mark number := by
  unfold markedText
  split
  · rfl
  · exact (ink_cons _ _).trans String.append_empty

theorem ink_addressPieces {address : Address}
    (clean : Clean (addressPieces gen (code file) address)) :
    ink (addressPieces gen (code file) address) = file.word ++ address.text := by
  have subreg : ink (subregPieces address.subreg) = markedText "." address.subreg :=
    ink_markedPieces "." address.subreg
  have offset : ink (if address.offset = 0 then [] else [.text s!" {address.offset}"]) =
      markedText " " address.offset := ink_markedPieces " " address.offset
  simp only [addressPieces, Clean.append_iff] at clean
  simp only [addressPieces, ink_append, ink_cons, ink_nil, Piece.ink, ink_filePieces clean.1.1.1.1,
    subreg, offset, Address.text, String.append_empty, String.append_assoc]

theorem ink_typePieces (typed : type.codeIn? file = some typeNumber) (what : String) :
    ink (typePieces what (code file) typeNumber) = type.name := by
  rw [typePieces, decodedType?_code typed]
  simp [Piece.ink]

theorem ink_offsetPieces (typed : type.codeIn? file = some typeNumber) {offset : Nat}
    (whole : type.size ∣ offset) :
    ink (offsetPieces (code file) typeNumber offset) = markedText "." (offset / type.size) := by
  have positive : 0 < type.size := by cases type <;> decide
  have zero : offset / type.size = 0 ↔ offset = 0 := by
    rw [Nat.div_eq_zero_iff_lt positive]
    exact ⟨fun small => Nat.eq_zero_of_dvd_of_lt whole small, fun isZero => isZero ▸ positive⟩
  rw [← ink_markedPieces, offsetPieces, elementSize, decodedType?_code typed]
  simp only [zero]
  rfl

end Ink

/-- What an operand has to be like for its text to say all of it. The null register and the
instruction pointer are shown by name alone and sub-registers in whole elements; packed floats
and floats are rounded, and the narrow types of immediates show a part of the payload, so the
rest has to be as the constructors leave it. -/
structure Register.Legible (slot : Slot) (register : Register) : Prop where
  named : register.addressing = .direct → register.file = .architecture →
    ArchKind.ofNumber? register.number ≠ some .null ∧ ArchKind.ofNumber? register.number ≠ some .ip
  whole : register.addressing = .direct → register.type.size ∣ register.offset
  immediate : slot ≠ .dst → register.file = .immediate →
    (register.type = .ud ∨ register.type = .d ∨ register.type = .v) ∨
      (∃ half, register = immUW half ∨ register = immW half) ∨ ∃ byte, register = immUB byte

namespace Register.Legible

variable {slot : Slot} {register : Register}

theorem isBare_eq_false (legible : register.Legible slot) (direct : register.addressing = .direct) :
    isBare (code register.file) register.number = false := by
  by_cases architecture : register.file = .architecture
  · obtain ⟨notNull, notIp⟩ := legible.named direct architecture
    simp [isBare, archKind?, architecture, notNull, notIp]
  · simp [isBare, archKind?_of_other architecture]

theorem direct (legible : register.Legible slot) (direct : register.addressing = .direct)
    (small : register.number < 256) :
    (Placement.direct register.number register.offset).Legible register.file register.type :=
  ⟨small, legible.isBare_eq_false direct, legible.whole direct⟩

theorem recoverable (legible : register.Legible slot) (isSource : slot ≠ .dst)
    (file : register.file = .immediate) : Recoverable register.immediate register.type := by
  obtain wide | narrow | ⟨byte, rfl⟩ := legible.immediate isSource file
  · obtain isType | isType | isType := wide <;> rw [isType] <;> trivial
  · obtain ⟨half, rfl | rfl⟩ := narrow <;> exact ⟨half, rfl⟩
  · exact ⟨byte, rfl⟩

end Register.Legible

section Decoded

variable {gen : Generation} {register : Register}

def DestinationPlace.number : DestinationPlace → Nat
  | .indirect _ _ => 0
  | .align1 number _ _ | .align16 number _ _ => number

def SourcePlace.number : SourcePlace → Nat
  | .immediate _ | .indirect _ _ => 0
  | .align1 number _ _ | .align16 number _ _ _ => number

theorem ink_stridePieces (hstride : HorizontalStride) :
    ink (DestinationCodes.stridePieces (code hstride)) = "<" ++ (hstride.word ++ ">") := by
  have stride := ink_ofWord "horiz stride" HorizontalStride.word hstride
  simp only [DestinationCodes.stridePieces, Mnemonics.horizontalStride, ink_append, stride,
    ink_cons, ink_nil, Piece.ink, String.append_empty, String.append_assoc]

theorem DestinationFields.parts_of_decode {fields : DestinationFields} {codes : DestinationCodes}
    (small : codes.place.number < 256) (decoded : fields.decode codes = .ok register)
    (clean : Clean (codes.pieces gen)) (legible : register.Legible .dst) :
    ∃ parts : DestinationParts, parts.register = register ∧
      parts.place.Legible parts.file parts.type ∧
      ink (codes.pieces gen) = parts.operandText.text := by
  obtain ⟨fileCode, typeCode, place⟩ := codes
  obtain ⟨⟨file, type⟩, typed, decoded⟩ := (bind_eq_ok_iff _ _ _).mp decoded
  obtain ⟨rfl, isType⟩ := (decodeFileType_eq_ok_iff _ _ _ _ _ _).mp typed
  have full : WriteMask.full.word = "" := rfl
  cases place with
  | indirect address strideCode =>
      obtain ⟨hstride, isStride, made⟩ := (bind_eq_ok_iff _ _ _).mp decoded
      obtain rfl := (pure_eq_ok_iff _ _).mp made
      obtain rfl := (decodeCode_eq_ok_iff _ _ _).mp isStride
      -- Only Align16 has a write mask; here all channels are written, which has no word.
      refine ⟨⟨file, type, .indirect address, hstride, .full⟩, rfl, trivial, ?_⟩
      simp only [DestinationCodes.pieces, Clean.append_iff] at clean
      simp only [DestinationCodes.pieces, ink_append, ink_addressPieces clean.1.1, ink_stridePieces,
        ink_typePieces isType, DestinationParts.text_eq, Placement.front, Placement.rest, full,
        String.empty_append, String.append_assoc]
  | align1 number offset strideCode =>
      obtain ⟨hstride, isStride, made⟩ := (bind_eq_ok_iff _ _ _).mp decoded
      obtain rfl := (pure_eq_ok_iff _ _).mp made
      obtain rfl := (decodeCode_eq_ok_iff _ _ _).mp isStride
      have onPlace : (Placement.direct number offset).Legible file type := legible.direct rfl small
      refine ⟨⟨file, type, .direct number offset, hstride, .full⟩, rfl, onPlace, ?_⟩
      obtain ⟨-, named, whole⟩ := onPlace
      simp only [DestinationCodes.pieces, named, Bool.false_eq_true, ↓reduceIte, Clean.append_iff]
        at clean
      simp only [DestinationCodes.pieces, named, Bool.false_eq_true, ↓reduceIte, ink_append,
        ink_registerPieces clean.1 named, ink_offsetPieces isType whole, ink_stridePieces,
        ink_typePieces isType, DestinationParts.text_eq, Placement.front, Placement.rest, full,
        String.empty_append, String.append_assoc]
  | align16 number half writeMask =>
      obtain rfl := (pure_eq_ok_iff _ _).mp decoded
      have onPlace : (Placement.direct number (16 * half)).Legible file type :=
        legible.direct rfl small
      refine ⟨⟨file, type, .direct number (16 * half), .s1, writeMask⟩, rfl, onPlace, ?_⟩
      obtain ⟨-, named, whole⟩ := onPlace
      -- The stride is not encoded: it is decoded and printed as one.
      have stride : "<1>" = "<" ++ (HorizontalStride.s1.word ++ ">") := by decide
      simp only [DestinationCodes.pieces, named, Bool.false_eq_true, ↓reduceIte, Clean.append_iff]
        at clean
      simp only [DestinationCodes.pieces, named, Bool.false_eq_true, ↓reduceIte, ink_append,
        ink_registerPieces clean.1 named, ink_offsetPieces isType whole, stride, ink_cons, ink_nil,
        Piece.ink, ink_typePieces isType, DestinationParts.text_eq, Placement.front,
        Placement.rest, String.append_empty, String.append_assoc]

theorem ink_signPieces (negate abs : Bool) : ink (signPieces negate abs) =
    (if negate then "-" else "") ++ (if abs then "(abs)" else "") := by
  simp only [signPieces, ink_cons, ink_nil, Piece.ink, String.append_empty]

theorem ink_regionPieces {region : Region} (clean : Clean region.codes.pieces) :
    ∃ strides, region.text? = some strides ∧
      ink region.codes.pieces = "<" ++ (strides ++ ">") := by
  simp only [Region.codes, RegionCodes.pieces, Clean.append_iff] at clean
  obtain ⟨vstride, isWord, isInk⟩ := word?_of_clean clean.1.1.1.1.1.2
  have width := ink_ofWord "width" Width.word region.width
  have hstride := ink_ofWord "horiz_stride" HorizontalStride.word region.hstride
  refine ⟨_, Option.map_eq_some_iff.mpr ⟨vstride, isWord, rfl⟩, ?_⟩
  simp only [Region.codes, RegionCodes.pieces, Mnemonics.verticalStride, Mnemonics.width,
    Mnemonics.horizontalStride, ink_append, isInk, width, hstride, ink_cons, ink_nil, Piece.ink,
    String.append_empty, String.append_assoc]

theorem SourceFields.parts_of_decode {fields : SourceFields} {codes : SourceCodes} {slot : Slot}
    {mode : AccessMode} (ofRegister : codes.place.OfRegister mode)
    (small : codes.place.number < 256) (decoded : fields.decode codes = .ok register)
    (clean : Clean (codes.pieces gen)) (legible : register.Legible slot) :
    ∃ parts : SourceParts, parts.register = register ∧
      parts.place.Legible parts.file parts.type ∧
      ink (codes.pieces gen) = parts.operandText.text := by
  obtain ⟨fileCode, typeCode, negate, abs, place⟩ := codes
  obtain ⟨⟨file, type⟩, typed, decoded⟩ := (bind_eq_ok_iff _ _ _).mp decoded
  obtain ⟨rfl, isType⟩ := (decodeFileType_eq_ok_iff _ _ _ _ _ _).mp typed
  have identity : Swizzle.identity.word = "" := rfl
  cases place with
  | immediate value => exact ofRegister.elim
  | indirect address regionCodes =>
      obtain ⟨region, isRegion, made⟩ := (bind_eq_ok_iff _ _ _).mp decoded
      obtain rfl := (pure_eq_ok_iff _ _).mp made
      obtain rfl := (decodeRegion_eq_ok_iff _ _ _).mp isRegion
      simp only [SourceCodes.pieces, Clean.append_iff] at clean
      obtain ⟨strides, isStrides, shown⟩ := ink_regionPieces clean.1.2
      refine ⟨⟨negate, abs, file, type, .indirect address, region, .identity, strides, isStrides⟩,
        rfl, trivial, ?_⟩
      simp only [SourceCodes.pieces, ink_append, ink_signPieces, ink_addressPieces clean.1.1.2,
        shown, ink_typePieces isType, SourceParts.text_eq, Placement.front, Placement.rest,
        identity, String.empty_append, String.append_assoc]
  | align1 number offset regionCodes =>
      obtain ⟨region, isRegion, made⟩ := (bind_eq_ok_iff _ _ _).mp decoded
      obtain rfl := (pure_eq_ok_iff _ _).mp made
      obtain rfl := (decodeRegion_eq_ok_iff _ _ _).mp isRegion
      have onPlace : (Placement.direct number offset).Legible file type := legible.direct rfl small
      have named : isBare (code file) number = false := onPlace.2.1
      simp only [SourceCodes.pieces, named, Bool.false_eq_true, ↓reduceIte, Clean.append_iff]
        at clean
      obtain ⟨strides, isStrides, shown⟩ := ink_regionPieces clean.2.1.2
      refine ⟨⟨negate, abs, file, type, .direct number offset, region, .identity, strides,
        isStrides⟩, rfl, onPlace, ?_⟩
      simp only [SourceCodes.pieces, named, Bool.false_eq_true, ↓reduceIte, ink_append,
        ink_signPieces, ink_registerPieces clean.1.2 named, ink_offsetPieces isType onPlace.2.2,
        shown, ink_typePieces isType, SourceParts.text_eq, Placement.front, Placement.rest,
        identity, String.empty_append, String.append_assoc]
  | align16 number half strideCode swizzle =>
      obtain ⟨vstride, isStride, made⟩ := (bind_eq_ok_iff _ _ _).mp decoded
      obtain rfl := (pure_eq_ok_iff _ _).mp made
      obtain rfl := (decodeCode_eq_ok_iff _ _ _).mp isStride
      have onPlace : (Placement.direct number (16 * half)).Legible file type :=
        legible.direct rfl small
      have named : isBare (code file) number = false := onPlace.2.1
      simp only [SourceCodes.pieces, named, Bool.false_eq_true, ↓reduceIte, Clean.append_iff]
        at clean
      obtain ⟨word, isWord, shown⟩ := word?_of_clean clean.2.1.1.2
      -- Width and horizontal stride are not encoded either.
      have fixed : ",4,1>" =
          "," ++ (Width.w4.word ++ ("," ++ (HorizontalStride.s1.word ++ ">"))) := by decide
      refine ⟨⟨negate, abs, file, type, .direct number (16 * half), ⟨vstride, .w4, .s1⟩, swizzle, _,
        Option.map_eq_some_iff.mpr ⟨word, isWord, rfl⟩⟩, rfl, onPlace, ?_⟩
      simp only [SourceCodes.pieces, named, Bool.false_eq_true, ↓reduceIte, ink_append,
        ink_signPieces, ink_registerPieces clean.1.2 named, ink_offsetPieces isType onPlace.2.2,
        Mnemonics.verticalStride, shown, fixed, ink_cons, ink_nil, Piece.ink, ink_typePieces isType,
        SourceParts.text_eq, Placement.front, Placement.rest, String.append_empty,
        String.append_assoc]

theorem ink_immediatePieces {type : DataType} {number : Nat} {value : Word}
    (typed : type.codeIn? .immediate = some number) (recoverable : Recoverable value type) :
    ink (immediatePieces number value) = immediateText value type := by
  rw [immediatePieces, (DataType.ofCodeIn?_eq_some_iff _ _ _).mpr typed]
  cases type with
  | ud | d | uw | w | ub | v => exact (ink_cons _ _).trans String.append_empty
  | _ => exact recoverable.elim

theorem SourceFields.immediate_of_decode {fields : SourceFields} {codes : SourceCodes} {slot : Slot}
    {value : Word} (isSource : slot ≠ .dst) (file : codes.file = code RegisterFile.immediate)
    (place : codes.place = .immediate value) (decoded : fields.decode codes = .ok register)
    (legible : register.Legible slot) :
    ∃ type, register = .ofImmediate type value ∧ Recoverable value type ∧
      ink (codes.pieces gen) = immediateText value type := by
  obtain ⟨fileCode, typeCode, negate, abs, _⟩ := codes
  obtain rfl : fileCode = code RegisterFile.immediate := file
  obtain rfl := place
  obtain ⟨⟨found, type⟩, typed, decoded⟩ := (bind_eq_ok_iff _ _ _).mp decoded
  obtain ⟨isFile, isType⟩ := (decodeFileType_eq_ok_iff _ _ _ _ _ _).mp typed
  obtain rfl := Coded.code_injective isFile
  obtain rfl := (pure_eq_ok_iff _ _).mp decoded
  have recoverable : Recoverable value type := legible.recoverable isSource rfl
  exact ⟨type, rfl, recoverable, ink_immediatePieces isType recoverable⟩

end Decoded

namespace Instruction

theorem number_destination_lt (instr : Instruction) :
    instr.destinationCodes.place.number < 256 := by
  have room : instr.layout.dst.number.get instr.bits < 256 :=
    instr.gen.layoutKind.dst_sized.number ▸ instr.layout.dst.number.get_lt instr.bits
  unfold destinationCodes DestinationFields.read DestinationFields.readPlace
  dsimp only
  split
  · exact Nat.zero_lt_succ _
  · split <;> exact room

theorem number_source_lt (instr : Instruction) (slot : SourceSlot) :
    (instr.sourceCodes slot).place.number < 256 := by
  have room : (instr.layout.source slot).number.get instr.bits < 256 :=
    (instr.gen.layoutKind.source_sized slot).number ▸
      (instr.layout.source slot).number.get_lt instr.bits
  unfold sourceCodes SourceFields.read SourceFields.readPlace
  dsimp only
  split
  · exact Nat.zero_lt_succ _
  · split
    · exact Nat.zero_lt_succ _
    · split <;> exact room

theorem spells_shownOperand {instr : Instruction} {slot : Slot} {register : Register}
    (decoded : instr.operand (.plain slot) = .ok register)
    (clean : (Listing.ofPieces (instr.shownOperand (.plain slot))).errors = 0)
    (legible : register.Legible slot) :
    Spells slot register (Listing.ofPieces (instr.shownOperand (.plain slot))).text := by
  rw [← clean_iff_errors] at clean
  rw [Listing.text_unpadded (instr.unpadded_shownOperand slot)]
  cases slot with
  | dst =>
      obtain ⟨parts, rfl, onPlace, isInk⟩ :=
        DestinationFields.parts_of_decode instr.number_destination_lt decoded clean legible
      exact isInk ▸ .destination parts onPlace
  | source slot =>
      have isSource : Slot.source slot ≠ .dst := Slot.noConfusion
      rcases SourceFields.readPlace_cases (instr.gen.layoutKind.source_sized slot) instr.accessMode
        instr.bits with ⟨file, value, place⟩ | ⟨-, ofRegister⟩
      · obtain ⟨type, rfl, recoverable, isInk⟩ :=
          SourceFields.immediate_of_decode isSource file place decoded legible
        exact isInk ▸ .immediate slot type value recoverable
      · obtain ⟨parts, rfl, onPlace, isInk⟩ := SourceFields.parts_of_decode ofRegister
          (instr.number_source_lt slot) decoded clean legible
        exact isInk ▸ .source slot parts onPlace

/-- The text of an operand is unambiguous. Two operands of one slot that decode, are shown without
a report and are legible are the same register if their texts are the same, also on two
generations or in two access modes. -/
theorem operand_of_text (slot : Slot) (first second : Instruction) (register register' : Register)
    (decoded : first.operand (.plain slot) = .ok register)
    (decoded' : second.operand (.plain slot) = .ok register')
    (clean : (Listing.ofPieces (first.shownOperand (.plain slot))).errors = 0)
    (clean' : (Listing.ofPieces (second.shownOperand (.plain slot))).errors = 0)
    (legible : register.Legible slot) (legible' : register'.Legible slot)
    (same : (Listing.ofPieces (first.shownOperand (.plain slot))).text =
      (Listing.ofPieces (second.shownOperand (.plain slot))).text) :
    register = register' :=
  (spells_shownOperand decoded clean legible).eq_of_text
    (spells_shownOperand decoded' clean' legible') same

/-- Gen5 and Gen8 keep the file and the type of a source in different places. -/
theorem operand_of_text_generations :
    let first : Instruction := ⟨.gen5, .ofWords 0x00600001 0x000000a0 0x008d404c 0x00000000⟩
    let second : Instruction := ⟨.gen8, .ofWords 0x00600001 0x00000a00 0x008d404c 0x00000000⟩
    (Listing.ofPieces (first.shownOperand (.plain (.source .src0)))).text = "-g2.3<8,8,1>D" ∧
      ∃ register register', first.operand (.plain (.source .src0)) = .ok register ∧
        second.operand (.plain (.source .src0)) = .ok register' ∧ register = register' := by
  intro first second
  let register := ((Register.general 2 12).withType .d).negated
  have legible : register.Legible (.source .src0) :=
    { named := fun _ file => absurd file (by decide)
      whole := fun _ => by decide
      immediate := fun _ file => absurd file (by decide) }
  have decoded : first.operand (.plain (.source .src0)) = .ok register := by decide
  have decoded' : second.operand (.plain (.source .src0)) = .ok register := by decide
  exact ⟨by decide, register, register, decoded, decoded',
    operand_of_text (.source .src0) first second register register decoded decoded' (by decide)
      (by decide) legible legible (by decide)⟩

end Instruction

end ExecUnit
