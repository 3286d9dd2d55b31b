import ExecUnit.Proofs.Operand.Acceptance

/-!
Decoding taken apart: when a number has a meaning, and which numbers an operand had
if it decoded to a given register. So a decoded operand says all that its slot holds,
apart from what the operand does not use.
-/

namespace ExecUnit

theorem orFault_eq_ok_iff {α : Type} (field : Field) (value : Nat) (found : Option α)
    (meaning : α) : orFault field value found = .ok meaning ↔ found = some meaning := by
  cases found <;> simp [orFault]

theorem Coded.ofCode?_eq_some_iff {α : Type} [Coded α] (number : Nat) (value : α) :
    Coded.ofCode? number = some value ↔ code value = number := by
  constructor
  · exact Coded.code_of_ofCode?
  · rintro rfl
    exact Coded.ofCode?_code value

theorem decodeCode_eq_ok_iff {α : Type} [Coded α] (field : Field) (number : Nat) (value : α) :
    decodeCode field number = .ok value ↔ code value = number := by
  rw [decodeCode, orFault_eq_ok_iff, Coded.ofCode?_eq_some_iff]

theorem decodeFileType_eq_ok_iff (fileField typeField : Field) (fileCode typeCode : Nat)
    (file : RegisterFile) (type : DataType) :
    decodeFileType fileField typeField fileCode typeCode = .ok (file, type) ↔
      code file = fileCode ∧ type.codeIn? file = some typeCode := by
  simp only [decodeFileType, bind_eq_ok_iff, pure_eq_ok_iff, decodeCode_eq_ok_iff,
    orFault_eq_ok_iff, DataType.ofCodeIn?_eq_some_iff, Prod.mk.injEq]
  constructor
  · rintro ⟨_, isFile, _, isType, rfl, rfl⟩
    exact ⟨isFile, isType⟩
  · rintro ⟨isFile, isType⟩
    exact ⟨file, isFile, type, isType, rfl, rfl⟩

theorem SourceFields.decodeRegion_eq_ok_iff (fields : SourceFields) (codes : RegionCodes)
    (region : Region) : fields.decodeRegion codes = .ok region ↔ region.codes = codes := by
  constructor
  · intro decoded
    simp only [decodeRegion, bind_eq_ok_iff, pure_eq_ok_iff, decodeCode_eq_ok_iff] at decoded
    obtain ⟨vstride, atVstride, width, atWidth, hstride, atHstride, rfl⟩ := decoded
    simp only [Region.codes, atVstride, atWidth, atHstride]
  · rintro rfl
    exact fields.decodeRegion_codes region

/-- The numbers by which a destination slot holds a register that was read from it. -/
def Register.heldDestination (mode : AccessMode) (register : Register) : DestinationCodes where
  file := code register.file
  type := (register.type.codeIn? register.file).getD 0
  place := match register.addressing, mode with
    | .indirect address, _ => .indirect address (code register.region.hstride)
    | .direct, .align1 =>
        .align1 register.number register.offset (code register.region.hstride)
    | .direct, .align16 => .align16 register.number (register.offset / 16) register.writeMask

def Register.heldSource (mode : AccessMode) (register : Register) : SourceCodes where
  file := code register.file
  type := (register.type.codeIn? register.file).getD 0
  negate := register.negate
  abs := register.abs
  place :=
    if register.file = .immediate then .immediate register.immediate
    else match register.addressing, mode with
      | .indirect address, _ => .indirect address register.region.codes
      | .direct, .align1 => .align1 register.number register.offset register.region.codes
      | .direct, .align16 =>
          .align16 register.number (register.offset / 16) (code register.region.vstride)
            register.swizzle

namespace DestinationFields

variable {fields : DestinationFields} {registers : Nat}

theorem readPlace_inMode (sized : fields.Sized registers) (mode : AccessMode) (bits : Encoding) :
    (fields.readPlace mode bits).InMode mode := by
  have hstride : fields.hstride.get bits < 4 := sized.hstride ▸ fields.hstride.get_lt bits
  unfold readPlace
  split
  · exact hstride
  · cases mode with
    | align1 => exact ⟨rfl, hstride⟩
    | align16 => rfl

theorem held_of_decode {mode : AccessMode} {codes : DestinationCodes} {register : Register}
    (inMode : codes.place.InMode mode) (decoded : fields.decode codes = .ok register) :
    register.heldDestination mode = codes := by
  obtain ⟨fileCode, typeCode, place⟩ := codes
  obtain ⟨⟨file, type⟩, typed, decoded⟩ := (bind_eq_ok_iff _ _ _).mp decoded
  obtain ⟨isFile, isType⟩ := (decodeFileType_eq_ok_iff _ _ _ _ _ _).mp typed
  cases place with
  | indirect address number =>
      obtain ⟨hstride, isStride, made⟩ := (bind_eq_ok_iff _ _ _).mp decoded
      obtain rfl := (pure_eq_ok_iff _ _).mp made
      have atStride := (decodeCode_eq_ok_iff _ _ _).mp isStride
      simp only [Register.heldDestination, Register.plain, isFile, isType, atStride,
        Option.getD_some]
  | align1 number offset strideCode =>
      obtain ⟨rfl, -⟩ := inMode
      obtain ⟨hstride, isStride, made⟩ := (bind_eq_ok_iff _ _ _).mp decoded
      obtain rfl := (pure_eq_ok_iff _ _).mp made
      have atStride := (decodeCode_eq_ok_iff _ _ _).mp isStride
      simp only [Register.heldDestination, Register.plain, isFile, isType, atStride,
        Option.getD_some]
  | align16 number half writeMask =>
      obtain rfl := inMode
      obtain rfl := (pure_eq_ok_iff _ _).mp decoded
      simp only [Register.heldDestination, Register.plain, isFile, isType, Option.getD_some,
        Nat.mul_div_cancel_left half (show 0 < 16 by decide)]

end DestinationFields

/-- What a source that decodes depends on: an immediate does not use its sign bits. -/
def SourceCodes.used (codes : SourceCodes) : SourceCodes :=
  match codes.place with
  | .immediate _ => { codes with negate := false, abs := false }
  | _ => codes

namespace SourceFields

variable {fields : SourceFields} {registers : Nat}

theorem readRegion_inRoom (sized : fields.Sized registers) (bits : Encoding) :
    (fields.readRegion bits).InRoom :=
  ⟨sized.vstride ▸ fields.vstride.get_lt bits, sized.width ▸ fields.width.get_lt bits,
    sized.hstride ▸ fields.hstride.get_lt bits⟩

-- The file tells immediates from registers.
theorem readPlace_cases (sized : fields.Sized registers) (mode : AccessMode) (bits : Encoding) :
    (fields.file.get bits = code RegisterFile.immediate ∧
      ∃ value, fields.readPlace mode bits = .immediate value) ∨
    (fields.file.get bits ≠ code RegisterFile.immediate ∧
      (fields.readPlace mode bits).OfRegister mode) := by
  have region := readRegion_inRoom sized bits
  unfold readPlace
  by_cases immediate : fields.file.get bits = code RegisterFile.immediate
  · exact Or.inl ⟨immediate, _, if_pos immediate⟩
  · refine Or.inr ⟨immediate, ?_⟩
    rw [if_neg immediate]
    split
    · exact region
    · cases mode with
      | align1 => exact ⟨rfl, region⟩
      | align16 => exact ⟨rfl, region.1⟩

theorem held_of_decode_register {mode : AccessMode} {codes : SourceCodes} {register : Register}
    (file : codes.file ≠ code RegisterFile.immediate) (ofRegister : codes.place.OfRegister mode)
    (decoded : fields.decode codes = .ok register) :
    register.heldSource mode = codes.used := by
  obtain ⟨fileCode, typeCode, negate, abs, place⟩ := codes
  obtain ⟨⟨found, type⟩, typed, decoded⟩ := (bind_eq_ok_iff _ _ _).mp decoded
  obtain ⟨isFile, isType⟩ := (decodeFileType_eq_ok_iff _ _ _ _ _ _).mp typed
  have notImmediate : found ≠ .immediate := by
    rintro rfl
    exact file isFile.symm
  cases place with
  | immediate value => exact ofRegister.elim
  | indirect address regionCodes =>
      obtain ⟨region, isRegion, made⟩ := (bind_eq_ok_iff _ _ _).mp decoded
      obtain rfl := (pure_eq_ok_iff _ _).mp made
      have atRegion := (decodeRegion_eq_ok_iff _ _ _).mp isRegion
      simp only [Register.heldSource, SourceCodes.used, Register.plain, isFile, isType, atRegion,
        Option.getD_some, if_neg notImmediate]
  | align1 number offset regionCodes =>
      obtain ⟨rfl, -⟩ := ofRegister
      obtain ⟨region, isRegion, made⟩ := (bind_eq_ok_iff _ _ _).mp decoded
      obtain rfl := (pure_eq_ok_iff _ _).mp made
      have atRegion := (decodeRegion_eq_ok_iff _ _ _).mp isRegion
      simp only [Register.heldSource, SourceCodes.used, Register.plain, isFile, isType, atRegion,
        Option.getD_some, if_neg notImmediate]
  | align16 number half strideCode swizzle =>
      obtain ⟨rfl, -⟩ := ofRegister
      obtain ⟨vstride, isStride, made⟩ := (bind_eq_ok_iff _ _ _).mp decoded
      obtain rfl := (pure_eq_ok_iff _ _).mp made
      have atStride := (decodeCode_eq_ok_iff _ _ _).mp isStride
      simp only [Register.heldSource, SourceCodes.used, Register.plain, isFile, isType, atStride,
        Option.getD_some, if_neg notImmediate,
        Nat.mul_div_cancel_left half (show 0 < 16 by decide)]

theorem held_of_decode_immediate {mode : AccessMode} {codes : SourceCodes} {register : Register}
    {value : Word} (file : codes.file = code RegisterFile.immediate)
    (place : codes.place = .immediate value) (decoded : fields.decode codes = .ok register) :
    register.heldSource mode = codes.used := by
  obtain ⟨fileCode, typeCode, negate, abs, _⟩ := codes
  obtain rfl : fileCode = code RegisterFile.immediate := file
  obtain rfl := place
  obtain ⟨⟨found, type⟩, typed, decoded⟩ := (bind_eq_ok_iff _ _ _).mp decoded
  obtain ⟨isFile, isType⟩ := (decodeFileType_eq_ok_iff _ _ _ _ _ _).mp typed
  obtain rfl := Coded.code_injective isFile
  obtain rfl := (pure_eq_ok_iff _ _).mp decoded
  simp only [Register.heldSource, SourceCodes.used, Register.ofImmediate, Register.plain, isType,
    Option.getD_some, ↓reduceIte]

theorem held_of_decode (sized : fields.Sized registers) {mode : AccessMode} {bits : Encoding}
    {register : Register} (decoded : fields.decode (fields.read mode bits) = .ok register) :
    register.heldSource mode = (fields.read mode bits).used := by
  rcases readPlace_cases sized mode bits with ⟨file, value, place⟩ | ⟨file, ofRegister⟩
  · exact held_of_decode_immediate file place decoded
  · exact held_of_decode_register file ofRegister decoded

theorem file_of_decode (sized : fields.Sized registers) {mode : AccessMode} {bits : Encoding}
    {register : Register} (decoded : fields.decode (fields.read mode bits) = .ok register) :
    fields.file.get bits = code register.file := by
  have held := congrArg SourceCodes.file (held_of_decode sized decoded)
  have used : (fields.read mode bits).used.file = fields.file.get bits := by
    unfold SourceCodes.used
    split <;> rfl
  rw [← used, ← held]
  rfl

end SourceFields

theorem TripleFields.DestinationCodes.held_decode (type : DataType)
    (codes : TripleFields.DestinationCodes) :
    (codes.decode type).tripleDestinationCodes = codes := by
  simp [decode, Register.tripleDestinationCodes, Register.plain]

theorem TripleSourceCodes.held_decode (type : DataType) (codes : TripleSourceCodes) :
    (codes.decode type).tripleSourceCodes = codes := by
  obtain ⟨number, subreg, swizzle, replicate, negate, abs⟩ := codes
  cases replicate <;> simp [decode, Register.tripleSourceCodes, Register.plain, Region.scalar,
    Region.contiguous]

end ExecUnit
