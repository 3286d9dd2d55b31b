import ExecUnit.Instruction.Operands
import ExecUnit.Proofs.Operand.DestinationCodes
import ExecUnit.Proofs.Operand.SourceCodes

/-!
When a setter accepts an operand, and what it writes then. One law for each
setter; the laws about what is read back start from these.
-/

namespace ExecUnit

theorem bind_eq_ok_iff {ε α β : Type} (first : Except ε α) (next : α → Except ε β) (result : β) :
    (first >>= next) = .ok result ↔ ∃ value, first = .ok value ∧ next value = .ok result := by
  cases first <;> simp [bind, Except.bind]

theorem pure_eq_ok_iff {ε α : Type} (value result : α) :
    (pure value : Except ε α) = .ok result ↔ result = value := by
  simp only [pure, Except.pure, Except.ok.injEq, eq_comm]

namespace Register

theorem placed_eq_ok_iff (gen : Generation) (register placed : Register) :
    register.placed gen = .ok placed ↔
      placed = register.withoutMessageFile gen ∧ placed.checkNumber gen = .ok () := by
  simp only [Register.placed, bind_eq_ok_iff, pure_eq_ok_iff]
  constructor
  · rintro ⟨_, checked, rfl⟩
    exact ⟨rfl, checked⟩
  · rintro ⟨rfl, checked⟩
    exact ⟨(), checked, rfl⟩

theorem typeNumber_eq_ok_iff (register : Register) (number : Nat) :
    register.typeNumber = .ok number ↔ register.type.codeIn? register.file = some number :=
  orRefuse_eq_ok_iff _ _ _

-- The four forms of a source, and when each of them can be written.
theorem sourcePlace_eq_ok_iff (mode : AccessMode) (oneChannel : Bool) (register : Register)
    (place : SourcePlace) :
    register.sourcePlace mode oneChannel = .ok place ↔
      (register.isImmediate = true ∧ place = .immediate register.immediate) ∨
      (register.isImmediate = false ∧ mode = .align1 ∧ ∃ address,
        register.addressing = .indirect address ∧
        place = .indirect address (register.sourceRegion oneChannel).codes) ∨
      (register.isImmediate = false ∧ mode = .align1 ∧ register.addressing = .direct ∧
        place = .align1 register.number register.offset
          (register.sourceRegion oneChannel).codes) ∨
      (register.isImmediate = false ∧ mode = .align16 ∧ register.addressing = .direct ∧
        (register.offset = 0 ∨ register.offset = 16) ∧
        place = .align16 register.number (register.offset / 16)
          (code (align16Stride register.region.vstride)) register.swizzle) := by
  unfold sourcePlace
  cases immediate : register.isImmediate with
  | true => simp [eq_comm]
  | false =>
      cases addressing : register.addressing with
      | indirect address => cases mode <;> simp [eq_comm]
      | direct =>
          cases mode with
          | align1 => simp [eq_comm]
          | align16 =>
              simp only [Bool.false_eq_true, ↓reduceIte, bind_eq_ok_iff, pure_eq_ok_iff,
                demand_eq_ok_iff]
              simp

theorem sourcePlace_ofRegister {mode : AccessMode} {oneChannel : Bool}
    {register : Register} {place : SourcePlace} (notImmediate : register.isImmediate = false)
    (formed : register.sourcePlace mode oneChannel = .ok place) : place.OfRegister mode := by
  rcases (sourcePlace_eq_ok_iff _ _ _ _).mp formed with ⟨immediate, -⟩ |
    ⟨-, rfl, address, addressing, rfl⟩ | ⟨-, rfl, addressing, rfl⟩ |
    ⟨-, rfl, addressing, aligned, rfl⟩
  · simp [notImmediate] at immediate
  · exact Region.codes_inRoom _
  · exact ⟨rfl, Region.codes_inRoom _⟩
  · exact ⟨rfl, VerticalStride.code_lt _⟩

theorem destinationPlace_eq_ok_iff (mode : AccessMode) (register : Register)
    (place : DestinationPlace) :
    register.destinationPlace mode = .ok place ↔
      (mode = .align1 ∧ ∃ address, register.addressing = .indirect address ∧
        place = .indirect address (code register.destinationStride)) ∨
      (mode = .align1 ∧ register.addressing = .direct ∧
        place = .align1 register.number register.offset (code register.destinationStride)) ∨
      (mode = .align16 ∧ register.addressing = .direct ∧
        (register.offset = 0 ∨ register.offset = 16) ∧
        place = .align16 register.number (register.offset / 16) register.writeMask) := by
  unfold destinationPlace
  cases addressing : register.addressing with
  | indirect address => cases mode <;> simp [eq_comm]
  | direct =>
      cases mode with
      | align1 => simp [eq_comm]
      | align16 =>
          simp only [bind_eq_ok_iff, pure_eq_ok_iff, demand_eq_ok_iff]
          simp

theorem destinationPlace_inMode {mode : AccessMode} {register : Register}
    {place : DestinationPlace} (formed : register.destinationPlace mode = .ok place) :
    place.InMode mode := by
  rcases (destinationPlace_eq_ok_iff _ _ _).mp formed with ⟨-, address, -, rfl⟩ |
    ⟨rfl, -, rfl⟩ | ⟨rfl, -, -, rfl⟩
  · exact HorizontalStride.code_lt _
  · exact ⟨rfl, HorizontalStride.code_lt _⟩
  · rfl

theorem destinationCodes_eq_ok_iff (mode : AccessMode) (register : Register)
    (codes : DestinationCodes) :
    register.destinationCodes mode = .ok codes ↔
      ∃ type place, register.typeNumber = .ok type ∧
        register.destinationPlace mode = .ok place ∧ codes = ⟨code register.file, type, place⟩ := by
  simp only [destinationCodes, bind_eq_ok_iff, pure_eq_ok_iff, exists_and_left]

theorem withoutMessageFile_region (gen : Generation) (register : Register) :
    (register.withoutMessageFile gen).region = register.region := by
  unfold withoutMessageFile
  split <;> rfl

theorem withoutMessageFile_type (gen : Generation) (register : Register) :
    (register.withoutMessageFile gen).type = register.type := by
  unfold withoutMessageFile
  split <;> rfl

theorem withoutMessageFile_isImmediate (gen : Generation) (register : Register) :
    (register.withoutMessageFile gen).isImmediate = register.isImmediate := by
  unfold withoutMessageFile
  split
  · next moved => simp [isImmediate, moved.1]
  · rfl

end Register

namespace Instruction

theorem judgeSource_eq_ok_iff (slot : SourceSlot) (register : Register) (instr : Instruction)
    (codes : SourceCodes) :
    instr.judgeSource slot register = .ok codes ↔
      ∃ placed type place, register.placed instr.gen = .ok placed ∧
        instr.checkRegion placed = .ok () ∧ placed.typeNumber = .ok type ∧
        instr.checkSlot slot = .ok () ∧
        placed.sourcePlace instr.accessMode instr.executesOneChannel = .ok place ∧
        codes = ⟨code placed.file, type, placed.negate, placed.abs, place⟩ := by
  simp only [judgeSource, bind_eq_ok_iff, pure_eq_ok_iff]
  constructor
  · rintro ⟨placed, isPlaced, _, region, type, typed, _, free, place, formed, rfl⟩
    exact ⟨placed, type, place, isPlaced, region, typed, free, formed, rfl⟩
  · rintro ⟨placed, type, place, isPlaced, region, typed, free, formed, rfl⟩
    exact ⟨placed, isPlaced, (), region, type, typed, (), free, place, formed, rfl⟩

theorem checkSlot_src1_eq_ok_iff (instr : Instruction) :
    instr.checkSlot .src1 = .ok () ↔
      ¬instr.get instr.layout.src0.file = code RegisterFile.immediate := by
  simp [checkSlot, demand_eq_ok_iff, hasImmediateSrc0]

theorem setSource_eq_ok_iff (slot : SourceSlot) (register : Register)
    (instr written : Instruction) :
    instr.setSource slot register = .ok written ↔
      ∃ codes, instr.judgeSource slot register = .ok codes ∧
        written = instr.writeSource slot codes := by
  simp only [setSource, bind_eq_ok_iff, pure_eq_ok_iff]

theorem setDestination_eq_ok_iff (register : Register) (instr written : Instruction) :
    instr.setDestination register = .ok written ↔
      ∃ placed codes, register.placed instr.gen = .ok placed ∧
        placed.destinationCodes instr.accessMode = .ok codes ∧
        written = (instr.writeDestination codes).fitExecSize placed.region.width := by
  simp only [setDestination, bind_eq_ok_iff, pure_eq_ok_iff, exists_and_left]

end Instruction

end ExecUnit
