import ExecUnit.Proofs.Operand.DestinationRoundTrip
import ExecUnit.Proofs.Operand.Runs
import ExecUnit.Proofs.Operand.SourceRoundTrip

/-!
Which accepted operands are read back as the registers that they were set to. The setters
refuse general and message registers that do not exist, but not every number that its field
has no room for. `Overflows` lists those numbers, and `location_after_set` shows that they
are the only ones to be altered.
-/

namespace ExecUnit

/-- Where an operand lies. Only one of the two forms is encoded. -/
inductive Location where
  | direct (number offset : Nat)
  | indirect (address : Address)
  deriving DecidableEq, Repr

namespace Location

def kept (registers : Nat) (mode : AccessMode) : Location → Location
  | .direct number offset =>
      .direct (number % 256) (match mode with
        | .align1 => offset % 32
        | .align16 => offset)
  | .indirect address => .indirect (address.kept registers)

def Fits (registers : Nat) (mode : AccessMode) : Location → Prop
  | .direct number offset => number < 256 ∧ (mode = .align1 → offset < 32)
  | .indirect address => address.subreg < registers ∧ -512 ≤ address.offset ∧ address.offset ≤ 511

end Location

theorem Address.kept_eq_self_iff {registers : Nat} (some : registers ≠ 0) (address : Address) :
    address.kept registers = address ↔
      address.subreg < registers ∧ -512 ≤ address.offset ∧ address.offset ≤ 511 := by
  obtain ⟨subreg, offset⟩ := address
  have whole : offset.bmod 1024 = offset ↔ -512 ≤ offset ∧ offset ≤ 511 := by
    rw [Int.bmod_def]
    split <;> omega
  rw [kept, Address.mk.injEq, Nat.mod_eq_iff_lt some, whole]

theorem Location.kept_eq_self_iff {registers : Nat} (some : registers ≠ 0) (mode : AccessMode)
    (location : Location) : location.kept registers mode = location ↔
      location.Fits registers mode := by
  cases location with
  | direct number offset =>
      have inNumber : number % 256 = number ↔ number < 256 := Nat.mod_eq_iff_lt (by decide)
      have inBytes : offset % 32 = offset ↔ offset < 32 := Nat.mod_eq_iff_lt (by decide)
      cases mode with
      | align1 => simp only [kept, Fits, Location.direct.injEq, inNumber, inBytes, true_implies]
      | align16 =>
          simp only [kept, Fits, Location.direct.injEq, inNumber, reduceCtorEq, false_implies]
  | indirect address =>
      simp only [kept, Fits, Location.indirect.injEq, Address.kept_eq_self_iff some]

namespace Register

def location (register : Register) : Location :=
  match register.addressing with
  | .direct => .direct register.number register.offset
  | .indirect address => .indirect address

/-- A number that no check refuses, though its field has no room for it. -/
inductive Overflows (registers : Nat) (mode : AccessMode) (register : Register) : Prop where
  | number (direct : register.addressing = .direct) (file : register.file = .architecture)
      (large : 256 ≤ register.number)
  | offset (direct : register.addressing = .direct) (bytes : mode = .align1)
      (large : 32 ≤ register.offset)
  | subreg (address : Address) (indirect : register.addressing = .indirect address)
      (large : registers ≤ address.subreg)
  | distance (address : Address) (indirect : register.addressing = .indirect address)
      (far : address.offset < -512 ∨ 511 < address.offset)

theorem number_lt_of_placed {gen : Generation} {register : Register}
    (present : register.checkNumber gen = .ok ()) (notImmediate : register.isImmediate = false)
    (notArchitecture : register.file ≠ .architecture) : register.number < 256 := by
  -- Registers that a generation has are few enough for the number's field.
  unfold checkNumber at present
  cases file : register.file with
  | architecture => exact absurd file notArchitecture
  | immediate => simp [isImmediate, file] at notImmediate
  | general =>
      rw [file] at present
      exact Nat.lt_trans ((demand_eq_ok_iff _ _ _).mp present) (by decide)
  | message =>
      rw [file] at present
      have few : gen.messageRegisterCount ≤ 256 := by cases gen <;> decide
      exact Nat.lt_of_lt_of_le ((demand_eq_ok_iff _ _ _).mp present) few

theorem fits_location_iff {gen : Generation} {register : Register}
    (present : register.checkNumber gen = .ok ()) (notImmediate : register.isImmediate = false)
    (registers : Nat) (mode : AccessMode) :
    register.location.Fits registers mode ↔ ¬register.Overflows registers mode := by
  constructor
  · intro fits overflow
    unfold location at fits
    cases overflow with
    | number direct file large =>
        rw [direct] at fits
        exact Nat.not_le_of_lt fits.1 large
    | offset direct bytes large =>
        rw [direct] at fits
        exact Nat.not_le_of_lt (fits.2 bytes) large
    | subreg address indirect large =>
        rw [indirect] at fits
        exact Nat.not_le_of_lt fits.1 large
    | distance address indirect far =>
        rw [indirect] at fits
        have near := fits.2
        omega
  · intro room
    unfold location
    cases addressing : register.addressing with
    | direct =>
        constructor
        · -- General and message registers that exist have numbers that fit.
          by_cases architecture : register.file = .architecture
          · exact Nat.lt_of_not_le fun large => room (.number addressing architecture large)
          · exact number_lt_of_placed present notImmediate architecture
        · exact fun bytes => Nat.lt_of_not_le fun large => room (.offset addressing bytes large)
    | indirect address =>
        have near : ¬(address.offset < -512 ∨ 511 < address.offset) :=
          fun far => room (.distance address addressing far)
        have known : address.subreg < registers :=
          Nat.lt_of_not_le fun large => room (.subreg address addressing large)
        exact ⟨known, by omega, by omega⟩

theorem keptDestination_location (registers : Nat) (mode : AccessMode) (register : Register) :
    (register.keptDestination registers mode).location = register.location.kept registers mode := by
  unfold keptDestination location
  cases register.addressing <;> cases mode <;> rfl

theorem keptSource_location {register : Register} (notImmediate : register.isImmediate = false)
    (registers : Nat) (mode : AccessMode) (oneChannel : Bool) :
    (register.keptSource registers mode oneChannel).location =
      register.location.kept registers mode := by
  have file : register.file ≠ .immediate := of_decide_eq_false notImmediate
  unfold keptSource location
  rw [if_neg file]
  cases register.addressing <;> cases mode <;> rfl

end Register

namespace Instruction

theorem location_of_setOperand {slot : Slot} {register : Register} {instr written : Instruction}
    (notImmediate : register.isImmediate = false)
    (accepted : instr.setOperand slot register = .ok written) :
    ∃ read placed, register.placed instr.gen = .ok placed ∧
      written.operand (.plain slot) = .ok read ∧
      read.location =
        placed.location.kept instr.gen.layoutKind.addressRegisters instr.accessMode := by
  rcases slot with - | slot
  · obtain ⟨placed, codes, isPlaced, coded, rfl⟩ := (setDestination_eq_ok_iff _ _ _).mp accepted
    exact ⟨_, placed, isPlaced, destination_of_coded instr coded placed.region.width,
      Register.keptDestination_location _ _ _⟩
  · obtain ⟨codes, judged, rfl⟩ := (setSource_eq_ok_iff _ _ _ _).mp accepted
    obtain ⟨placed, isPlaced, decoded⟩ := source_of_judged judged
    obtain ⟨moved, -⟩ := (Register.placed_eq_ok_iff _ _ _).mp isPlaced
    have placedRegister : placed.isImmediate = false :=
      moved ▸ (register.withoutMessageFile_isImmediate instr.gen).trans notImmediate
    exact ⟨_, placed, isPlaced, decoded, Register.keptSource_location placedRegister _ _ _⟩

/-- An operand that was accepted is read back at the place that was asked for, unless one
of its numbers overflows. Then what its fields have room for is read. -/
theorem location_after_set (slot : Slot) (register : Register) (instr written : Instruction)
    (notImmediate : register.isImmediate = false)
    (accepted : instr.setOperand slot register = .ok written) :
    let registers := instr.gen.layoutKind.addressRegisters
    let asked := register.withoutMessageFile instr.gen
    ∃ read, written.operand (.plain slot) = .ok read ∧
      read.location = asked.location.kept registers instr.accessMode ∧
      (read.location = asked.location ↔ ¬asked.Overflows registers instr.accessMode) := by
  intro registers asked
  have some : registers ≠ 0 := by
    unfold registers
    cases instr.gen.layoutKind <;> decide
  obtain ⟨read, placed, isPlaced, decoded, located⟩ := location_of_setOperand notImmediate accepted
  obtain ⟨rfl, present⟩ := (Register.placed_eq_ok_iff _ _ _).mp isPlaced
  have askedRegister : asked.isImmediate = false :=
    (register.withoutMessageFile_isImmediate instr.gen).trans notImmediate
  refine ⟨read, decoded, located, ?_⟩
  rw [located, Location.kept_eq_self_iff some, Register.fits_location_iff present askedRegister]

/-- Gen8 has a sixteenth address subregister and keeps it, Gen7 takes it for the eighth. -/
theorem location_after_set_a15 :
    let far := (Register.general 0 0).indirect ⟨15, -512⟩
    (∃ written read, (⟨.gen8, 0⟩ : Instruction).setOperand .dst far = .ok written ∧
      written.operand (.plain .dst) = .ok read ∧ read.location = .indirect ⟨15, -512⟩) ∧
    ∃ written read, (⟨.gen7, 0⟩ : Instruction).setOperand .dst far = .ok written ∧
      written.operand (.plain .dst) = .ok read ∧ read.location = .indirect ⟨7, -512⟩ := by
  intro far
  obtain ⟨kept, accepted⟩ : ∃ written,
      (⟨.gen8, 0⟩ : Instruction).setOperand .dst far = .ok written := ⟨_, rfl⟩
  obtain ⟨changed, accepted'⟩ : ∃ written,
      (⟨.gen7, 0⟩ : Instruction).setOperand .dst far = .ok written := ⟨_, rfl⟩
  obtain ⟨read, decoded, located, -⟩ := location_after_set .dst far _ _ rfl accepted
  obtain ⟨read', decoded', located', -⟩ := location_after_set .dst far _ _ rfl accepted'
  exact ⟨⟨kept, read, accepted, decoded, located⟩, changed, read', accepted', decoded', located'⟩

/-- Byte 36 of a register, which has 32, becomes byte 4. -/
theorem location_not_kept :
    ¬∀ (slot : Slot) (register : Register) (instr written : Instruction),
      register.isImmediate = false → instr.setOperand slot register = .ok written →
      ∃ read, written.operand (.plain slot) = .ok read ∧
        read.location = (register.withoutMessageFile instr.gen).location := by
  intro claim
  obtain ⟨read, decoded, located⟩ := claim .dst (.general 1 36) ⟨.gen8, 0⟩ _ rfl rfl
  obtain rfl := Except.ok.inj decoded
  cases located

end Instruction

end ExecUnit
