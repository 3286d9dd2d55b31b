import ExecUnit.Proofs.Operand.ChecksAmongWrites
import ExecUnit.Proofs.Operand.TripleOrder
import ExecUnit.Proofs.Operand.WriteBack

/-!
Which operands the setters accept, said of the register and of the instruction as it is
before the call: `setters_accept_iff`. The conditions are stated by number, file, region,
type and addressing, without the setters' own checks.
-/

namespace ExecUnit

namespace DataType

/-- The packed vectors exist as immediates only. Signed bytes and doubles never do. -/
def ExistsIn (file : RegisterFile) : DataType → Prop
  | .v | .vf => file = .immediate
  | .b | .df => file ≠ .immediate
  | .ud | .d | .uw | .w | .ub | .f => True

theorem exists_codeIn?_iff (file : RegisterFile) (type : DataType) :
    (∃ number, type.codeIn? file = some number) ↔ type.ExistsIn file := by
  by_cases immediate : file = .immediate <;> cases type <;>
    simp [codeIn?, ExistsIn, immediate]

/-- Gen6 has three-source instructions for floats, later generations for four types. -/
def InTriple (gen : Generation) (type : DataType) : Prop :=
  type = .f ∨ 7 ≤ gen.number ∧ (type = .d ∨ type = .ud ∨ type = .df)

theorem hasTripleType_iff (gen : Generation) (type : DataType) :
    gen.HasTripleType type ↔ type.InTriple gen := by
  cases gen <;> cases type <;>
    simp [Generation.HasTripleType, Generation.hasThreeSourceTypes, InTriple, threeSourceCode?,
      Generation.number]

end DataType

namespace Register

/-- The generation has a register with this number. -/
def Exists (gen : Generation) (register : Register) : Prop :=
  (register.file = .general → register.number < 128) ∧
    (register.file = .message → register.number < gen.messageRegisterCount)

/-- Align16 operands are halves of directly addressed registers. -/
def AddressableIn (mode : AccessMode) (register : Register) : Prop :=
  match register.addressing with
  | .direct => mode = .align1 ∨ register.offset = 0 ∨ register.offset = 16
  | .indirect _ => mode = .align1

theorem checkNumber_eq_ok_iff (gen : Generation) (register : Register) :
    register.checkNumber gen = .ok () ↔ register.Exists gen := by
  unfold checkNumber Exists
  cases register.file with
  | general =>
      rw [demand_eq_ok_iff, Generation.generalRegisterCount]
      simp only [true_implies, reduceCtorEq, false_implies, and_true]
  | message =>
      rw [demand_eq_ok_iff]
      simp only [true_implies, reduceCtorEq, false_implies, true_and]
  | architecture | immediate => simp only [reduceCtorEq, false_implies, and_true]

theorem exists_typeNumber_iff (register : Register) :
    (∃ number, register.typeNumber = .ok number) ↔ register.type.ExistsIn register.file := by
  simp only [typeNumber_eq_ok_iff, DataType.exists_codeIn?_iff]

theorem exists_sourcePlace_iff (mode : AccessMode) (oneChannel : Bool) (register : Register) :
    (∃ place, register.sourcePlace mode oneChannel = .ok place) ↔
      (register.isImmediate = false → register.AddressableIn mode) := by
  constructor
  · rintro ⟨place, formed⟩ notImmediate
    unfold AddressableIn
    rcases (sourcePlace_eq_ok_iff _ _ _ _).mp formed with ⟨immediate, -⟩ |
      ⟨-, align1, address, indirect, -⟩ | ⟨-, align1, direct, -⟩ | ⟨-, -, direct, aligned, -⟩
    · simp [notImmediate] at immediate
    · rw [indirect]
      exact align1
    · rw [direct]
      exact Or.inl align1
    · rw [direct]
      exact Or.inr aligned
  · intro addressable
    simp only [sourcePlace_eq_ok_iff]
    by_cases immediate : register.isImmediate = true
    · exact ⟨_, Or.inl ⟨immediate, rfl⟩⟩
    · have notImmediate := Bool.eq_false_iff.mpr immediate
      have form := addressable notImmediate
      unfold AddressableIn at form
      cases addressing : register.addressing with
      | indirect address =>
          rw [addressing] at form
          exact ⟨_, Or.inr (Or.inl ⟨notImmediate, form, address, rfl, rfl⟩)⟩
      | direct =>
          rw [addressing] at form
          cases mode with
          | align1 => exact ⟨_, Or.inr (Or.inr (Or.inl ⟨notImmediate, rfl, rfl, rfl⟩))⟩
          | align16 =>
              have aligned := form.resolve_left nofun
              exact ⟨_, Or.inr (Or.inr (Or.inr ⟨notImmediate, rfl, rfl, aligned, rfl⟩))⟩

theorem exists_destinationPlace_iff (mode : AccessMode) (register : Register) :
    (∃ place, register.destinationPlace mode = .ok place) ↔ register.AddressableIn mode := by
  unfold AddressableIn
  constructor
  · rintro ⟨place, formed⟩
    rcases (destinationPlace_eq_ok_iff _ _ _).mp formed with ⟨align1, address, indirect, -⟩ |
      ⟨align1, direct, -⟩ | ⟨-, direct, aligned, -⟩
    · rw [indirect]
      exact align1
    · rw [direct]
      exact Or.inl align1
    · rw [direct]
      exact Or.inr aligned
  · intro form
    simp only [destinationPlace_eq_ok_iff]
    cases addressing : register.addressing with
    | indirect address =>
        rw [addressing] at form
        exact ⟨_, Or.inl ⟨form, address, rfl, rfl⟩⟩
    | direct =>
        rw [addressing] at form
        cases mode with
        | align1 => exact ⟨_, Or.inr (Or.inl ⟨rfl, rfl, rfl⟩)⟩
        | align16 => exact ⟨_, Or.inr (Or.inr ⟨rfl, rfl, form.resolve_left nofun, rfl⟩)⟩

end Register

namespace Instruction

/-- What `setSource` asks of a register, once a message register is the general register
that stands in for it. -/
structure AcceptsSource (slot : SourceSlot) (placed : Register) (instr : Instruction) : Prop where
  present : placed.Exists instr.gen
  region : placed.file = .general ∨ placed.file = .message →
    ∃ size, instr.execSize = .ok size ∧ placed.region.fault? size = none
  typed : placed.type.ExistsIn placed.file
  free : slot = .src1 → instr.layout.src0.file.get instr.bits ≠ code RegisterFile.immediate
  addressable : placed.isImmediate = false → placed.AddressableIn instr.accessMode

/-- Destinations are addressed like any register, even where their file is that of
immediates. Their region is not judged. -/
structure AcceptsDestination (placed : Register) (instr : Instruction) : Prop where
  present : placed.Exists instr.gen
  typed : placed.type.ExistsIn placed.file
  addressable : placed.AddressableIn instr.accessMode

structure AcceptsTriple (placed : Register) (instr : Instruction) : Prop where
  available : 6 ≤ instr.gen.number
  mode : instr.accessMode = .align16
  file : placed.file = .general
  present : placed.number < 128
  direct : placed.addressing = .direct
  aligned : 4 ∣ placed.offset
  typed : placed.type.InTriple instr.gen

variable (register : Register) (instr : Instruction)

theorem checkSlot_eq_ok_iff (slot : SourceSlot) :
    instr.checkSlot slot = .ok () ↔
      (slot = .src1 → instr.layout.src0.file.get instr.bits ≠ code RegisterFile.immediate) := by
  cases slot with
  | src0 => simp only [checkSlot, reduceCtorEq, false_implies]
  | src1 =>
      simp only [true_implies]
      exact checkSlot_src1_eq_ok_iff instr

theorem setSource_accepts_iff (slot : SourceSlot) :
    (∃ written, instr.setSource slot register = .ok written) ↔
      instr.AcceptsSource slot (register.withoutMessageFile instr.gen) := by
  constructor
  · rintro ⟨written, accepted⟩
    obtain ⟨codes, judged, -⟩ := (setSource_eq_ok_iff _ _ _ _).mp accepted
    obtain ⟨placed, type, place, isPlaced, legal, typed, free, formed, -⟩ :=
      (judgeSource_eq_ok_iff _ _ _ _).mp judged
    obtain ⟨rfl, present⟩ := (Register.placed_eq_ok_iff _ _ _).mp isPlaced
    constructor
    · exact (Register.checkNumber_eq_ok_iff _ _).mp present
    · exact (checkRegion_eq_ok_iff _ _).mp legal
    · exact (Register.exists_typeNumber_iff _).mp ⟨type, typed⟩
    · exact (checkSlot_eq_ok_iff _ _).mp free
    · exact (Register.exists_sourcePlace_iff _ _ _).mp ⟨place, formed⟩
  · intro accepts
    have present := (Register.checkNumber_eq_ok_iff _ _).mpr accepts.present
    have isPlaced := (Register.placed_eq_ok_iff _ _ _).mpr ⟨rfl, present⟩
    have legal := (checkRegion_eq_ok_iff _ _).mpr accepts.region
    obtain ⟨type, typed⟩ := (Register.exists_typeNumber_iff _).mpr accepts.typed
    have free := (checkSlot_eq_ok_iff _ _).mpr accepts.free
    obtain ⟨place, formed⟩ := (Register.exists_sourcePlace_iff _ instr.executesOneChannel _).mpr
      accepts.addressable
    have judged := (judgeSource_eq_ok_iff _ _ _ _).mpr
      ⟨_, type, place, isPlaced, legal, typed, free, formed, rfl⟩
    exact ⟨_, (setSource_eq_ok_iff _ _ _ _).mpr ⟨_, judged, rfl⟩⟩

theorem setDestination_accepts_iff :
    (∃ written, instr.setDestination register = .ok written) ↔
      instr.AcceptsDestination (register.withoutMessageFile instr.gen) := by
  constructor
  · rintro ⟨written, accepted⟩
    obtain ⟨placed, codes, isPlaced, coded, -⟩ := (setDestination_eq_ok_iff _ _ _).mp accepted
    obtain ⟨type, place, typed, formed, -⟩ := (Register.destinationCodes_eq_ok_iff _ _ _).mp coded
    obtain ⟨rfl, present⟩ := (Register.placed_eq_ok_iff _ _ _).mp isPlaced
    constructor
    · exact (Register.checkNumber_eq_ok_iff _ _).mp present
    · exact (Register.exists_typeNumber_iff _).mp ⟨type, typed⟩
    · exact (Register.exists_destinationPlace_iff _ _).mp ⟨place, formed⟩
  · intro accepts
    have present := (Register.checkNumber_eq_ok_iff _ _).mpr accepts.present
    have isPlaced := (Register.placed_eq_ok_iff _ _ _).mpr ⟨rfl, present⟩
    obtain ⟨type, typed⟩ := (Register.exists_typeNumber_iff _).mpr accepts.typed
    obtain ⟨place, formed⟩ := (Register.exists_destinationPlace_iff _ _).mpr accepts.addressable
    have coded := (Register.destinationCodes_eq_ok_iff _ _ _).mpr ⟨type, place, typed, formed, rfl⟩
    exact ⟨_, (setDestination_eq_ok_iff _ _ _).mpr ⟨_, _, isPlaced, coded, rfl⟩⟩

theorem acceptsTriple_iff :
    (∃ placed, register.placed instr.gen = .ok placed ∧ instr.checkTriple placed = .ok () ∧
      instr.gen.HasTripleType placed.type) ↔
      instr.AcceptsTriple (register.withoutMessageFile instr.gen) := by
  constructor
  · rintro ⟨placed, isPlaced, checked, typed⟩
    obtain ⟨rfl, present⟩ := (Register.placed_eq_ok_iff _ _ _).mp isPlaced
    obtain ⟨available, mode, file, direct, aligned⟩ := (checkTriple_eq_ok_iff _ _).mp checked
    constructor
    · exact of_decide_eq_true available
    · exact mode
    · exact file
    · exact ((Register.checkNumber_eq_ok_iff _ _).mp present).1 file
    · exact direct
    · exact Nat.dvd_of_mod_eq_zero aligned
    · exact (DataType.hasTripleType_iff _ _).mp typed
  · intro accepts
    have file := accepts.file
    have present : (register.withoutMessageFile instr.gen).Exists instr.gen :=
      ⟨fun _ => accepts.present, fun message => absurd (file.symm.trans message) nofun⟩
    have isPlaced := (Register.placed_eq_ok_iff _ _ _).mpr
      ⟨rfl, (Register.checkNumber_eq_ok_iff _ _).mpr present⟩
    have checked := (checkTriple_eq_ok_iff _ _).mpr
      ⟨decide_eq_true accepts.available, accepts.mode, file, accepts.direct,
        Nat.mod_eq_zero_of_dvd accepts.aligned⟩
    exact ⟨_, isPlaced, checked, (DataType.hasTripleType_iff _ _).mpr accepts.typed⟩

theorem setTripleDestination_accepts_iff :
    (∃ written, instr.setTripleDestination register = .ok written) ↔
      instr.AcceptsTriple (register.withoutMessageFile instr.gen) := by
  rw [← acceptsTriple_iff]
  constructor
  · rintro ⟨written, accepted⟩
    obtain ⟨placed, isPlaced, checked, typed, -⟩ :=
      (setTripleDestination_eq_ok_iff _ _ _).mp accepted
    exact ⟨placed, isPlaced, checked, typed⟩
  · rintro ⟨placed, isPlaced, checked, typed⟩
    exact ⟨_, (setTripleDestination_eq_ok_iff _ _ _).mpr ⟨placed, isPlaced, checked, typed, rfl⟩⟩

theorem index_of_setTripleSource {index : Nat} {written : Instruction}
    (accepted : instr.setTripleSource index register = .ok written) : index < 3 := by
  simp only [setTripleSource, bind_eq_ok_iff] at accepted
  obtain ⟨placed, -, -, -, found, indexed, -⟩ := accepted
  unfold sourceIndex at indexed
  split at indexed
  · assumption
  · cases indexed

theorem setTripleSource_accepts_iff (index : Nat) :
    (∃ written, instr.setTripleSource index register = .ok written) ↔
      index ≤ 2 ∧ instr.AcceptsTriple (register.withoutMessageFile instr.gen) := by
  rw [← acceptsTriple_iff]
  constructor
  · rintro ⟨written, accepted⟩
    -- An accepted index is a slot, so that what is known of slots applies.
    have inside := index_of_setTripleSource register instr accepted
    obtain ⟨placed, isPlaced, checked, typed, -⟩ :=
      (setTripleSource_eq_ok_iff ⟨index, inside⟩ _ _ _).mp accepted
    exact ⟨Nat.le_of_lt_succ inside, placed, isPlaced, checked, typed⟩
  · rintro ⟨inside, placed, isPlaced, checked, typed⟩
    have accepted := (setTripleSource_eq_ok_iff ⟨index, Nat.lt_succ_of_le inside⟩ register instr
      _).mpr ⟨placed, isPlaced, checked, typed, rfl⟩
    exact ⟨_, accepted⟩

/-- The operands that each setter accepts, and that it accepts them whether it checks an
operand before its writes or between them. -/
theorem setters_accept_iff :
    let placed := register.withoutMessageFile instr.gen
    (∀ slot, ((∃ written, instr.setSource slot register = .ok written) ↔
        instr.AcceptsSource slot placed) ∧
      instr.setSourceInTurn slot register = instr.setSource slot register) ∧
    ((∃ written, instr.setDestination register = .ok written) ↔
        instr.AcceptsDestination placed) ∧
      instr.setDestinationInTurn register = instr.setDestination register ∧
    ((∃ written, instr.setTripleDestination register = .ok written) ↔
      instr.AcceptsTriple placed) ∧
    ∀ index, (∃ written, instr.setTripleSource index register = .ok written) ↔
      index ≤ 2 ∧ instr.AcceptsTriple placed := by
  intro placed
  refine ⟨?_, ?_, ?_, ?_, ?_⟩
  · intro slot
    exact ⟨setSource_accepts_iff register instr slot, setSourceInTurn_eq slot register instr⟩
  · exact setDestination_accepts_iff register instr
  · exact setDestinationInTurn_eq register instr
  · exact setTripleDestination_accepts_iff register instr
  · exact setTripleSource_accepts_iff register instr

end Instruction

end ExecUnit
