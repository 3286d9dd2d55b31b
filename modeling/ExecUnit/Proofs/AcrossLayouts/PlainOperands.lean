import ExecUnit.Proofs.AcrossLayouts.Header
import ExecUnit.Proofs.Listing.Operands
import ExecUnit.Proofs.Operand.DestinationRoundTrip
import ExecUnit.Proofs.Operand.Runs
import ExecUnit.Proofs.Operand.SlotIndependence
import ExecUnit.Proofs.Operand.SourceRoundTrip

/-!
Operands of instructions with up to two sources, set in both layouts. Their fields do not
pair up, so what the layouts have in common is the register that is read back
(`setOperand_matched`).
-/

namespace ExecUnit

open Encoding (Agree)

section Registers

/-- An indirect operand names one of the address subregisters that both layouts have. -/
def Register.SharedAddress (register : Register) : Prop :=
  ∀ address, register.addressing = .indirect address → address.subreg < 8

-- Both generations are without message registers.
theorem Register.placed_gen7 (register : Register) :
    register.placed .gen7 = register.placed .gen8 := by
  have moved : register.withoutMessageFile .gen7 = register.withoutMessageFile .gen8 := rfl
  have checked : (register.withoutMessageFile .gen8).checkNumber .gen7 =
      (register.withoutMessageFile .gen8).checkNumber .gen8 := by
    cases file : register.file <;>
      simp [withoutMessageFile, checkNumber, file, Generation.hasMessageFile, Generation.number]
  rw [placed, placed, moved, checked]

theorem Register.SharedAddress.placed {register placed : Register} {gen : Generation}
    (shared : register.SharedAddress) (isPlaced : register.placed gen = .ok placed) :
    placed.SharedAddress := by
  obtain ⟨rfl, -⟩ := (Register.placed_eq_ok_iff _ _ _).mp isPlaced
  unfold Register.withoutMessageFile
  split <;> exact shared

theorem Address.kept_eq {address : Address} (shared : address.subreg < 8) :
    address.kept LayoutKind.gen4.addressRegisters =
      address.kept LayoutKind.gen8.addressRegisters := by
  have wide : address.subreg < 16 := Nat.lt_trans shared (by decide)
  simp only [Address.kept, LayoutKind.addressRegisters, Nat.mod_eq_of_lt shared,
    Nat.mod_eq_of_lt wide]

theorem Register.keptDestination_eq {register : Register} (shared : register.SharedAddress)
    (mode : AccessMode) :
    register.keptDestination LayoutKind.gen4.addressRegisters mode =
      register.keptDestination LayoutKind.gen8.addressRegisters mode := by
  cases addressing : register.addressing with
  | direct => cases mode <;> simp only [keptDestination, addressing]
  | indirect address =>
      simp only [keptDestination, addressing, Address.kept_eq (shared _ addressing)]

theorem Register.keptSource_eq {register : Register} (shared : register.SharedAddress)
    (mode : AccessMode) (oneChannel : Bool) :
    register.keptSource LayoutKind.gen4.addressRegisters mode oneChannel =
      register.keptSource LayoutKind.gen8.addressRegisters mode oneChannel := by
  cases addressing : register.addressing with
  | direct => cases mode <;> simp only [keptSource, addressing]
  | indirect address =>
      simp only [keptSource, addressing, Address.kept_eq (shared _ addressing)]

end Registers

def OperandKind.threeSource : OperandKind → Bool
  | .plain _ => false
  | .tripleDestination | .tripleSource _ => true

/-- Encodings of one instruction on Gen7 and on Gen8, of which `kinds` decode to the same
registers. -/
structure Alike (opcode : Opcode) (kinds : List OperandKind) (left right : Encoding) : Prop where
  twins : Twins opcode left right
  decoded : ∀ kind ∈ kinds, ∃ register, Instruction.operand kind ⟨.gen7, left⟩ = .ok register ∧
    Instruction.operand kind ⟨.gen8, right⟩ = .ok register

namespace Instruction

section Judging

variable {opcode : Opcode} {left right : Encoding}

theorem accessMode_of_twins (twins : Twins opcode left right) :
    accessMode ⟨.gen7, left⟩ = accessMode ⟨.gen8, right⟩ :=
  congrArg (if · = 0 then AccessMode.align1 else .align16)
    (twins.get_setting_eq (·.header.accessMode) (by decide))

theorem executesOneChannel_of_twins (twins : Twins opcode left right) :
    executesOneChannel ⟨.gen7, left⟩ = executesOneChannel ⟨.gen8, right⟩ :=
  congrArg (fun number => decide (number = code ExecSize.e1))
    (twins.get_setting_eq (·.header.execSize) (by decide))

theorem checkRegion_of_twins (twins : Twins opcode left right) (register : Register) :
    checkRegion register ⟨.gen7, left⟩ = checkRegion register ⟨.gen8, right⟩ := by
  have known : knownExecSize ⟨.gen7, left⟩ = knownExecSize ⟨.gen8, right⟩ :=
    congrArg (fun number => orRefuse (.reservedExecSize number) (Coded.ofCode? number))
      (twins.get_setting_eq (·.header.execSize) (by decide))
  rw [checkRegion, checkRegion, known]

theorem src0File_of_twins (twins : Twins opcode left right)
    (twoSource : opcode.isThreeSource = false) :
    Layout.gen4.src0.file.get left = Layout.gen8.src0.file.get right :=
  twins.get_eq (·.src0.file) (by rw [twoSource]; decide)

theorem checkSlot_of_twins (twins : Twins opcode left right)
    (twoSource : opcode.isThreeSource = false) (slot : SourceSlot) :
    checkSlot slot ⟨.gen7, left⟩ = checkSlot slot ⟨.gen8, right⟩ := by
  have immediate : hasImmediateSrc0 ⟨.gen7, left⟩ = hasImmediateSrc0 ⟨.gen8, right⟩ :=
    congrArg (fun number => decide (number = code RegisterFile.immediate))
      (src0File_of_twins twins twoSource)
  cases slot with
  | src0 => rfl
  | src1 => simp only [checkSlot, immediate]

theorem judgeSource_of_twins (twins : Twins opcode left right)
    (twoSource : opcode.isThreeSource = false) (slot : SourceSlot) (register : Register) :
    judgeSource slot register ⟨.gen7, left⟩ = judgeSource slot register ⟨.gen8, right⟩ := by
  simp only [judgeSource, Register.placed_gen7, checkRegion_of_twins twins,
    checkSlot_of_twins twins twoSource, accessMode_of_twins twins,
    executesOneChannel_of_twins twins]

end Judging

end Instruction

namespace Twins

variable {opcode : Opcode} {left right : Encoding}

def headerPairs : List RangePair :=
  opcodePair :: settingPairs ++
    [fieldPair (·.header.flag.number), fieldPair (·.header.flag.subreg)]

-- A narrow destination sets the same execution size in both layouts.
theorem resize (twins : Twins opcode left right) (width : Width) :
    Twins opcode (left.assign (Layout.gen4.sizeAssignments width))
      (right.assign (Layout.gen8.sizeAssignments width)) := by
  unfold Layout.sizeAssignments
  split
  · exact twins.set_setting (·.header.execSize) (by decide) _
  · exact twins

theorem destination (twins : Twins opcode left right) (twoSource : opcode.isThreeSource = false)
    (codes : DestinationCodes) (width : Width) :
    Twins opcode (left.assign (Layout.gen4.destinationAssignments codes width))
      (right.assign (Layout.gen8.destinationAssignments codes width)) := by
  rw [Layout.destinationAssignments, Layout.destinationAssignments, Encoding.assign_append,
    Encoding.assign_append]
  apply resize
  have inLeft : Apart ((opcodePair :: sharedPairs false).map (·.left)) Layout.gen4.dst.ranges := by
    decide
  have inRight : Apart ((opcodePair :: sharedPairs false).map (·.right))
      Layout.gen8.dst.ranges := by
    decide
  rw [← twoSource] at inLeft inRight
  exact twins.of_apart
    (inLeft.mono (List.Subset.refl _) (Layout.gen4.dst.assignments_subset codes))
    (inRight.mono (List.Subset.refl _) (Layout.gen8.dst.assignments_subset codes))

theorem source (twins : Twins opcode left right) (twoSource : opcode.isThreeSource = false)
    (slot : SourceSlot) (codes : SourceCodes)
    (file : Layout.gen4.src0.file.get (left.assign (Layout.gen4.sourceAssignments slot codes)) =
      Layout.gen8.src0.file.get (right.assign (Layout.gen8.sourceAssignments slot codes))) :
    Twins opcode (left.assign (Layout.gen4.sourceAssignments slot codes))
      (right.assign (Layout.gen8.sourceAssignments slot codes)) := by
  -- Sources leave the header alone, so only the file of src0 has to be compared anew.
  have inLeft := (LayoutKind.gen4.header_agree_source slot codes left).mono
    (show headerPairs.map (·.left) ⊆ Layout.gen4.header.ranges by decide)
  have inRight := (LayoutKind.gen8.header_agree_source slot codes right).mono
    (show headerPairs.map (·.right) ⊆ Layout.gen8.header.ranges by decide)
  have within : headerPairs ⊆ opcodePair :: sharedPairs false := by decide
  have rest : ∀ pair ∈ sharedPairs false, pair ∈ headerPairs ∨ pair = fieldPair (·.src0.file) := by
    decide
  rw [← twoSource] at within rest
  refine twins.of_agree List.mem_cons_self within inLeft inRight fun pair member => ?_
  rcases rest pair member with inHeader | rfl
  · exact Or.inl inHeader
  · exact Or.inr file

end Twins

namespace Instruction

variable {opcode : Opcode} {kinds : List OperandKind} {left right : Encoding}

theorem setDestination_matched (twins : Twins opcode left right)
    (twoSource : opcode.isThreeSource = false) {register : Register}
    (shared : register.SharedAddress) :
    Matched (SideBySide (Alike opcode [.plain .dst])) (setDestination register ⟨.gen7, left⟩)
      (setDestination register ⟨.gen8, right⟩) := by
  have mode := accessMode_of_twins twins
  unfold setDestination
  rw [mode, Register.placed_gen7]
  refine .bind_same _ fun placed isPlaced => .bind_same _ fun codes coded => ?_
  have inLeft := destination_of_coded ⟨.gen7, left⟩ (mode ▸ coded) placed.region.width
  have inRight := destination_of_coded ⟨.gen8, right⟩ coded placed.region.width
  rw [mode] at inLeft
  rw [writeDestination_fitExecSize_eq] at inLeft inRight ⊢
  rw [writeDestination_fitExecSize_eq]
  have same := Register.keptDestination_eq (shared.placed isPlaced) (accessMode ⟨.gen8, right⟩)
  refine .accepted ⟨_, _, rfl, rfl, twins.destination twoSource codes placed.region.width, ?_⟩
  intro kind member
  obtain rfl := List.mem_singleton.mp member
  exact ⟨_, inLeft.trans (congrArg Except.ok same), inRight⟩

theorem src0File_of_source (twins : Twins opcode left right)
    (twoSource : opcode.isThreeSource = false) {slot : SourceSlot} {codes : SourceCodes}
    {register : Register}
    (inLeft : source slot ⟨.gen7, left.assign (Layout.gen4.sourceAssignments slot codes)⟩ =
      .ok register)
    (inRight : source slot ⟨.gen8, right.assign (Layout.gen8.sourceAssignments slot codes)⟩ =
      .ok register) :
    Layout.gen4.src0.file.get (left.assign (Layout.gen4.sourceAssignments slot codes)) =
      Layout.gen8.src0.file.get (right.assign (Layout.gen8.sourceAssignments slot codes)) := by
  cases slot with
  | src0 =>
      -- The file of src0 is that of the register which is read back.
      have atLeft := SourceFields.file_of_decode (LayoutKind.gen4.source_sized .src0) inLeft
      have atRight := SourceFields.file_of_decode (LayoutKind.gen8.source_sized .src0) inRight
      exact atLeft.trans atRight.symm
  | src1 =>
      have kept : ∀ (kind : LayoutKind) (bits : Encoding),
          kind.layout.src0.file.get (bits.assign (kind.layout.sourceAssignments .src1 codes)) =
            kind.layout.src0.file.get bits := by
        intro kind bits
        have apart := kind.src0_apart_src1.mono (List.Subset.refl _)
          (kind.layout.src1Assignments_subset codes)
        exact Encoding.agree_assign apart bits _ kind.layout.src0.file_mem_ranges
      exact (kept .gen4 left).trans ((src0File_of_twins twins twoSource).trans
        (kept .gen8 right).symm)

theorem setSource_matched (alike : Alike opcode kinds left right)
    (twoSource : opcode.isThreeSource = false) (slot : SourceSlot) {register : Register}
    (shared : register.SharedAddress)
    (before : ∀ kind ∈ kinds, ∃ slot', kind = .plain slot' ∧
      (OperandKind.plain slot').column < (OperandKind.plain (.source slot)).column) :
    Matched (SideBySide (Alike opcode (.plain (.source slot) :: kinds)))
      (setSource slot register ⟨.gen7, left⟩) (setSource slot register ⟨.gen8, right⟩) := by
  obtain ⟨twins, decoded⟩ := alike
  have same := judgeSource_of_twins twins twoSource slot register
  unfold setSource
  rw [same]
  refine .bind_same _ fun codes judged => ?_
  have judged' := same.trans judged
  obtain ⟨placed, isPlaced, inLeft⟩ := source_of_judged judged'
  obtain ⟨placed', isPlaced', inRight⟩ := source_of_judged judged
  obtain rfl : placed' = placed :=
    Except.ok.inj (isPlaced'.symm.trans ((register.placed_gen7).symm.trans isPlaced))
  rw [accessMode_of_twins twins, executesOneChannel_of_twins twins] at inLeft
  -- What the two slots keep of the register is the same.
  have keptSame := Register.keptSource_eq (shared.placed isPlaced') (accessMode ⟨.gen8, right⟩)
    (executesOneChannel ⟨.gen8, right⟩)
  have inLeft := inLeft.trans (congrArg Except.ok keptSame)
  have free : checkSlot slot ⟨.gen8, right⟩ = .ok () := by
    obtain ⟨-, -, -, -, -, -, free, -⟩ := (judgeSource_eq_ok_iff _ _ _ _).mp judged
    exact free
  have free' := (checkSlot_of_twins twins twoSource slot).trans free
  have earlier : ∀ kind ∈ kinds, ∃ register,
      operand kind (writeSource slot codes ⟨.gen7, left⟩) = .ok register ∧
        operand kind (writeSource slot codes ⟨.gen8, right⟩) = .ok register := by
    intro kind member
    obtain ⟨register, atLeft, atRight⟩ := decoded kind member
    obtain ⟨slot', rfl, precedes⟩ := before kind member
    exact ⟨register, (operand_writeSource free' precedes).trans atLeft,
      (operand_writeSource free precedes).trans atRight⟩
  rw [writeSource_eq, writeSource_eq] at earlier ⊢
  rw [writeSource_eq] at inLeft inRight
  have file := src0File_of_source twins twoSource inLeft inRight
  refine .accepted ⟨_, _, rfl, rfl, twins.source twoSource slot codes file, ?_⟩
  exact List.forall_mem_cons.mpr ⟨⟨_, inLeft, inRight⟩, earlier⟩

end Instruction

end ExecUnit
