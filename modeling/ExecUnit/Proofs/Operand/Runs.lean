import ExecUnit.Proofs.Listing.Operands
import ExecUnit.Proofs.Operand.SlotIndependence

/-!
Operands set one after another. A call leaves the operands of the other slots as they
are, except that an immediate src0 makes src1 an architecture register
(`operand_setOperand`). Of the header it can change the execution size alone
(`header_setOperand`, `execSize_setOperand`). Runs of calls inherit all of it.
-/

namespace ExecUnit

open Encoding (Agree)

/-- The execution size after the operand of a slot was set. Narrow destinations set it. -/
def ExecSize.fitted (slot : Slot) (register : Register) (size : ExecSize) : ExecSize :=
  match slot with
  | .dst => if register.region.width.elements < 8 then register.region.width.execSize else size
  | .source _ => size

def ExecSize.fittedAll (operands : List (Slot × Register)) (size : ExecSize) : ExecSize :=
  operands.foldl (fun size operand => size.fitted operand.1 operand.2) size

theorem Width.code_execSize (width : Width) : code width.execSize = code width := by
  cases width <;> rfl

theorem Width.code_lt_iff (width : Width) :
    code width < code ExecSize.e8 ↔ width.elements < 8 := by
  cases width <;> decide

theorem LayoutKind.execSize_capacity (kind : LayoutKind) :
    kind.layout.header.execSize.capacity = 8 := by
  cases kind <;> decide

namespace Instruction

def setSlots (operands : List (Slot × Register)) (instr : Instruction) :
    Except Refusal Instruction :=
  operands.foldlM (fun instr operand => instr.setOperand operand.1 operand.2) instr

section Steps

variable {gen : Generation} {bits : Encoding} {slot : Slot} {register : Register}
  {written : Instruction}

theorem header_setOperand (accepted : setOperand slot register ⟨gen, bits⟩ = .ok written) :
    ∃ after, written = ⟨gen, after⟩ ∧ Agree gen.layout.header.steeringRanges after bits := by
  rcases slot with - | slot
  · obtain ⟨placed, codes, -, -, rfl⟩ := (setDestination_eq_ok_iff _ _ _).mp accepted
    exact ⟨_, writeDestination_fitExecSize_eq _ _ _,
      gen.layoutKind.header_agree_destination codes placed.region.width bits⟩
  · obtain ⟨codes, -, rfl⟩ := (setSource_eq_ok_iff _ _ _ _).mp accepted
    exact ⟨_, writeSource_eq _ _ _, (gen.layoutKind.header_agree_source slot codes bits).mono
      gen.layout.header.steeringRanges_subset⟩

theorem execSize_of_agree {left right : Encoding}
    (agree : gen.layout.header.execSize.get left = gen.layout.header.execSize.get right) :
    execSize ⟨gen, left⟩ = execSize ⟨gen, right⟩ :=
  congrArg (decodeCode gen.layout.header.execSize) agree

theorem execSize_fitExecSize (width : Width) {size : ExecSize} {instr : Instruction}
    (sized : instr.execSize = .ok size) :
    (instr.fitExecSize width).execSize =
      .ok (if width.elements < 8 then width.execSize else size) := by
  unfold fitExecSize
  by_cases narrow : width.elements < 8
  · have low := (Width.code_lt_iff width).mpr narrow
    have fits : code width < instr.layout.header.execSize.capacity :=
      instr.gen.layoutKind.execSize_capacity.symm ▸ Nat.lt_trans low (by decide)
    have held : (instr.set instr.layout.header.execSize (code width)).get
        instr.layout.header.execSize = code width.execSize :=
      (BitRange.get_set _ _ _).trans ((Nat.mod_eq_of_lt fits).trans width.code_execSize.symm)
    rw [if_pos narrow, if_pos low]
    exact (decodeCode_eq_ok_iff _ _ _).mpr held.symm
  · rw [if_neg narrow, if_neg (fun low => narrow ((Width.code_lt_iff width).mp low)), sized]

theorem execSize_setOperand {instr : Instruction} {size : ExecSize}
    (sized : instr.execSize = .ok size)
    (accepted : instr.setOperand slot register = .ok written) :
    written.execSize = .ok (size.fitted slot register) := by
  rcases slot with - | slot
  · obtain ⟨placed, codes, isPlaced, -, rfl⟩ := (setDestination_eq_ok_iff _ _ _).mp accepted
    obtain ⟨rfl, -⟩ := (Register.placed_eq_ok_iff _ _ _).mp isPlaced
    have kept : (instr.writeDestination codes).execSize = instr.execSize := by
      have apart := instr.gen.layoutKind.header_apart_operands.mono (List.Subset.refl _)
        (List.Subset.trans (instr.layout.dst.assignments_subset codes)
          instr.layout.dst_ranges_subset)
      rw [writeDestination, DestinationFields.write_eq_assign]
      exact execSize_of_agree (Encoding.agree_assign apart instr.bits _
        instr.layout.header.execSize_mem_ranges)
    rw [Register.withoutMessageFile_region]
    exact execSize_fitExecSize register.region.width (kept.trans sized)
  · obtain ⟨codes, -, rfl⟩ := (setSource_eq_ok_iff _ _ _ _).mp accepted
    rw [writeSource_eq]
    exact (execSize_of_agree (instr.gen.layoutKind.header_agree_source slot codes instr.bits _
      instr.layout.header.execSize_mem_ranges)).trans sized

theorem operand_writeSource {slot : SourceSlot} {codes : SourceCodes}
    (free : checkSlot slot ⟨gen, bits⟩ = .ok ()) {slot' : Slot}
    (before : (OperandKind.plain slot').column < (OperandKind.plain (.source slot)).column) :
    operand (.plain slot') (writeSource slot codes ⟨gen, bits⟩) =
      operand (.plain slot') ⟨gen, bits⟩ := by
  have mode := gen.layoutKind.header_agree_source slot codes bits _
    gen.layout.header.accessMode_mem_ranges
  rw [writeSource_eq]
  rcases slot' with - | slot'
  · exact destination_of_agree mode (gen.layoutKind.dst_agree_source slot codes bits)
  · obtain ⟨rfl, rfl⟩ : slot' = .src0 ∧ slot = .src1 := by
      revert before
      cases slot <;> cases slot' <;> decide
    -- Word 3 is written, but src1 is only accepted while src0 does not read it.
    have register0 := (checkSlot_src1_eq_ok_iff _).mp free
    have apart := gen.layoutKind.src0_apart_src1.mono (List.Subset.refl _)
      (gen.layout.src1Assignments_subset codes)
    exact source_of_agree .src0 mode (Encoding.agree_assign apart bits)
      fun immediate => absurd immediate register0

def HasArchitectureSrc1 (instr : Instruction) : Prop :=
  ∀ register, instr.src1 = .ok register → register.file = .architecture

theorem hasArchitectureSrc1_writeSource {codes : SourceCodes} {value : Word}
    (place : codes.place = .immediate value) (instr : Instruction) :
    HasArchitectureSrc1 (instr.writeSource .src0 codes) := by
  intro read decoded
  have sized := instr.gen.layoutKind.source_sized .src1
  have apart : instr.layout.src1.file.toBitRange.Disjoint instr.layout.src1.type.toBitRange :=
    List.rel_of_pairwise_cons (instr.gen.layoutKind.source_separated .src1).align1
      List.mem_cons_self
  have room : instr.layout.src1.file.capacity = 4 := sized.file
  have held : instr.layout.src1.file.get (instr.writeSource .src0 codes).bits =
      code RegisterFile.architecture := by
    simp only [writeSource, alignSrc1, place]
    exact (BitRange.get_set_of_disjoint apart _ _).trans
      ((BitRange.get_set _ _ _).trans (room ▸ rfl))
  have unmoved : (instr.writeSource .src0 codes).gen = instr.gen := by
    rw [writeSource_eq]
  have file : (instr.writeSource .src0 codes).layout.src1.file.get
      (instr.writeSource .src0 codes).bits = code read.file :=
    SourceFields.file_of_decode
      ((instr.writeSource .src0 codes).gen.layoutKind.source_sized .src1) decoded
  rw [layout, unmoved] at file
  exact Coded.code_injective (file.symm.trans held)

theorem operand_setOperand {other : Slot} (different : slot ≠ other)
    (accepted : setOperand slot register ⟨gen, bits⟩ = .ok written) :
    written.operand (.plain other) = operand (.plain other) ⟨gen, bits⟩ ∨
      other = .source .src1 ∧ slot = .source .src0 ∧ register.isImmediate = true ∧
        written.HasArchitectureSrc1 := by
  rcases slot with - | slot
  · rcases other with - | other
    · exact absurd rfl different
    · exact Or.inl (source_setDestination other accepted)
  · obtain ⟨codes, judged, isWritten⟩ := (setSource_eq_ok_iff _ _ _ _).mp accepted
    obtain ⟨placed, type, place, isPlaced, -, -, free, formed, isCodes⟩ :=
      (judgeSource_eq_ok_iff _ _ _ _).mp judged
    by_cases before :
        (OperandKind.plain other).column < (OperandKind.plain (.source slot)).column
    · exact Or.inl (isWritten ▸ operand_writeSource free before)
    · -- What comes after a source can only be src1 after src0.
      obtain ⟨rfl, rfl⟩ : slot = .src0 ∧ other = .source .src1 := by
        revert before different
        rcases other with - | other
        · cases slot <;> decide
        · cases slot <;> cases other <;> decide
      obtain ⟨rfl, -⟩ := (Register.placed_eq_ok_iff _ _ _).mp isPlaced
      cases immediate : register.isImmediate with
      | false => exact Or.inl (src1_setSrc0 immediate accepted)
      | true =>
          have placedImmediate :=
            (Register.withoutMessageFile_isImmediate gen register).trans immediate
          have value : place = .immediate (register.withoutMessageFile gen).immediate := by
            simpa only [Register.sourcePlace, placedImmediate, ↓reduceIte, Except.ok.injEq,
              eq_comm] using formed
          have stored : codes.place = .immediate (register.withoutMessageFile gen).immediate :=
            (congrArg SourceCodes.place isCodes).trans value
          exact Or.inr ⟨rfl, rfl, rfl, isWritten ▸ hasArchitectureSrc1_writeSource stored _⟩

end Steps

section Runs

variable {operands : List (Slot × Register)} {instr done : Instruction}

theorem setSlots_nil_eq_ok_iff : instr.setSlots [] = .ok done ↔ done = instr :=
  pure_eq_ok_iff _ _

theorem setSlots_cons_eq_ok_iff {slot : Slot} {register : Register} :
    instr.setSlots ((slot, register) :: operands) = .ok done ↔
      ∃ next, instr.setOperand slot register = .ok next ∧ next.setSlots operands = .ok done :=
  bind_eq_ok_iff _ _ _

theorem setSlots_append_eq_ok_iff {before after : List (Slot × Register)} :
    instr.setSlots (before ++ after) = .ok done ↔
      ∃ middle, instr.setSlots before = .ok middle ∧ middle.setSlots after = .ok done := by
  rw [setSlots, List.foldlM_append, bind_eq_ok_iff]
  rfl

theorem header_setSlots (accepted : instr.setSlots operands = .ok done) :
    ∃ after, done = ⟨instr.gen, after⟩ ∧
      Agree instr.gen.layout.header.steeringRanges after instr.bits := by
  induction operands generalizing instr with
  | nil => exact ⟨_, setSlots_nil_eq_ok_iff.mp accepted, fun _ _ => rfl⟩
  | cons operand rest ih =>
      obtain ⟨next, first, others⟩ := setSlots_cons_eq_ok_iff.mp accepted
      obtain ⟨between, rfl, agree⟩ := header_setOperand first
      obtain ⟨after, rfl, agree'⟩ := ih others
      exact ⟨after, rfl, fun range member =>
        (agree' range member).trans (agree range member)⟩

theorem execSize_setSlots {size : ExecSize} (sized : instr.execSize = .ok size)
    (accepted : instr.setSlots operands = .ok done) :
    done.execSize = .ok (size.fittedAll operands) := by
  induction operands generalizing instr size with
  | nil => exact setSlots_nil_eq_ok_iff.mp accepted ▸ sized
  | cons operand rest ih =>
      obtain ⟨next, first, others⟩ := setSlots_cons_eq_ok_iff.mp accepted
      exact ih (execSize_setOperand sized first) others

/-- An operand lasts through the calls of other slots, unless it is src1 and one of them
gives an immediate to src0. -/
theorem operand_setSlots {other : Slot} (untouched : ∀ operand ∈ operands, operand.1 ≠ other)
    (accepted : instr.setSlots operands = .ok done) :
    done.operand (.plain other) = instr.operand (.plain other) ∨
      other = .source .src1 ∧ (∃ operand ∈ operands, operand.2.isImmediate = true) ∧
        done.HasArchitectureSrc1 := by
  induction operands generalizing instr with
  | nil => exact Or.inl (setSlots_nil_eq_ok_iff.mp accepted ▸ rfl)
  | cons operand rest ih =>
      obtain ⟨next, first, others⟩ := setSlots_cons_eq_ok_iff.mp accepted
      obtain ⟨apart, apartRest⟩ := List.forall_mem_cons.mp untouched
      rcases ih apartRest others with kept | ⟨rfl, ⟨later, member, immediate⟩, taken⟩
      · rcases operand_setOperand apart first with same | ⟨rfl, -, immediate, taken⟩
        · exact Or.inl (kept.trans same)
        · refine Or.inr ⟨rfl, ⟨operand, List.mem_cons_self, immediate⟩, ?_⟩
          exact fun read decoded => taken read (kept.symm.trans decoded)
      · exact Or.inr ⟨rfl, ⟨later, List.mem_cons_of_mem _ member, immediate⟩, taken⟩

end Runs

end Instruction

end ExecUnit
