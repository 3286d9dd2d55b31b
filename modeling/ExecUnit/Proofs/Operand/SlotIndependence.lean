import ExecUnit.Proofs.Operand.Acceptance
import ExecUnit.Proofs.Operand.Frame

/-!
Operand slots do not interfere. A setter leaves the operands of the other slots,
the flag register and the message alone, and setters of different slots can be
called in either order: `slots_independent`.

What a setter writes depends on its operand and on the header, never on other
operands. `Steady` says so, and both halves of the law follow from it.
-/

namespace ExecUnit

open Encoding (Agree)

namespace Instruction

variable {gen : Generation}

/-- Calls under the same header that are accepted make the same writes, all of
them within `ranges`. -/
def Steady (gen : Generation) (ranges : List BitRange)
    (call : Instruction → Except Refusal Instruction) : Prop :=
  ∀ left right written written',
    Agree gen.layout.header.ranges left right →
    call ⟨gen, left⟩ = .ok written → call ⟨gen, right⟩ = .ok written' →
    ∃ writes : List Assignment, writes.map (·.range) ⊆ ranges ∧
      written = ⟨gen, left.assign writes⟩ ∧ written' = ⟨gen, right.assign writes⟩

namespace Steady

variable {ranges ranges' : List BitRange} {call call' : Instruction → Except Refusal Instruction}

theorem frame (steady : Steady gen ranges call) {bits : Encoding} {written : Instruction}
    (accepted : call ⟨gen, bits⟩ = .ok written) :
    ∃ after, written = ⟨gen, after⟩ ∧
      ∀ others, Apart others ranges → Agree others after bits := by
  obtain ⟨writes, within, rfl, -⟩ := steady bits bits _ _ (fun _ _ => rfl) accepted accepted
  exact ⟨_, rfl, fun others apart =>
    Encoding.agree_assign (apart.mono (List.Subset.refl _) within) bits⟩

-- Where both orders are accepted, they end in the same bits.
theorem comm (steady : Steady gen ranges call) (steady' : Steady gen ranges' call')
    (apart : Apart ranges ranges') (clear : Apart gen.layout.header.ranges ranges)
    (clear' : Apart gen.layout.header.ranges ranges') {bits : Encoding}
    {one other oneOther otherOne : Instruction}
    (first : call ⟨gen, bits⟩ = .ok one) (second : call' one = .ok oneOther)
    (first' : call' ⟨gen, bits⟩ = .ok other) (second' : call other = .ok otherOne) :
    oneOther = otherOne := by
  obtain ⟨afterOne, rfl, frameOne⟩ := steady.frame first
  obtain ⟨afterOther, rfl, frameOther⟩ := steady'.frame first'
  -- Neither call touches the header, so each repeats its writes after the other.
  obtain ⟨writes, within, isOne, rfl⟩ :=
    steady bits afterOther _ _ (fun range member => (frameOther _ clear' range member).symm)
      first second'
  obtain ⟨writes', within', isOther, rfl⟩ :=
    steady' bits afterOne _ _ (fun range member => (frameOne _ clear range member).symm)
      first' second
  obtain rfl : afterOne = bits.assign writes := congrArg Instruction.bits isOne
  obtain rfl : afterOther = bits.assign writes' := congrArg Instruction.bits isOther
  exact congrArg (Instruction.mk gen) (Encoding.assign_comm (apart.symm.mono within' within) bits)

end Steady

theorem judgeSource_codes_eq {left right : Encoding}
    (agree : Agree gen.layout.header.ranges left right) {slot : SourceSlot} {register : Register}
    {codes codes' : SourceCodes} (judged : judgeSource slot register ⟨gen, left⟩ = .ok codes)
    (judged' : judgeSource slot register ⟨gen, right⟩ = .ok codes') : codes = codes' := by
  obtain ⟨placed, type, place, isPlaced, -, typed, -, formed, rfl⟩ :=
    (judgeSource_eq_ok_iff _ _ _ _).mp judged
  obtain ⟨placed', type', place', isPlaced', -, typed', -, formed', rfl⟩ :=
    (judgeSource_eq_ok_iff _ _ _ _).mp judged'
  -- Besides the register, the access mode and the execution size decide the numbers.
  have mode : accessMode ⟨gen, left⟩ = accessMode ⟨gen, right⟩ :=
    accessMode_of_agree (agree _ gen.layout.header.accessMode_mem_ranges)
  have channels : executesOneChannel ⟨gen, left⟩ = executesOneChannel ⟨gen, right⟩ :=
    executesOneChannel_of_agree (agree _ gen.layout.header.execSize_mem_ranges)
  obtain rfl : placed = placed' := Except.ok.inj (isPlaced.symm.trans isPlaced')
  obtain rfl : type = type' := Except.ok.inj (typed.symm.trans typed')
  rw [mode, channels] at formed
  obtain rfl : place = place' := Except.ok.inj (formed.symm.trans formed')
  rfl

theorem setSource_steady {slot : SourceSlot} {register : Register} {ranges : List BitRange}
    (within : ∀ bits codes, judgeSource slot register ⟨gen, bits⟩ = .ok codes →
      (gen.layout.sourceAssignments slot codes).map (·.range) ⊆ ranges) :
    Steady gen ranges (setSource slot register) := by
  intro left right written written' agree accepted accepted'
  obtain ⟨codes, judged, rfl⟩ := (setSource_eq_ok_iff _ _ _ _).mp accepted
  obtain ⟨codes', judged', rfl⟩ := (setSource_eq_ok_iff _ _ _ _).mp accepted'
  obtain rfl := judgeSource_codes_eq agree judged judged'
  exact ⟨_, within _ _ judged, writeSource_eq _ _ _, writeSource_eq _ _ _⟩

theorem setSource_register_steady (gen : Generation) (slot : SourceSlot) {register : Register}
    (notImmediate : register.isImmediate = false) :
    Steady gen (gen.layout.source slot).ranges (setSource slot register) := by
  apply setSource_steady
  intro bits codes judged
  obtain ⟨placed, type, place, isPlaced, -, -, -, formed, rfl⟩ :=
    (judgeSource_eq_ok_iff _ _ _ _).mp judged
  obtain ⟨rfl, -⟩ := (Register.placed_eq_ok_iff _ _ _).mp isPlaced
  have placedRegister := (Register.withoutMessageFile_isImmediate gen register).trans notImmediate
  exact gen.layout.sourceAssignments_subset_of_register slot
    (Register.sourcePlace_ofRegister placedRegister formed)

theorem setSrc1_steady (gen : Generation) (register : Register) :
    Steady gen (gen.layout.src1.ranges ++ [immediateRange]) (setSource .src1 register) :=
  setSource_steady fun _ codes _ => gen.layout.src1Assignments_subset codes

theorem setDestination_steady {register : Register} {ranges : List BitRange}
    (within : ∀ codes, (gen.layout.destinationAssignments codes register.region.width).map
      (·.range) ⊆ ranges) : Steady gen ranges (setDestination register) := by
  intro left right written written' agree accepted accepted'
  obtain ⟨placed, codes, isPlaced, coded, rfl⟩ := (setDestination_eq_ok_iff _ _ _).mp accepted
  obtain ⟨placed', codes', isPlaced', coded', rfl⟩ :=
    (setDestination_eq_ok_iff _ _ _).mp accepted'
  obtain rfl : placed = placed' := Except.ok.inj (isPlaced.symm.trans isPlaced')
  have mode : accessMode ⟨gen, left⟩ = accessMode ⟨gen, right⟩ :=
    accessMode_of_agree (agree _ gen.layout.header.accessMode_mem_ranges)
  rw [mode] at coded
  obtain rfl : codes = codes' := Except.ok.inj (coded.symm.trans coded')
  obtain ⟨rfl, -⟩ := (Register.placed_eq_ok_iff _ _ _).mp isPlaced
  rw [Register.withoutMessageFile_region]
  exact ⟨_, within codes, writeDestination_fitExecSize_eq _ _ _,
    writeDestination_fitExecSize_eq _ _ _⟩

section Frames

variable {register : Register} {bits : Encoding} {written : Instruction}

theorem source_setDestination (slot : SourceSlot)
    (accepted : setDestination register ⟨gen, bits⟩ = .ok written) :
    written.source slot = source slot ⟨gen, bits⟩ := by
  have steady := setDestination_steady fun codes =>
    gen.layout.destinationAssignments_subset codes register.region.width
  obtain ⟨after, rfl, frame⟩ := steady.frame accepted
  have steering := frame _ gen.layoutKind.steering_apart_dst
  obtain ⟨fields, value⟩ := (Agree.append_iff _ _ _ _).mp
    (frame _ (gen.layoutKind.dst_apart_source slot).symm)
  exact source_of_agree slot (steering _ gen.layout.header.accessMode_mem_steeringRanges) fields
    fun _ => value _ List.mem_cons_self

theorem src1_setSrc0 (notImmediate : register.isImmediate = false)
    (accepted : setSrc0 register ⟨gen, bits⟩ = .ok written) :
    written.src1 = src1 ⟨gen, bits⟩ := by
  obtain ⟨after, rfl, frame⟩ := (setSource_register_steady gen .src0 notImmediate).frame accepted
  have steering := frame _ ((gen.layoutKind.steering_apart_source .src0).mono
    (List.Subset.refl _) (List.subset_append_left _ _))
  obtain ⟨fields, value⟩ := (Agree.append_iff _ _ _ _).mp
    (frame _ gen.layoutKind.src0_apart_src1.symm)
  exact source_of_agree .src1 (steering _ gen.layout.header.accessMode_mem_steeringRanges) fields
    fun _ => value _ List.mem_cons_self

theorem frame_destination (twoSource : isThreeSource ⟨gen, bits⟩ = false)
    (accepted : setDestination register ⟨gen, bits⟩ = .ok written) :
    written.src0 = src0 ⟨gen, bits⟩ ∧ written.src1 = src1 ⟨gen, bits⟩ ∧
      written.flagRegister = flagRegister ⟨gen, bits⟩ ∧
      written.messageDescriptor = messageDescriptor ⟨gen, bits⟩ := by
  have steady := setDestination_steady fun codes =>
    gen.layout.destinationAssignments_subset codes register.region.width
  obtain ⟨after, rfl, frame⟩ := steady.frame accepted
  have steering := frame _ gen.layoutKind.steering_apart_dst
  have descriptor := frame _
    (gen.descriptor_apart.mono (List.Subset.refl _) (List.subset_append_left _ _))
  have unchanged := fun slot => source_setDestination slot accepted
  exact ⟨unchanged .src0, unchanged .src1, flagRegister_of_agree twoSource steering,
    messageDescriptor_of_agree descriptor⟩

theorem frame_src0 (twoSource : isThreeSource ⟨gen, bits⟩ = false)
    (notImmediate : register.isImmediate = false)
    (accepted : setSrc0 register ⟨gen, bits⟩ = .ok written) :
    written.destination = destination ⟨gen, bits⟩ ∧ written.src1 = src1 ⟨gen, bits⟩ ∧
      written.flagRegister = flagRegister ⟨gen, bits⟩ ∧
      written.messageDescriptor = messageDescriptor ⟨gen, bits⟩ := by
  obtain ⟨after, rfl, frame⟩ := (setSource_register_steady gen .src0 notImmediate).frame accepted
  have steering := frame _ ((gen.layoutKind.steering_apart_source .src0).mono
    (List.Subset.refl _) (List.subset_append_left _ _))
  have inDst := frame _ ((gen.layoutKind.dst_apart_source .src0).mono
    (List.subset_cons_self _ _) (List.subset_append_left _ _))
  have descriptor := frame _
    (gen.descriptor_apart.mono (List.Subset.refl _) (List.subset_append_right _ _))
  have mode := steering _ gen.layout.header.accessMode_mem_steeringRanges
  exact ⟨destination_of_agree mode inDst, src1_setSrc0 notImmediate accepted,
    flagRegister_of_agree twoSource steering, messageDescriptor_of_agree descriptor⟩

theorem frame_src1 (twoSource : isThreeSource ⟨gen, bits⟩ = false)
    (accepted : setSrc1 register ⟨gen, bits⟩ = .ok written) :
    written.destination = destination ⟨gen, bits⟩ ∧ written.src0 = src0 ⟨gen, bits⟩ ∧
      written.flagRegister = flagRegister ⟨gen, bits⟩ := by
  -- Word 3 may change, but src1 is only accepted while src0 does not read it.
  obtain ⟨codes, judged, -⟩ := (setSource_eq_ok_iff _ _ _ _).mp accepted
  obtain ⟨-, -, -, -, -, -, free, -, -⟩ := (judgeSource_eq_ok_iff _ _ _ _).mp judged
  have register0 := (checkSlot_src1_eq_ok_iff _).mp free
  obtain ⟨after, rfl, frame⟩ := (setSrc1_steady gen register).frame accepted
  have steering := frame _ (gen.layoutKind.steering_apart_source .src1)
  have inDst := frame _ ((gen.layoutKind.dst_apart_source .src1).mono
    (List.subset_cons_self _ _) (List.Subset.refl _))
  have inSrc0 := frame _ gen.layoutKind.src0_apart_src1
  have mode := steering _ gen.layout.header.accessMode_mem_steeringRanges
  exact ⟨destination_of_agree mode inDst,
    source_of_agree .src0 mode inSrc0 fun immediate => absurd immediate register0,
    flagRegister_of_agree twoSource steering⟩

end Frames

def setOperand (slot : Slot) (register : Register) : Instruction → Except Refusal Instruction :=
  match slot with
  | .dst => setDestination register
  | .source slot => setSource slot register

def setOperands (first second : Slot) (operands : Slot → Register) (instr : Instruction) :
    Except Refusal Instruction := do
  let between ← instr.setOperand first (operands first)
  between.setOperand second (operands second)

theorem setOperand_steady (gen : Generation) {operands : Slot → Register}
    (wide : 8 ≤ (operands .dst).region.width.elements)
    (notImmediate : (operands (.source .src0)).isImmediate = false) (slot : Slot) :
    Steady gen (gen.layout.slotRanges slot) (setOperand slot (operands slot)) := by
  rcases slot with - | slot
  · exact setDestination_steady fun codes =>
      gen.layout.destinationAssignments_subset_of_wide codes wide
  · cases slot with
    | src0 => exact setSource_register_steady gen .src0 notImmediate
    | src1 => exact setSrc1_steady gen _

theorem setOperands_comm {operands : Slot → Register}
    (wide : 8 ≤ (operands .dst).region.width.elements)
    (notImmediate : (operands (.source .src0)).isImmediate = false) (slot slot' : Slot)
    (instr : Instruction) {left right : Instruction}
    (forward : setOperands slot slot' operands instr = .ok left)
    (backward : setOperands slot' slot operands instr = .ok right) : left = right := by
  by_cases same : slot = slot'
  · subst same
    exact Except.ok.inj (forward.symm.trans backward)
  · obtain ⟨one, first, second⟩ := (bind_eq_ok_iff _ _ _).mp forward
    obtain ⟨other, first', second'⟩ := (bind_eq_ok_iff _ _ _).mp backward
    have clear : ∀ slot, Apart instr.gen.layout.header.ranges (instr.gen.layout.slotRanges slot) :=
      fun slot => instr.gen.layoutKind.header_apart_operands.mono (List.Subset.refl _)
        (instr.gen.layout.slotRanges_subset slot)
    exact (setOperand_steady instr.gen wide notImmediate slot).comm
      (setOperand_steady instr.gen wide notImmediate slot') (instr.gen.layoutKind.slots_apart same)
      (clear slot) (clear slot') first second first' second'

/-- The operands of an instruction with up to two sources do not disturb each other, nor
the flag register and the message. An immediate src0 is an exception, because it takes
the room of src1, and so is a narrow destination, which sets the execution size. -/
theorem slots_independent (instr : Instruction) (twoSource : instr.isThreeSource = false) :
    (∀ register written, instr.setDestination register = .ok written →
      written.src0 = instr.src0 ∧ written.src1 = instr.src1 ∧
        written.flagRegister = instr.flagRegister ∧
        written.messageDescriptor = instr.messageDescriptor) ∧
    (∀ register written, register.isImmediate = false → instr.setSrc0 register = .ok written →
      written.destination = instr.destination ∧ written.src1 = instr.src1 ∧
        written.flagRegister = instr.flagRegister ∧
        written.messageDescriptor = instr.messageDescriptor) ∧
    (∀ register written, instr.setSrc1 register = .ok written →
      written.destination = instr.destination ∧ written.src0 = instr.src0 ∧
        written.flagRegister = instr.flagRegister) ∧
    ∀ (operands : Slot → Register) (slot slot' : Slot) left right,
      8 ≤ (operands .dst).region.width.elements →
      (operands (.source .src0)).isImmediate = false →
      setOperands slot slot' operands instr = .ok left →
      setOperands slot' slot operands instr = .ok right → left = right := by
  refine ⟨?_, ?_, ?_, ?_⟩
  · intro register written accepted
    exact frame_destination twoSource accepted
  · intro register written notImmediate accepted
    exact frame_src0 twoSource notImmediate accepted
  · intro register written accepted
    exact frame_src1 twoSource accepted
  · intro operands slot slot' left right wide notImmediate forward backward
    exact setOperands_comm wide notImmediate slot slot' instr forward backward

/-- A Gen7 instruction with every bit set but those that would refuse its operands. -/
def fullGen7 : Instruction :=
  (⟨.gen7, BitVec.allOnes 128⟩ : Instruction)
    |> set Layout.gen4.src0.file (code RegisterFile.general)
    |> setExecSize .e8
    |> setAccessMode .align1

def mixedOperands : Slot → Register
  | .dst => (Register.general 3 0).indirect ⟨2, 77⟩
  | .source .src0 => (Register.general 5 4).negated
  | .source .src1 => Register.immD 7

theorem slots_independent_full :
    (∃ one, fullGen7.setDestination (mixedOperands .dst) = .ok one ∧
      one.src1 = fullGen7.src1 ∧ one.flagRegister = (1, 1)) ∧
    (∃ one, fullGen7.setSrc0 (mixedOperands (.source .src0)) = .ok one ∧
      one.destination = fullGen7.destination) ∧
    (∃ one, fullGen7.setSrc1 (mixedOperands (.source .src1)) = .ok one ∧
      one.src0 = fullGen7.src0) ∧
    ∃ both, setOperands .dst (.source .src1) mixedOperands fullGen7 = .ok both ∧
      setOperands (.source .src1) .dst mixedOperands fullGen7 = .ok both := by
  have law := slots_independent fullGen7 (by decide)
  obtain ⟨afterDst, setDst⟩ : ∃ one, fullGen7.setDestination (mixedOperands .dst) = .ok one :=
    ⟨_, rfl⟩
  obtain ⟨afterSrc0, src0⟩ : ∃ one, fullGen7.setSrc0 (mixedOperands (.source .src0)) = .ok one :=
    ⟨_, rfl⟩
  obtain ⟨afterSrc1, src1⟩ : ∃ one, fullGen7.setSrc1 (mixedOperands (.source .src1)) = .ok one :=
    ⟨_, rfl⟩
  obtain ⟨left, forward⟩ : ∃ both, setOperands .dst (.source .src1) mixedOperands fullGen7 =
      .ok both := ⟨_, rfl⟩
  obtain ⟨right, backward⟩ : ∃ both, setOperands (.source .src1) .dst mixedOperands fullGen7 =
      .ok both := ⟨_, rfl⟩
  obtain ⟨-, inSrc1, flag, -⟩ := law.1 _ _ setDst
  have inDst := (law.2.1 _ _ rfl src0).1
  have inSrc0 := (law.2.2.1 _ _ src1).2.1
  obtain rfl := law.2.2.2 _ _ _ _ _ (by decide) rfl forward backward
  exact ⟨⟨afterDst, setDst, inSrc1, flag⟩, ⟨afterSrc0, src0, inDst⟩, ⟨afterSrc1, src1, inSrc0⟩,
    left, forward, backward⟩

end Instruction

end ExecUnit
