import ExecUnit.Proofs.Layout.Words
import ExecUnit.Proofs.Operand.SlotIndependence

/-!
A message descriptor that was written is read back, and nothing of the message
before it is left: `descriptor_after_set`. Writing starts with a zero immediate
in src1, which clears word 3, and the fields of the descriptor follow.
-/

namespace ExecUnit

/-- What the fields of a descriptor keep of it. The lengths are cut to the room
that they have. -/
def MessageDescriptor.kept (gen : Generation) (descriptor : MessageDescriptor) :
    MessageDescriptor where
  sfid := descriptor.sfid
  length := descriptor.length % 16
  responseLength := descriptor.responseLength % (if gen = .gen4 then 16 else 32)
  headerPresent := gen ≠ .gen4 && descriptor.headerPresent
  endOfThread := descriptor.endOfThread

theorem Sfid.code_lt (sfid : Sfid) : code sfid < 16 := by
  cases sfid <;> decide

namespace MessageFields

def assignments (fields : MessageFields) (descriptor : MessageDescriptor) : List Assignment :=
  [⟨fields.sfid.toBitRange, code descriptor.sfid⟩,
    ⟨fields.length.toBitRange, descriptor.length⟩,
    ⟨fields.responseLength.toBitRange, descriptor.responseLength⟩] ++
    fields.headerPresent.toList.map (⟨·.toBitRange, descriptor.headerPresent.toNat⟩) ++
    [⟨fields.eot.toBitRange, descriptor.endOfThread.toNat⟩]

theorem map_range_assignments (fields : MessageFields) (descriptor : MessageDescriptor) :
    ((fields.assignments descriptor).map (·.range)).Perm fields.descriptorRanges := by
  unfold assignments descriptorRanges
  cases fields.headerPresent with
  | none => exact .refl _
  | some present => exact .cons _ (.cons _ (.cons _ (.swap _ _ _)))

end MessageFields

namespace Layout

def clearingCodes : SourceCodes :=
  ⟨code RegisterFile.immediate, 1, false, false, .immediate 0⟩

def typingAssignments (layout : Layout) : List Assignment :=
  layout.src1.commonAssignments clearingCodes

theorem src1_clearing (layout : Layout) :
    layout.sourceAssignments .src1 clearingCodes =
      layout.typingAssignments ++ [⟨immediateRange, 0⟩] := by
  rw [sourceAssignments]
  exact List.append_nil _

end Layout

def Encoding.described (gen : Generation) (descriptor : MessageDescriptor) (bits : Encoding) :
    Encoding :=
  (bits.assign (gen.layout.sourceAssignments .src1 Layout.clearingCodes)).assign
    (gen.messageFields.assignments descriptor)

namespace Encoding

variable {index : Nat}

theorem getLsbD_cleared (layout : Layout) (bits : Encoding) (index : Nat) :
    (bits.assign (layout.sourceAssignments .src1 Layout.clearingCodes)).getLsbD index =
      if immediateRange.Covers index then false
      else (bits.assign layout.typingAssignments).getLsbD index := by
  rw [Layout.src1_clearing, assign_append]
  refine (BitRange.getLsbD_set _ _ _ _).trans ?_
  rw [Nat.zero_testBit]
  rfl

-- Bits of word 3 are cleared first, so only the descriptor itself can be found there.
theorem getLsbD_described_inside (gen : Generation) (descriptor : MessageDescriptor)
    (bits : Encoding) (inside : immediateRange.Covers index)
    (unused : ∀ range ∈ gen.messageFields.descriptorRanges, ¬range.Covers index) :
    (bits.described gen descriptor).getLsbD index = false := by
  have unwritten : ∀ range ∈ (gen.messageFields.assignments descriptor).map (·.range),
      ¬range.Covers index := by
    intro range member
    exact unused range ((MessageFields.map_range_assignments _ _).mem_iff.mp member)
  rw [described, getLsbD_assign_of_uncovered unwritten, getLsbD_cleared, if_pos inside]

theorem not_covers_of_past {range : BitRange} (past : immediateRange.low ≤ range.low)
    (inside : index < 128) (outside : ¬immediateRange.Covers index) : ¬range.Covers index := by
  intro covered
  exact outside ⟨Nat.le_trans past covered.1, Nat.le_of_lt_succ inside⟩

theorem getLsbD_described_outside (gen : Generation) (descriptor : MessageDescriptor)
    (bits : Encoding) (inside : index < 128) (outside : ¬immediateRange.Covers index)
    (unused : ∀ range ∈ gen.descriptorOutside, ¬range.Covers index) :
    (bits.described gen descriptor).getLsbD index = bits.getLsbD index := by
  -- Every write goes to one of these ranges or to word 3.
  have clear : ∀ range, range ∈ gen.descriptorOutside ∨ immediateRange.low ≤ range.low →
      ¬range.Covers index := by
    rintro range (outer | past)
    · exact unused range outer
    · exact not_covers_of_past past inside outside
  have untyped : ∀ range ∈ gen.layout.typingAssignments.map (·.range), ¬range.Covers index := by
    have signs := gen.descriptor_inside
    simp only [List.forall_mem_cons] at signs
    simp only [Layout.typingAssignments, SourceFields.commonAssignments,
      SourceFields.typeAssignments, SourceFields.signAssignments, List.cons_append,
      List.nil_append, List.map_cons, List.map_nil, List.forall_mem_cons]
    refine ⟨unused _ List.mem_cons_self, unused _ (List.mem_cons_of_mem _ List.mem_cons_self),
      clear _ signs.1, clear _ signs.2.1, List.forall_mem_nil _⟩
  have unwritten : ∀ range ∈ (gen.messageFields.assignments descriptor).map (·.range),
      ¬range.Covers index := by
    intro range member
    have described := (MessageFields.map_range_assignments _ _).mem_iff.mp member
    exact clear _ (gen.descriptor_inside range
      (List.mem_cons_of_mem _ (List.mem_cons_of_mem _ described)))
  rw [described, getLsbD_assign_of_uncovered unwritten, getLsbD_cleared, if_neg outside,
    getLsbD_assign_of_uncovered untyped]

-- What word 3 held before does not matter.
theorem described_congr (gen : Generation) (descriptor : MessageDescriptor) {left right : Encoding}
    (same : ∀ index, ¬immediateRange.Covers index → left.getLsbD index = right.getLsbD index) :
    left.described gen descriptor = right.described gen descriptor := by
  rw [described, described]
  refine congrArg _ (BitVec.eq_of_getLsbD_eq fun index _ => ?_)
  rw [getLsbD_cleared, getLsbD_cleared]
  split
  · rfl
  · next outside => exact getLsbD_assign_congr _ (same index outside)

end Encoding

namespace Instruction

theorem writeDescriptor_eq (descriptor : MessageDescriptor) (instr : Instruction) :
    instr.writeDescriptor descriptor =
      ⟨instr.gen, instr.bits.assign (instr.gen.messageFields.assignments descriptor)⟩ := by
  unfold writeDescriptor MessageFields.assignments
  dsimp only
  cases instr.gen.messageFields.headerPresent <;> rfl

theorem judgeSource_clearing {instr : Instruction} (free : instr.hasImmediateSrc0 = false) :
    instr.judgeSource .src1 (.immD 0) = .ok Layout.clearingCodes := by
  rw [judgeSource_eq_ok_iff]
  refine ⟨.immD 0, 1, .immediate 0, rfl, rfl, rfl, ?_, rfl, rfl⟩
  exact (demand_eq_ok_iff _ _ _).mpr free

theorem setMessageDescriptor_eq (descriptor : MessageDescriptor) {instr : Instruction}
    (free : instr.hasImmediateSrc0 = false) :
    instr.setMessageDescriptor descriptor =
      .ok ⟨instr.gen, instr.bits.described instr.gen descriptor⟩ := by
  have cleared : instr.setSrc1 (.immD 0) =
      .ok (instr.writeSource .src1 Layout.clearingCodes) :=
    (setSource_eq_ok_iff _ _ _ _).mpr ⟨_, judgeSource_clearing free, rfl⟩
  rw [setMessageDescriptor, cleared, writeSource_eq]
  exact congrArg Except.ok (writeDescriptor_eq descriptor _)

theorem messageDescriptor_of_stores {gen : Generation} {bits : Encoding}
    (descriptor : MessageDescriptor)
    (stored : bits.Stores (gen.messageFields.assignments descriptor)) :
    messageDescriptor ⟨gen, bits⟩ = .ok (descriptor.kept gen) := by
  obtain ⟨sfidRoom, lengthRoom, responseRoom, hasHeader⟩ := gen.descriptor_sized
  simp only [MessageFields.assignments, Encoding.stores_append, Encoding.stores_cons] at stored
  obtain ⟨⟨⟨atSfid, atLength, atResponse, -⟩, inHeader⟩, atEot, -⟩ := stored
  rw [sfidRoom, Nat.mod_eq_of_lt (Sfid.code_lt _)] at atSfid
  rw [lengthRoom] at atLength
  rw [responseRoom] at atResponse
  rw [BitRange.toNat_mod_capacity] at atEot
  have eot : isSet gen.messageFields.eot ⟨gen, bits⟩ = descriptor.endOfThread := by
    unfold isSet get
    cases ends : descriptor.endOfThread <;> simp [atEot, ends]
  have header : gen.messageFields.headerPresent.any (isSet · ⟨gen, bits⟩) =
      (gen ≠ .gen4 && descriptor.headerPresent) := by
    rw [← hasHeader]
    cases present : gen.messageFields.headerPresent with
    | none => rfl
    | some field =>
        rw [present] at inHeader
        have atHeader := inHeader _ List.mem_cons_self
        rw [BitRange.toNat_mod_capacity] at atHeader
        simp only [Option.any_some, Option.isSome_some, Bool.true_and]
        unfold isSet get
        cases has : descriptor.headerPresent <;> simp [atHeader, has]
  unfold messageDescriptor get
  dsimp only
  rw [atSfid, decodeCode_code, atLength, atResponse, eot, header]
  rfl

theorem messageDescriptor_described (gen : Generation) (descriptor : MessageDescriptor)
    (bits : Encoding) :
    messageDescriptor ⟨gen, bits.described gen descriptor⟩ = .ok (descriptor.kept gen) := by
  have separate := ((gen.messageFields.map_range_assignments descriptor).pairwise_iff
    BitRange.Disjoint.swap).mpr gen.descriptor_separate
  apply messageDescriptor_of_stores
  rw [Encoding.described]
  exact Encoding.stores_assign (consistent_of_separate separate) _

theorem agree_described {gen : Generation} {others : List BitRange}
    (descriptor : MessageDescriptor) (bits : Encoding)
    (clear : Apart others (gen.layout.src1.ranges ++ [immediateRange]))
    (apart : Apart others gen.messageFields.descriptorRanges) :
    Encoding.Agree others (bits.described gen descriptor) bits := by
  intro range member
  have written := Encoding.agree_assign (apart.mono (List.Subset.refl _)
    (gen.messageFields.map_range_assignments descriptor).subset)
    (bits.assign (gen.layout.sourceAssignments .src1 Layout.clearingCodes)) range member
  have cleared := Encoding.agree_assign (clear.mono (List.Subset.refl _)
    (gen.layout.src1Assignments_subset Layout.clearingCodes)) bits range member
  exact written.trans cleared

theorem operands_described {gen : Generation} (descriptor : MessageDescriptor) {bits : Encoding}
    (free : hasImmediateSrc0 ⟨gen, bits⟩ = false) :
    destination ⟨gen, bits.described gen descriptor⟩ = destination ⟨gen, bits⟩ ∧
      src0 ⟨gen, bits.described gen descriptor⟩ = src0 ⟨gen, bits⟩ := by
  have mode := agree_described descriptor bits
    ((gen.layoutKind.steering_apart_source .src1).mono
      (List.cons_subset.mpr ⟨gen.layout.header.accessMode_mem_steeringRanges, List.nil_subset _⟩)
      (List.Subset.refl _))
    gen.accessMode_apart_descriptor _ List.mem_cons_self
  have inDst := agree_described descriptor bits
    ((gen.layoutKind.dst_apart_source .src1).mono (List.subset_cons_self _ _)
      (List.Subset.refl _))
    (gen.descriptor_apart.symm.mono
      (List.Subset.trans (List.subset_cons_self _ _) (List.subset_append_left _ _))
      (List.Subset.refl _))
  have inSrc0 := agree_described descriptor bits gen.layoutKind.src0_apart_src1
    (gen.descriptor_apart.symm.mono (List.subset_append_right _ _) (List.Subset.refl _))
  have register : ¬gen.layout.src0.file.get bits = code RegisterFile.immediate :=
    of_decide_eq_false free
  exact ⟨destination_of_agree mode inDst,
    source_of_agree .src0 mode inSrc0 fun immediate => absurd immediate register⟩

theorem word_described {gen : Generation} (early : gen.number < 6)
    (descriptor : MessageDescriptor) (bits : Encoding) :
    (bits.described gen descriptor).word 0 = bits.word 0 := by
  -- On the first two generations the shared function is not in the header.
  apply Encoding.word_eq_of_getLsbD
  intro index first
  have past := gen.descriptorOutside_past_header early
  have low : immediateRange.low = 96 := rfl
  apply Encoding.getLsbD_described_outside gen descriptor bits (by omega)
  · intro covered
    have above := covered.1
    omega
  · intro range member covered
    have above := past range member
    have below := covered.1
    omega

/-- A descriptor is accepted wherever src1 is free, and then it is read back. In word 3
nothing else is left, and outside of it only src1's file and type and the shared function
may change. So words that differ in word 3 alone become the same. -/
theorem descriptor_after_set (descriptor : MessageDescriptor) (instr : Instruction)
    (free : instr.hasImmediateSrc0 = false) :
    ∃ written, instr.setMessageDescriptor descriptor = .ok written ∧ written.gen = instr.gen ∧
      written.messageDescriptor = .ok (descriptor.kept instr.gen) ∧
      (∀ index, immediateRange.Covers index →
        (∀ range ∈ instr.gen.messageFields.descriptorRanges, ¬range.Covers index) →
        written.bits.getLsbD index = false) ∧
      (∀ index < 128, ¬immediateRange.Covers index →
        (∀ range ∈ instr.gen.descriptorOutside, ¬range.Covers index) →
        written.bits.getLsbD index = instr.bits.getLsbD index) ∧
      written.destination = instr.destination ∧ written.src0 = instr.src0 ∧
      (instr.gen.number < 6 → written.bits.word 0 = instr.bits.word 0) ∧
      ∀ other : Encoding, (∀ index < 3, other.word index = instr.bits.word index) →
        setMessageDescriptor descriptor ⟨instr.gen, other⟩ = .ok written := by
  obtain ⟨gen, bits⟩ := instr
  obtain ⟨inDst, inSrc0⟩ := operands_described descriptor free
  refine ⟨_, setMessageDescriptor_eq descriptor free, rfl,
    messageDescriptor_described gen descriptor bits, ?_, ?_, inDst, inSrc0, ?_, ?_⟩
  · intro index inside unused
    exact Encoding.getLsbD_described_inside gen descriptor bits inside unused
  · intro index inside outside unused
    exact Encoding.getLsbD_described_outside gen descriptor bits inside outside unused
  · intro early
    exact word_described early descriptor bits
  · intro other same
    have elsewhere : ∀ index, ¬immediateRange.Covers index →
        other.getLsbD index = bits.getLsbD index := by
      intro index outside
      by_cases inside : index < 128
      · have early : index / 32 < 3 := by
          simp only [BitRange.Covers, immediateRange, BitRange.span] at outside
          omega
        exact Encoding.getLsbD_of_word (same _ early)
      · rw [BitVec.getLsbD_of_ge _ _ (Nat.le_of_not_lt inside),
          BitVec.getLsbD_of_ge _ _ (Nat.le_of_not_lt inside)]
    -- No layout has src0's file in word 3, so the other instruction accepts as well.
    have free' : hasImmediateSrc0 ⟨gen, other⟩ = false := by
      have file : (gen.layout.src0.file).low / 32 < 3 := by cases gen <;> decide
      have sameFile := gen.layout.src0.file.get_of_word (same _ file)
      exact (congrArg (fun number => decide (number = code RegisterFile.immediate))
        sameFile).trans free
    rw [setMessageDescriptor_eq descriptor free', Encoding.described_congr gen descriptor elsewhere]

def fullGen5 : Instruction :=
  (⟨.gen5, BitVec.allOnes 128⟩ : Instruction)
    |> set Layout.gen4.src0.file (code RegisterFile.general)

/-- Lengths of 19 and 35 do not fit. Bit 111 held function control, bit 90 holds a flag
register, and the other instruction has an empty word 3. -/
theorem descriptor_after_set_full :
    ∃ written, fullGen5.setMessageDescriptor ⟨.urb, 19, 35, true, false⟩ = .ok written ∧
      written.messageDescriptor = .ok ⟨.urb, 3, 3, true, false⟩ ∧
      written.bits.getLsbD 111 = false ∧ written.bits.getLsbD 90 = true ∧
      written.bits.word 0 = fullGen5.bits.word 0 ∧
      setMessageDescriptor ⟨.urb, 19, 35, true, false⟩
        ⟨.gen5, immediateRange.set 0 fullGen5.bits⟩ = .ok written := by
  obtain ⟨written, accepted, -, read, inside, outside, -, -, header, other⟩ :=
    descriptor_after_set ⟨.urb, 19, 35, true, false⟩ fullGen5 (by decide)
  refine ⟨written, accepted, read, inside 111 (by decide) (by decide), ?_, header (by decide),
    other _ (by decide)⟩
  exact (outside 90 (by decide) (by decide) (by decide)).trans (by decide)

end Instruction

end ExecUnit
