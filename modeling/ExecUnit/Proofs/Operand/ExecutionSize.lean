import ExecUnit.Proofs.Operand.LegalRegions

/-!
The execution size that a destination leaves: `execSize_after_destination`. A destination of
fewer than eight elements sets it to its width, so it can also grow. Besides that, a destination
changes none but its own fields.
-/

namespace ExecUnit

theorem Width.channels_execSize (width : Width) : width.execSize.channels = width.elements := by
  cases width <;> rfl

/-- The channels that remain where a destination of so many elements takes away those that it
has no room for. -/
def ExecSize.reduced (elements : Nat) (size : ExecSize) : Nat :=
  if elements < 8 then min size.channels elements else size.channels

theorem ExecSize.channels_fitted (register : Register) (size : ExecSize) :
    (size.fitted .dst register).channels =
      if register.region.width.elements < 8 then register.region.width.elements
      else size.channels := by
  rw [fitted]
  split
  · exact Width.channels_execSize _
  · rfl

theorem ExecSize.channels_fitted_eq_reduced_iff (register : Register) (size : ExecSize) :
    let elements := register.region.width.elements
    (size.fitted .dst register).channels = size.reduced elements ↔
      ¬(size.channels < elements ∧ elements < 8) := by
  intro elements
  rw [channels_fitted, reduced]
  by_cases narrow : elements < 8
  · rw [if_pos narrow, if_pos narrow]
    omega
  · rw [if_neg narrow, if_neg narrow]
    simp [narrow]

namespace Instruction

variable {register : Register} {instr written : Instruction}

theorem getLsbD_setDestination {index : Nat}
    (accepted : instr.setDestination register = .ok written)
    (outside : ∀ range ∈ instr.layout.dst.ranges, ¬range.Covers index)
    (unsized : 8 ≤ register.region.width.elements ∨ ¬instr.layout.header.execSize.Covers index) :
    written.bits.getLsbD index = instr.bits.getLsbD index := by
  obtain ⟨placed, codes, isPlaced, -, rfl⟩ := (setDestination_eq_ok_iff _ _ _).mp accepted
  obtain ⟨rfl, -⟩ := (Register.placed_eq_ok_iff _ _ _).mp isPlaced
  rw [Register.withoutMessageFile_region, writeDestination_fitExecSize_eq]
  apply Encoding.getLsbD_assign_of_uncovered
  intro range assigned
  rcases unsized with wide | besideSize
  · exact outside range (instr.layout.destinationAssignments_subset_of_wide codes wide assigned)
  · rcases List.mem_cons.mp (instr.layout.destinationAssignments_subset codes _ assigned) with
      rfl | inDestination
    · exact besideSize
    · exact outside range inDestination

/-- A destination of fewer than eight elements makes the execution size its width. That is the
smaller one of the two unless the execution size was below such a width before. Beside the
execution size, and beside the fields of the destination, no bit changes. -/
theorem execSize_after_destination (register : Register) (instr written : Instruction)
    (size : ExecSize) (sized : instr.execSize = .ok size)
    (accepted : instr.setDestination register = .ok written) :
    let elements := register.region.width.elements
    (∃ after, written.execSize = .ok after ∧
      after.channels = (if elements < 8 then elements else size.channels) ∧
      (after.channels = size.reduced elements ↔ ¬(size.channels < elements ∧ elements < 8))) ∧
    ∀ index, (∀ range ∈ instr.layout.dst.ranges, ¬range.Covers index) →
      8 ≤ elements ∨ ¬instr.layout.header.execSize.Covers index →
      written.bits.getLsbD index = instr.bits.getLsbD index := by
  have asOperand : instr.setOperand .dst register = .ok written := accepted
  have after : written.execSize = .ok (size.fitted .dst register) :=
    execSize_setOperand sized asOperand
  exact ⟨⟨_, after, ExecSize.channels_fitted register size,
    ExecSize.channels_fitted_eq_reduced_iff register size⟩,
    fun _ outside unsized => getLsbD_setDestination accepted outside unsized⟩

/-- Eight channels become four. The opcode is left as it was. -/
theorem execSize_after_destination_four :
    ∃ written after, moveEight.setDestination ((Register.general 2 0).vector .w4) = .ok written ∧
      written.execSize = .ok after ∧ after.channels = ExecSize.e8.reduced 4 ∧
      ∀ index < 7, written.bits.getLsbD index = moveEight.bits.getLsbD index := by
  obtain ⟨written, accepted⟩ : ∃ written,
      moveEight.setDestination ((Register.general 2 0).vector .w4) = .ok written := ⟨_, rfl⟩
  obtain ⟨⟨after, sized, -, reduced⟩, kept⟩ :=
    execSize_after_destination _ moveEight written .e8 rfl accepted
  refine ⟨written, after, accepted, sized, reduced.mpr (by decide), fun index inOpcode => ?_⟩
  apply kept index
  · revert index
    decide
  · exact Or.inr (by revert index; decide)

/-- The execution size does not only shrink: a destination of four elements makes four channels
of a single one. -/
theorem narrow_destination_adds_channels :
    ¬∀ (register : Register) (instr written : Instruction) (size : ExecSize),
      instr.execSize = .ok size → instr.setDestination register = .ok written →
      ∃ after, written.execSize = .ok after ∧
        after.channels = size.reduced register.region.width.elements := by
  intro claim
  obtain ⟨after, sized, reduced⟩ :=
    claim ((Register.general 2 0).vector .w4) ⟨.gen8, 0⟩ _ .e1 rfl rfl
  obtain rfl : after = .e4 := Except.ok.inj (sized.symm.trans rfl)
  exact absurd reduced (by decide)

end Instruction

end ExecUnit
