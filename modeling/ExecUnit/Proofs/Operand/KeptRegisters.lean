import ExecUnit.Proofs.Operand.Decoding
import ExecUnit.Proofs.Operand.DestinationRoundTrip
import ExecUnit.Proofs.Operand.SourceRoundTrip

/-!
What a slot keeps of a register is a register that the slot keeps whole. It has its place
on the generation, its type has a number, and it takes the numbers that the slot holds
(`destinationCodes_kept`, `sourcePlace_keptSource`).
-/

namespace ExecUnit.Register

theorem placed_of_le {gen : Generation} {register placed kept : Register}
    (isPlaced : register.placed gen = .ok placed) (file : kept.file = placed.file)
    (number : kept.number ≤ placed.number) : kept.placed gen = .ok kept := by
  obtain ⟨moved, present⟩ := (placed_eq_ok_iff _ _ _).mp isPlaced
  -- Placing leaves nothing in the message file where there is none, so nothing moves again.
  have settled : ¬(placed.file = .message ∧ gen.hasMessageFile = false) := by
    rw [moved]
    unfold withoutMessageFile
    split
    · nofun
    · assumption
  have unmoved : kept.withoutMessageFile gen = kept := if_neg (file ▸ settled)
  refine (placed_eq_ok_iff _ _ _).mpr ⟨unmoved.symm, ?_⟩
  unfold checkNumber at present ⊢
  rw [file]
  cases found : placed.file with
  | general | message =>
      rw [found] at present
      have below := (demand_eq_ok_iff _ _ _).mp present
      exact (demand_eq_ok_iff _ _ _).mpr (Nat.lt_of_le_of_lt number below)
  | architecture | immediate => rfl

section Destinations

variable {registers : Nat} {mode : AccessMode} {register : Register}

theorem keptDestination_outline :
    (register.keptDestination registers mode).file = register.file ∧
      (register.keptDestination registers mode).type = register.type ∧
      (register.keptDestination registers mode).region.width = .w1 ∧
      (register.keptDestination registers mode).number ≤ register.number := by
  unfold keptDestination
  dsimp only
  split
  · exact ⟨rfl, rfl, rfl, Nat.zero_le _⟩
  · exact ⟨rfl, rfl, rfl, Nat.mod_le _ _⟩
  · exact ⟨rfl, rfl, rfl, Nat.mod_le _ _⟩

theorem keptDestination_typeNumber :
    (register.keptDestination registers mode).typeNumber = register.typeNumber := by
  obtain ⟨file, type, -⟩ := keptDestination_outline
  rw [typeNumber, typeNumber, type, file]

theorem keptDestination_placed {gen : Generation} {placed : Register}
    (isPlaced : register.placed gen = .ok placed) :
    (placed.keptDestination registers mode).placed gen =
      .ok (placed.keptDestination registers mode) := by
  obtain ⟨file, -, -, number⟩ := keptDestination_outline
  exact placed_of_le isPlaced file number

theorem keptDestination_stride :
    (register.keptDestination registers .align1).destinationStride =
      (register.keptDestination registers .align1).region.hstride := by
  unfold keptDestination destinationStride
  dsimp only
  cases register.addressing <;> cases register.region.hstride <;> rfl

theorem destinationPlace_held_align1
    (stride : register.destinationStride = register.region.hstride) :
    register.destinationPlace .align1 = .ok (register.heldDestination .align1).place := by
  unfold destinationPlace heldDestination
  rw [stride]
  cases register.addressing <;> rfl

theorem destinationPlace_kept {place : DestinationPlace}
    (formed : register.destinationPlace mode = .ok place) :
    (register.keptDestination registers mode).destinationPlace mode =
      .ok ((register.keptDestination registers mode).heldDestination mode).place := by
  rcases (destinationPlace_eq_ok_iff _ _ _).mp formed with ⟨rfl, -⟩ | ⟨rfl, -⟩ |
    ⟨rfl, direct, aligned, -⟩
  · exact destinationPlace_held_align1 keptDestination_stride
  · exact destinationPlace_held_align1 keptDestination_stride
  · simp only [keptDestination, direct, heldDestination, plain]
    exact (destinationPlace_eq_ok_iff _ _ _).mpr (Or.inr (Or.inr ⟨rfl, rfl, aligned, rfl⟩))

theorem destinationCodes_kept {codes : DestinationCodes}
    (coded : register.destinationCodes mode = .ok codes) :
    (register.keptDestination registers mode).destinationCodes mode =
      .ok ((register.keptDestination registers mode).heldDestination mode) := by
  obtain ⟨type, place, typed, formed, -⟩ := (destinationCodes_eq_ok_iff _ _ _).mp coded
  have keptTyped : (register.keptDestination registers mode).typeNumber = .ok type :=
    keptDestination_typeNumber.trans typed
  refine (destinationCodes_eq_ok_iff _ _ _).mpr
    ⟨type, _, keptTyped, destinationPlace_kept formed, ?_⟩
  simp only [heldDestination, (typeNumber_eq_ok_iff _ _).mp keptTyped, Option.getD_some]

end Destinations

section Sources

variable {registers : Nat} {mode : AccessMode} {oneChannel : Bool} {register : Register}

theorem keptSource_outline :
    (register.keptSource registers mode oneChannel).file = register.file ∧
      (register.keptSource registers mode oneChannel).type = register.type ∧
      (register.keptSource registers mode oneChannel).number ≤ register.number := by
  unfold keptSource
  by_cases immediate : register.file = .immediate
  · rw [if_pos immediate]
    exact ⟨immediate.symm, rfl, Nat.zero_le _⟩
  · rw [if_neg immediate]
    dsimp only
    split
    · exact ⟨rfl, rfl, Nat.zero_le _⟩
    · exact ⟨rfl, rfl, Nat.mod_le _ _⟩
    · exact ⟨rfl, rfl, Nat.mod_le _ _⟩

theorem keptSource_file : (register.keptSource registers mode oneChannel).file = register.file :=
  keptSource_outline.1

theorem keptSource_typeNumber :
    (register.keptSource registers mode oneChannel).typeNumber = register.typeNumber := by
  obtain ⟨file, type, -⟩ := keptSource_outline
  rw [typeNumber, typeNumber, type, file]

theorem keptSource_placed {gen : Generation} {placed : Register}
    (isPlaced : register.placed gen = .ok placed) :
    (placed.keptSource registers mode oneChannel).placed gen =
      .ok (placed.keptSource registers mode oneChannel) := by
  obtain ⟨file, -, number⟩ := keptSource_outline
  exact placed_of_le isPlaced file number

theorem keptSource_align1_region (notImmediate : register.file ≠ .immediate) :
    (register.keptSource registers .align1 oneChannel).region =
      register.sourceRegion oneChannel := by
  unfold keptSource
  rw [if_neg notImmediate]
  dsimp only
  cases register.addressing <;> rfl

theorem keptSource_align16 (notImmediate : register.file ≠ .immediate)
    (direct : register.addressing = .direct) :
    (register.keptSource registers .align16 oneChannel).addressing = .direct ∧
      (register.keptSource registers .align16 oneChannel).offset = register.offset ∧
      (register.keptSource registers .align16 oneChannel).region =
        ⟨align16Stride register.region.vstride, .w4, .s1⟩ := by
  unfold keptSource
  rw [if_neg notImmediate, direct, align16Stride_eq]
  exact ⟨rfl, rfl, rfl⟩

theorem sourceRegion_keptSource (notImmediate : register.file ≠ .immediate) :
    (register.keptSource registers .align1 oneChannel).sourceRegion oneChannel =
      (register.keptSource registers .align1 oneChannel).region := by
  rw [sourceRegion_eq, keptSource_align1_region notImmediate, sourceRegion_eq]
  by_cases single : register.region.width = .w1 ∧ oneChannel = true
  · rw [if_pos single, if_pos ⟨rfl, single.2⟩]
  · rw [if_neg single, if_neg single]

theorem align16Stride_idem (vstride : VerticalStride) :
    align16Stride (align16Stride vstride) = align16Stride vstride := by
  cases vstride <;> rfl

theorem sourcePlace_held_immediate (immediate : register.file = .immediate) :
    register.sourcePlace mode oneChannel = .ok (register.heldSource mode).place := by
  have isImmediate : register.isImmediate = true := decide_eq_true immediate
  unfold sourcePlace heldSource
  rw [if_pos isImmediate]
  exact congrArg Except.ok (if_pos immediate).symm

theorem sourcePlace_held_align1 (notImmediate : register.file ≠ .immediate)
    (region : register.sourceRegion oneChannel = register.region) :
    register.sourcePlace .align1 oneChannel = .ok (register.heldSource .align1).place := by
  have isRegister : ¬register.isImmediate = true := mt of_decide_eq_true notImmediate
  unfold sourcePlace heldSource
  rw [if_neg isRegister, region]
  dsimp only
  rw [if_neg notImmediate]
  cases register.addressing <;> rfl

theorem sourcePlace_held_align16 (notImmediate : register.file ≠ .immediate)
    (direct : register.addressing = .direct) (aligned : register.offset = 0 ∨ register.offset = 16)
    (stride : align16Stride register.region.vstride = register.region.vstride) :
    register.sourcePlace .align16 oneChannel = .ok (register.heldSource .align16).place := by
  refine (sourcePlace_eq_ok_iff _ _ _ _).mpr
    (Or.inr (Or.inr (Or.inr ⟨decide_eq_false notImmediate, rfl, direct, aligned, ?_⟩)))
  unfold heldSource
  dsimp only
  rw [if_neg notImmediate, direct, stride]

theorem direct_of_align16 {place : SourcePlace} (notImmediate : register.file ≠ .immediate)
    (formed : register.sourcePlace .align16 oneChannel = .ok place) :
    register.addressing = .direct := by
  rcases (sourcePlace_eq_ok_iff _ _ _ _).mp formed with ⟨isImmediate, -⟩ | ⟨-, mode, -⟩ |
    ⟨-, mode, -⟩ | ⟨-, -, direct, -⟩
  · exact absurd (of_decide_eq_true isImmediate) notImmediate
  · cases mode
  · cases mode
  · exact direct

theorem sourcePlace_keptSource {place : SourcePlace}
    (formed : register.sourcePlace mode oneChannel = .ok place) :
    (register.keptSource registers mode oneChannel).sourcePlace mode oneChannel =
      .ok ((register.keptSource registers mode oneChannel).heldSource mode).place := by
  by_cases immediate : register.file = .immediate
  · exact sourcePlace_held_immediate (keptSource_file.trans immediate)
  · have keptFile : (register.keptSource registers mode oneChannel).file ≠ .immediate := by
      rwa [keptSource_file]
    rcases (sourcePlace_eq_ok_iff _ _ _ _).mp formed with ⟨isImmediate, -⟩ |
      ⟨-, rfl, -⟩ | ⟨-, rfl, -⟩ | ⟨-, rfl, direct, aligned, -⟩
    · exact absurd (of_decide_eq_true isImmediate) immediate
    · exact sourcePlace_held_align1 keptFile (sourceRegion_keptSource immediate)
    · exact sourcePlace_held_align1 keptFile (sourceRegion_keptSource immediate)
    · obtain ⟨keptDirect, offset, region⟩ := keptSource_align16 immediate direct
      apply sourcePlace_held_align16 keptFile keptDirect (offset ▸ aligned)
      rw [region, align16Stride_idem]

end Sources

end ExecUnit.Register
