import ExecUnit.Proofs.Operand.Runs
import ExecUnit.Proofs.Operand.SourceRoundTrip

/-!
The regions of sources after a run of operand calls: `source_regions_legal`. A source is
judged when it is set, against the execution size of that moment, and never again. A
narrow destination that follows may make the execution size too small for it.
-/

namespace ExecUnit

namespace Region

theorem misfitStride?_eq_none_iff (size : ExecSize) (region : Region) :
    region.misfitStride? size = none ↔
      (size.channels = region.width.elements → region.hstride.elements ≠ 0 →
        ∀ vstride, region.vstride.elements? = some vstride →
          vstride = region.width.elements * region.hstride.elements) := by
  unfold misfitStride? requiredStride?
  by_cases rows : size.channels = region.width.elements ∧ region.hstride.elements ≠ 0
  · cases vstride : region.vstride.elements? with
    | none => simp [rows]
    | some elements => simp [rows]
  · rw [if_neg rows]
    exact iff_of_true rfl fun row strided => absurd ⟨row, strided⟩ rows

theorem fault?_eq_none_iff (size : ExecSize) (region : Region) :
    region.fault? size = none ↔
      region.width.elements ≤ size.channels ∧ region.misfitStride? size = none ∧
        (region.width.elements = 1 → region.hstride.elements = 0) ∧
        (size.channels = 1 → region.width.elements = 1 → region.vstride = .s0) ∧
        (region.vstride = .s0 → region.hstride.elements = 0 → region.width.elements = 1) := by
  unfold fault?
  by_cases wide : size.channels < region.width.elements
  · simp only [if_pos wide, reduceCtorEq, false_iff]
    exact fun restrictions => Nat.not_le_of_lt wide restrictions.1
  · cases misfit : region.misfitStride? size with
    | some vstride => simp only [if_neg wide, reduceCtorEq, false_and, and_false]
    | none =>
        simp only [if_neg wide, true_and, Nat.le_of_not_lt wide]
        by_cases strided : region.width.elements = 1 ∧ region.hstride.elements ≠ 0
        · simp only [if_pos strided, reduceCtorEq, false_iff]
          exact fun restrictions => strided.2 (restrictions.1 strided.1)
        · rw [if_neg strided]
          grind

-- The restrictions ease as the execution size grows.
theorem fault?_eq_none_of_le {size size' : ExecSize} {region : Region}
    (legal : region.fault? size = none) (grown : size.channels ≤ size'.channels) :
    region.fault? size' = none := by
  obtain ⟨fits, rows, scalar, single, broadcast⟩ := (fault?_eq_none_iff _ _).mp legal
  refine (fault?_eq_none_iff _ _).mpr
    ⟨Nat.le_trans fits grown, ?_, scalar, fun one narrow => single ?_ narrow, broadcast⟩
  · refine (misfitStride?_eq_none_iff _ _).mpr fun row => ?_
    exact (misfitStride?_eq_none_iff _ _).mp rows (Nat.le_antisymm (row ▸ grown) fits)
  · exact Nat.le_antisymm (one ▸ grown) (narrow ▸ fits)

-- A region with room to spare in each row is as good as any.
theorem fault?_eq_none_of_lt {size size' : ExecSize} {region : Region}
    (legal : region.fault? size = none) (room : region.width.elements < size'.channels) :
    region.fault? size' = none := by
  obtain ⟨-, -, scalar, -, broadcast⟩ := (fault?_eq_none_iff _ _).mp legal
  refine (fault?_eq_none_iff _ _).mpr ⟨Nat.le_of_lt room, ?_, scalar, ?_, broadcast⟩
  · exact (misfitStride?_eq_none_iff _ _).mpr fun row => absurd row (Nat.ne_of_gt room)
  · exact fun one narrow => absurd (narrow.trans one.symm) (Nat.ne_of_lt room)

/-- What a region meets if a single row of it may be all that executes: its rows follow each
other without a gap, and a lone element has no stride. -/
structure SingleRow (region : Region) : Prop where
  adjacent : region.hstride.elements ≠ 0 → ∀ vstride, region.vstride.elements? = some vstride →
    vstride = region.width.elements * region.hstride.elements
  lone : region.width.elements = 1 → region.vstride = .s0

theorem fault?_eq_none_iff_of_legal {size : ExecSize} {region : Region}
    (legal : region.fault? size = none) (size' : ExecSize) :
    region.fault? size' = none ↔
      size.channels ≤ size'.channels ∨ region.width.elements < size'.channels ∨
        region.width.elements = size'.channels ∧ region.SingleRow := by
  constructor
  · intro legal'
    obtain ⟨fits, rows, -, single, -⟩ := (fault?_eq_none_iff _ _).mp legal'
    rcases Nat.lt_or_eq_of_le fits with room | row
    · exact Or.inr (Or.inl room)
    · have adjacent := (misfitStride?_eq_none_iff _ _).mp rows row.symm
      exact Or.inr (Or.inr ⟨row, adjacent, fun one => single (row ▸ one) one⟩)
  · rintro (grown | room | ⟨row, one⟩)
    · exact fault?_eq_none_of_le legal grown
    · exact fault?_eq_none_of_lt legal room
    · obtain ⟨-, -, scalar, -, broadcast⟩ := (fault?_eq_none_iff _ _).mp legal
      have rows := (misfitStride?_eq_none_iff size' region).mpr fun _ => one.adjacent
      exact (fault?_eq_none_iff _ _).mpr
        ⟨Nat.le_of_eq row, rows, scalar, fun _ => one.lone, broadcast⟩

end Region

theorem Register.keptSource_region {registers : Nat} {oneChannel : Bool} {register : Register}
    (general : (register.keptSource registers .align1 oneChannel).file = .general)
    (direct : (register.keptSource registers .align1 oneChannel).addressing = .direct) :
    register.file = .general ∧
      (register.keptSource registers .align1 oneChannel).region =
        register.sourceRegion oneChannel := by
  unfold keptSource at general direct ⊢
  by_cases immediate : register.file = .immediate
  · simp only [if_pos immediate, plain, reduceCtorEq] at general
  · simp only [if_neg immediate] at general direct ⊢
    cases addressing : register.addressing with
    | indirect address => simp only [addressing, reduceCtorEq] at direct
    | direct =>
        simp only [addressing, plain] at general ⊢
        exact ⟨general, rfl⟩

namespace Instruction

/-- A directly addressed general register in the slot has a region that is legal for `size`. -/
def LegalSource (slot : SourceSlot) (size : ExecSize) (instr : Instruction) : Prop :=
  ∀ register, instr.source slot = .ok register → register.file = .general →
    register.addressing = .direct → register.region.fault? size = none

theorem fault?_of_checkRegion {instr : Instruction} {register : Register} {size : ExecSize}
    (sized : instr.execSize = .ok size) (general : register.file = .general)
    (checked : instr.checkRegion register = .ok ()) : register.region.fault? size = none := by
  have known : instr.knownExecSize = .ok size :=
    (orRefuse_eq_ok_iff _ _ _).mpr ((orFault_eq_ok_iff _ _ _ _).mp sized)
  unfold checkRegion at checked
  rw [general, known] at checked
  cases fault : register.region.fault? size with
  | none => rfl
  | some fault' => simp [bind, Except.bind, fault] at checked

-- A single channel is executed where the execution size is one.
theorem size_of_executesOneChannel {instr : Instruction} {size : ExecSize}
    (sized : instr.execSize = .ok size) (single : instr.executesOneChannel = true) :
    size = .e1 :=
  Coded.code_injective (((decodeCode_eq_ok_iff _ _ _).mp sized).trans (of_decide_eq_true single))

theorem legalSource_setSource {slot : SourceSlot} {register : Register}
    {instr written : Instruction} {size : ExecSize} (mode : instr.accessMode = .align1)
    (sized : instr.execSize = .ok size) (accepted : instr.setSource slot register = .ok written) :
    written.LegalSource slot size := by
  intro read decoded general direct
  obtain ⟨codes, judged, rfl⟩ := (setSource_eq_ok_iff _ _ _ _).mp accepted
  obtain ⟨placed, -, -, isPlaced, checked, -⟩ := (judgeSource_eq_ok_iff _ _ _ _).mp judged
  obtain ⟨placed', isPlaced', kept⟩ := source_of_judged judged
  obtain rfl := Except.ok.inj (isPlaced.symm.trans isPlaced')
  obtain rfl := Except.ok.inj (decoded.symm.trans kept)
  rw [mode] at general direct ⊢
  obtain ⟨placedGeneral, region⟩ := Register.keptSource_region general direct
  have legal := fault?_of_checkRegion sized placedGeneral checked
  rw [region, Register.sourceRegion]
  split
  · next single =>
    obtain rfl := size_of_executesOneChannel sized single.2
    rfl
  · exact legal

theorem LegalSource.of_setSlots {slot : SourceSlot} {operands : List (Slot × Register)}
    {instr done : Instruction} {size : ExecSize} (legal : instr.LegalSource slot size)
    (untouched : ∀ operand ∈ operands, operand.1 ≠ .source slot)
    (accepted : instr.setSlots operands = .ok done) : done.LegalSource slot size := by
  intro read decoded general direct
  rcases operand_setSlots untouched accepted with kept | ⟨isSrc1, -, architecture⟩
  · exact legal read (kept.symm.trans decoded) general direct
  · obtain rfl := Slot.source.inj isSrc1
    rw [architecture read decoded] at general
    cases general

/-- Of any run of operand calls on an instruction with access mode Align1, each source that
was set and holds a directly addressed general register has a region that is legal for the
execution size of the moment when it was last set. For the final execution size it is legal
just where later destinations left that as large, or larger than the width, or as large as the
width of a region whose rows may execute one by one. -/
theorem source_regions_legal (instr done : Instruction) (size : ExecSize)
    (before after : List (Slot × Register)) (slot : SourceSlot) (register : Register)
    (mode : instr.accessMode = .align1) (sized : instr.execSize = .ok size)
    (last : ∀ operand ∈ after, operand.1 ≠ .source slot)
    (accepted : instr.setSlots (before ++ (.source slot, register) :: after) = .ok done) :
    ∃ final, done.execSize = .ok final ∧
      final = size.fittedAll (before ++ (.source slot, register) :: after) ∧
      ∀ read, done.source slot = .ok read → read.file = .general → read.addressing = .direct →
        read.region.fault? (size.fittedAll before) = none ∧
          (read.region.fault? final = none ↔
            (size.fittedAll before).channels ≤ final.channels ∨
              read.region.width.elements < final.channels ∨
              read.region.width.elements = final.channels ∧ read.region.SingleRow) := by
  refine ⟨_, execSize_setSlots sized accepted, rfl, ?_⟩
  obtain ⟨middle, first, rest⟩ := setSlots_append_eq_ok_iff.mp accepted
  obtain ⟨next, set, others⟩ := setSlots_cons_eq_ok_iff.mp rest
  obtain ⟨bits, rfl, steering⟩ := header_setSlots first
  have middleMode := (accessMode_of_agree
    (steering _ instr.layout.header.accessMode_mem_steeringRanges)).trans mode
  have legal := (legalSource_setSource middleMode (execSize_setSlots sized first) set).of_setSlots
    last others
  intro read decoded general direct
  have atTime := legal read decoded general direct
  exact ⟨atTime, Region.fault?_eq_none_iff_of_legal atTime _⟩

def moveEight : Instruction :=
  (⟨.gen6, 0⟩ : Instruction)
    |> set Layout.gen4.header.opcode (code Opcode.mov)
    |> setExecSize .e8

/-- Pairs of elements remain legal when a destination makes the execution size four. -/
theorem source_regions_legal_pairs :
    ∃ done final, moveEight.setSlots [(.source .src0, (Register.general 2 0).vector .w2),
        (.dst, (Register.general 1 0).vector .w4)] = .ok done ∧
      done.execSize = .ok final ∧ final = .e4 ∧
      ∀ read, done.src0 = .ok read → read.file = .general → read.addressing = .direct →
        read.region.width.elements < final.channels → read.region.fault? final = none := by
  obtain ⟨done, accepted⟩ : ∃ done, moveEight.setSlots
      ([] ++ (.source .src0, (Register.general 2 0).vector .w2) ::
        [(.dst, (Register.general 1 0).vector .w4)]) = .ok done := ⟨_, rfl⟩
  obtain ⟨final, sized, isFinal, legal⟩ := source_regions_legal moveEight done .e8 [] _ .src0 _
    (by decide) rfl (by decide) accepted
  exact ⟨done, final, accepted, sized, isFinal, fun read decoded general direct room =>
    (legal read decoded general direct).2.mpr (Or.inr (Or.inl room))⟩

/-- Not every region survives: a narrow destination leaves a source that is wider than the
execution size. -/
theorem narrow_destination_breaks_region :
    ¬∀ (instr done : Instruction) (size final : ExecSize) (operands : List (Slot × Register))
      (slot : SourceSlot) (register read : Register),
      instr.accessMode = .align1 → instr.execSize = .ok size →
      instr.setSlots operands = .ok done → (.source slot, register) ∈ operands →
      done.execSize = .ok final → done.source slot = .ok read → read.file = .general →
      read.addressing = .direct → read.region.fault? final = none := by
  intro claim
  have legal := claim moveEight _ .e8 .e4
    [(.source .src0, .general 2 0), (.dst, (Register.general 1 0).vector .w4)] .src0
    (.general 2 0) (.general 2 0) (by decide) rfl rfl List.mem_cons_self rfl rfl rfl rfl
  exact absurd legal (by decide)

end Instruction

end ExecUnit
