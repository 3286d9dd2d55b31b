import ExecUnit.Proofs.Calls.Basic
import Mathlib.Data.List.Induction

/-!
Settings of the header in any order. A call writes a value or two into slots of the header
(`HeaderCall.writes`). No two slots overlap, so after a run of calls every slot holds the value
that was written to it last, or what it held before if nothing was written to it, and nothing
else has changed: `setHeaderCalls_lastWriter`.
-/

namespace ExecUnit

/-- The parts of the header that have a setter of their own, the flag register apart. -/
inductive HeaderSlot where
  | opcode | accessMode | execSize | predicateControl | predicateInverse | saturate
  | debugControl | maskControl | dependencyControl | quarterControl | threadControl
  | accWriteControl | modifier
  deriving DecidableEq, Repr

namespace HeaderSlot

def field (header : HeaderFields) : HeaderSlot → Field
  | .opcode => header.opcode
  | .accessMode => header.accessMode
  | .execSize => header.execSize
  | .predicateControl => header.predicateControl
  | .predicateInverse => header.predicateInverse
  | .saturate => header.saturate
  | .debugControl => header.debugControl
  | .maskControl => header.maskControl
  | .dependencyControl => header.dependencyControl
  | .quarterControl => header.quarterControl
  | .threadControl => header.threadControl
  | .accWriteControl => header.accWriteControl
  | .modifier => header.modifier

def all : List HeaderSlot :=
  [.opcode, .accessMode, .execSize, .predicateControl, .predicateInverse, .saturate,
    .debugControl, .maskControl, .dependencyControl, .quarterControl, .threadControl,
    .accWriteControl, .modifier]

theorem mem_all (slot : HeaderSlot) : slot ∈ all := by
  cases slot <;> decide

def ranges (header : HeaderFields) : List BitRange :=
  all.map fun slot => (slot.field header).toBitRange

theorem field_mem_ranges (header : HeaderFields) (slot : HeaderSlot) :
    (slot.field header).toBitRange ∈ ranges header :=
  List.mem_map_of_mem slot.mem_all

theorem ranges_subset (header : HeaderFields) : ranges header ⊆ header.ranges := by
  simp only [ranges, all, field, HeaderFields.ranges, List.map_cons, List.map_nil,
    List.cons_subset, List.nil_subset, List.mem_cons, true_or, or_true, and_true]

def capacity : HeaderSlot → Nat
  | .opcode => 128
  | .accessMode | .predicateInverse | .saturate | .debugControl | .maskControl
  | .accWriteControl => 2
  | .execSize => 8
  | .predicateControl | .modifier => 16
  | .dependencyControl | .quarterControl | .threadControl => 4

end HeaderSlot

theorem LayoutKind.headerSlot_capacity (kind : LayoutKind) (slot : HeaderSlot) :
    (slot.field kind.layout.header).capacity = slot.capacity := by
  cases kind <;> cases slot <;> decide

theorem LayoutKind.headerSlots_disjoint (kind : LayoutKind) {slot slot' : HeaderSlot}
    (different : slot ≠ slot') :
    (slot.field kind.layout.header).toBitRange.Disjoint
      (slot'.field kind.layout.header).toBitRange := by
  have pairs : ∀ slot ∈ HeaderSlot.all, ∀ slot' ∈ HeaderSlot.all, slot ≠ slot' →
      (slot.field kind.layout.header).toBitRange.Disjoint
        (slot'.field kind.layout.header).toBitRange := by
    cases kind <;> decide
  exact pairs slot slot.mem_all slot' slot'.mem_all different

theorem LayoutKind.headerSlots_apart_operands (kind : LayoutKind) :
    Apart kind.layout.operandRanges (HeaderSlot.ranges kind.layout.header) :=
  kind.header_apart_operands.symm.mono (List.Subset.refl _) (HeaderSlot.ranges_subset _)

theorem LayoutKind.headerSlots_apart_triple (kind : LayoutKind) :
    Apart kind.layout.triple.ranges (HeaderSlot.ranges kind.layout.header) := by
  cases kind <;> decide

theorem Generation.headerSlots_apart_jump (gen : Generation) :
    Apart [gen.jumpFields.jip.toBitRange, gen.jumpFields.uip.toBitRange]
      (HeaderSlot.ranges gen.layout.header) := by
  cases gen <;> decide

namespace HeaderCall

-- The flag register is not kept in a slot: where it is depends on the opcode.
def selectsFlag : HeaderCall → Bool
  | .setting (.flagRegister _ _) => true
  | _ => false

/-- The values that the call leaves in slots. Quarter control and the numbers of message
registers may be too large for their slots. -/
def writes : HeaderCall → List (HeaderSlot × Nat)
  | .opcode operation => [(.opcode, code operation)]
  | .setting chosen =>
      match chosen with
      | .accessMode mode => [(.accessMode, code mode)]
      | .execSize execSize => [(.execSize, code execSize)]
      | .predicate control inverse =>
          [(.predicateControl, code control), (.predicateInverse, inverse.toNat)]
      | .saturate saturate => [(.saturate, saturate.toNat)]
      | .debugControl breakpoint => [(.debugControl, breakpoint.toNat)]
      | .maskControl control => [(.maskControl, code control)]
      | .dependencyControl control => [(.dependencyControl, code control)]
      | .quarterControl control => [(.quarterControl, control % 4)]
      | .threadControl control => [(.threadControl, code control)]
      | .accWriteControl enable => [(.accWriteControl, enable.toNat)]
      | .modifier modifier => [(.modifier, modifier.number % 16)]
      | .flagRegister _ _ => []

end HeaderCall

def lastValue? (calls : List HeaderCall) (slot : HeaderSlot) : Option Nat :=
  (calls.flatMap (·.writes)).reverse.lookup slot

def Instruction.setHeaderCalls (calls : List HeaderCall) (instr : Instruction) :
    Except Refusal Instruction :=
  calls.foldlM (fun instr call => instr.setHeaderCall call) instr

section Slots

variable {header : HeaderFields}

def slotAssignment (header : HeaderFields) (write : HeaderSlot × Nat) : Assignment :=
  ⟨(write.1.field header).toBitRange, write.2⟩

theorem slotAssignment_mem_ranges (header : HeaderFields) (writes : List (HeaderSlot × Nat)) :
    (writes.map (slotAssignment header)).map (·.range) ⊆ HeaderSlot.ranges header := by
  intro range member
  rw [List.map_map] at member
  obtain ⟨⟨slot, _⟩, _, rfl⟩ := List.mem_map.mp member
  exact slot.field_mem_ranges header

theorem get_assign_slots (kind : LayoutKind) (slot : HeaderSlot)
    (writes : List (HeaderSlot × Nat))
    (fits : ∀ write ∈ writes, write.2 % write.1.capacity = write.2) (bits : Encoding) :
    (slot.field kind.layout.header).get
        (bits.assign (writes.map (slotAssignment kind.layout.header))) =
      (writes.reverse.lookup slot).getD ((slot.field kind.layout.header).get bits) := by
  induction writes using List.reverseRecOn with
  | nil => rfl
  | append_singleton earlier write ih =>
      obtain ⟨written, value⟩ := write
      rw [List.forall_mem_append, List.forall_mem_singleton] at fits
      rw [List.map_append, Encoding.assign_append, List.reverse_append, List.reverse_singleton,
        List.singleton_append, List.lookup_cons]
      by_cases same : slot = written
      · subst same
        rw [beq_self_eq_true]
        calc (slot.field kind.layout.header).get _
            = value % (slot.field kind.layout.header).capacity := BitRange.get_set _ _ _
          _ = value % slot.capacity := congrArg (value % ·) (kind.headerSlot_capacity slot)
          _ = value := fits.2
      · rw [beq_false_of_ne same]
        exact (BitRange.get_set_of_disjoint (kind.headerSlots_disjoint same) _ _).trans
          (ih fits.1)

theorem getLsbD_assign_slots (header : HeaderFields) (writes : List (HeaderSlot × Nat))
    (bits : Encoding) {index : Nat}
    (outside : ∀ slot, (writes.reverse.lookup slot).isSome →
      ¬(slot.field header).Covers index) :
    (bits.assign (writes.map (slotAssignment header))).getLsbD index = bits.getLsbD index := by
  apply Encoding.getLsbD_assign_of_uncovered
  intro range member
  rw [List.map_map] at member
  obtain ⟨⟨slot, value⟩, written, rfl⟩ := List.mem_map.mp member
  apply outside slot
  rw [List.lookup_isSome_iff]
  exact ⟨(slot, value), List.mem_reverse.mpr written, beq_self_eq_true slot⟩

end Slots

theorem HeaderCall.writes_fit (call : HeaderCall) :
    ∀ write ∈ call.writes, write.2 % write.1.capacity = write.2 := by
  have flag : ∀ value : Bool, value.toNat % 2 = value.toNat := by decide
  rcases call with operation | setting
  · have opcodes : ∀ value : Opcode, code value % 128 = code value := by
      intro value
      cases value <;> rfl
    exact List.forall_mem_singleton.mpr (opcodes operation)
  · cases setting with
    | accessMode mode => cases mode <;> decide
    | execSize execSize => cases execSize <;> decide
    | predicate control inverse => cases control <;> cases inverse <;> decide
    | saturate saturate => exact List.forall_mem_singleton.mpr (flag saturate)
    | debugControl breakpoint => exact List.forall_mem_singleton.mpr (flag breakpoint)
    | maskControl control => cases control <;> decide
    | dependencyControl control => cases control <;> decide
    | quarterControl control => exact List.forall_mem_singleton.mpr (Nat.mod_mod _ _)
    | threadControl control => cases control <;> decide
    | accWriteControl enable => exact List.forall_mem_singleton.mpr (flag enable)
    | modifier modifier => exact List.forall_mem_singleton.mpr (Nat.mod_mod _ _)
    | flagRegister number subreg => exact List.forall_mem_nil _

-- A successful call writes its values into their slots and does nothing else.
theorem Instruction.setHeaderCall_eq {call : HeaderCall} {instr after : Instruction}
    (plain : call.selectsFlag = false) (run : instr.setHeaderCall call = .ok after) :
    after = { instr with
      bits := instr.bits.assign (call.writes.map (slotAssignment instr.layout.header)) } := by
  have room (slot : HeaderSlot) : (slot.field instr.layout.header).capacity = slot.capacity :=
    instr.gen.layoutKind.headerSlot_capacity slot
  have set_low (slot : HeaderSlot) (value : Nat) :
      (slot.field instr.layout.header).set (value % slot.capacity) instr.bits =
        (slot.field instr.layout.header).set value instr.bits := by
    rw [← room slot]
    exact BitRange.set_mod _ _ _
  rcases call with operation | setting
  · obtain ⟨_, _, set⟩ := (bind_eq_ok_iff _ _ _).mp run
    exact (Except.ok.inj set).symm
  · cases setting with
    | accessMode mode => exact (Except.ok.inj run).symm
    | execSize execSize => exact (Except.ok.inj run).symm
    | predicate control inverse => exact (Except.ok.inj run).symm
    | saturate saturate => exact (Except.ok.inj run).symm
    | debugControl breakpoint => exact (Except.ok.inj run).symm
    | maskControl control => exact (Except.ok.inj run).symm
    | dependencyControl control => exact (Except.ok.inj run).symm
    | quarterControl control =>
        rw [← Except.ok.inj run]
        exact congrArg (Instruction.mk instr.gen) (set_low .quarterControl control).symm
    | threadControl control => exact (Except.ok.inj run).symm
    | accWriteControl enable => exact (Except.ok.inj run).symm
    | modifier modifier =>
        obtain ⟨opcode, _, judged⟩ := (bind_eq_ok_iff _ _ _).mp run
        obtain ⟨_, _, set⟩ := (bind_eq_ok_iff _ _ _).mp judged
        rw [← Except.ok.inj set]
        exact congrArg (Instruction.mk instr.gen) (set_low .modifier modifier.number).symm
    | flagRegister number subreg => cases plain

theorem Instruction.setHeaderCalls_eq {calls : List HeaderCall}
    (plain : ∀ call ∈ calls, call.selectsFlag = false) {initial final : Instruction}
    (run : initial.setHeaderCalls calls = .ok final) :
    final = { initial with
      bits := initial.bits.assign
        ((calls.flatMap (·.writes)).map (slotAssignment initial.layout.header)) } := by
  induction calls generalizing initial with
  | nil => exact (Except.ok.inj run).symm
  | cons call rest ih =>
      rw [List.forall_mem_cons] at plain
      obtain ⟨after, first, later⟩ := (bind_eq_ok_iff _ _ _).mp (List.foldlM_cons.symm.trans run)
      rw [ih plain.2 later, setHeaderCall_eq plain.1 first, List.flatMap_cons, List.map_append,
        Encoding.assign_append]
      rfl

section Readers

variable {gen : Generation} {left right : Encoding}

theorem TripleSourceFields.read_of_agree (fields : TripleSourceFields)
    (agree : Encoding.Agree fields.ranges left right) : fields.read left = fields.read right := by
  simp only [ranges, Encoding.Agree.append_iff, Encoding.Agree.cons_iff] at agree
  obtain ⟨⟨⟨number, -⟩, subreg⟩, swizzle, replicate, negate, abs, -⟩ := agree
  have whole : fields.subreg.get left = fields.subreg.get right :=
    SplitField.getParts_of_agree fields.subreg.parts subreg
  rw [read, read, number, whole, swizzle, replicate, negate, abs]

theorem Instruction.tripleType_of_agree {field : Field}
    (agree : field.get left = field.get right) :
    tripleType field ⟨gen, left⟩ = tripleType field ⟨gen, right⟩ := by
  unfold tripleType get
  rw [agree]

-- Three-source operands depend on their own fields only.
theorem Instruction.triple_of_agree
    (agree : Encoding.Agree gen.layout.triple.ranges left right) :
    tripleDestination ⟨gen, left⟩ = tripleDestination ⟨gen, right⟩ ∧
      ∀ index, tripleSource index ⟨gen, left⟩ = tripleSource index ⟨gen, right⟩ := by
  simp only [TripleFields.ranges, TripleFields.destinationRanges, Encoding.Agree.append_iff,
    Encoding.Agree.cons_iff] at agree
  obtain ⟨⟨⟨⟨-, number, subreg, mask, -⟩, type, -⟩, sourceType, -⟩, sources⟩ := agree
  constructor
  · have codes : gen.layout.triple.readDestination left =
        gen.layout.triple.readDestination right := by
      rw [TripleFields.readDestination, TripleFields.readDestination, number, subreg, mask]
    show (tripleType gen.layout.triple.type ⟨gen, left⟩ >>= fun type =>
      pure ((gen.layout.triple.readDestination left).decode type)) = _
    rw [tripleType_of_agree type, codes]
    rfl
  · intro index
    have within : (gen.layout.triple.source index).ranges ⊆
        (List.finRange 3).flatMap fun index => (gen.layout.triple.source index).ranges :=
      fun range member => List.mem_flatMap.mpr ⟨index, List.mem_finRange index, member⟩
    have codes := TripleSourceFields.read_of_agree _ (sources.mono within)
    show (tripleType gen.layout.triple.sourceType ⟨gen, left⟩ >>= fun type =>
      pure (((gen.layout.triple.source index).read left).decode type)) = _
    rw [tripleType_of_agree sourceType, codes]
    rfl

theorem Instruction.jumpTargets_of_agree
    (agree : Encoding.Agree [gen.jumpFields.jip.toBitRange, gen.jumpFields.uip.toBitRange]
      left right) :
    jumpTargets ⟨gen, left⟩ = jumpTargets ⟨gen, right⟩ := by
  rw [Encoding.Agree.cons_iff, Encoding.Agree.cons_iff] at agree
  obtain ⟨jip, uip, -⟩ := agree
  show (gen.jumpFields.jip.getSigned left, if gen.jumpFields.signedUip then
    gen.jumpFields.uip.getSigned left else (gen.jumpFields.uip.get left : Int)) = _
  rw [BitRange.getSigned_of_get jip, BitRange.getSigned_of_get uip, uip]
  rfl

end Readers

/-- What is left of `initial` once the calls have been made. -/
structure LastWriterWins (calls : List HeaderCall) (initial final : Instruction) : Prop where
  sameGeneration : final.gen = initial.gen
  held : ∀ slot : HeaderSlot, final.get (slot.field initial.layout.header) =
    (lastValue? calls slot).getD (initial.get (slot.field initial.layout.header))
  elsewhere : ∀ index,
    (∀ slot : HeaderSlot, (lastValue? calls slot).isSome →
      ¬(slot.field initial.layout.header).Covers index) →
    final.bits.getLsbD index = initial.bits.getLsbD index
  operands : Encoding.Agree initial.layout.operandRanges final.bits initial.bits
  tripleDestination : final.tripleDestination = initial.tripleDestination
  tripleSource : ∀ index, final.tripleSource index = initial.tripleSource index
  jumpTargets : final.jumpTargets = initial.jumpTargets

/-- The calls may come in any order and as often as one likes, as long as each of them is
accepted when its turn comes. -/
theorem setHeaderCalls_lastWriter (calls : List HeaderCall)
    (plain : ∀ call ∈ calls, call.selectsFlag = false) (initial final : Instruction)
    (run : initial.setHeaderCalls calls = .ok final) :
    LastWriterWins calls initial final := by
  obtain rfl := Instruction.setHeaderCalls_eq plain run
  obtain ⟨gen, bits⟩ := initial
  have within := slotAssignment_mem_ranges gen.layout.header (calls.flatMap (·.writes))
  have triple := Encoding.agree_assign
    (gen.layoutKind.headerSlots_apart_triple.mono (List.Subset.refl _) within) bits
  have fits : ∀ write ∈ calls.flatMap (·.writes), write.2 % write.1.capacity = write.2 := by
    intro write member
    obtain ⟨call, _, written⟩ := List.mem_flatMap.mp member
    exact call.writes_fit write written
  exact {
    sameGeneration := rfl
    held := fun slot => get_assign_slots gen.layoutKind slot _ fits bits
    elsewhere := fun index outside => getLsbD_assign_slots gen.layout.header _ bits outside
    operands := Encoding.agree_assign
      (gen.layoutKind.headerSlots_apart_operands.mono (List.Subset.refl _) within) bits
    tripleDestination := (Instruction.triple_of_agree triple).1
    tripleSource := (Instruction.triple_of_agree triple).2
    jumpTargets := Instruction.jumpTargets_of_agree (Encoding.agree_assign
      (gen.headerSlots_apart_jump.mono (List.Subset.refl _) within) bits) }

/-- The message register is too large for its four bits, and the second opcode comes after the
modifier of the first. -/
def reconsideredCalls : List HeaderCall :=
  [.opcode .send, .setting (.modifier (.messageRegister 18)), .setting (.predicate .normal true),
    .setting (.quarterControl 7), .opcode .mov, .setting (.predicate .anyV false)]

theorem setHeaderCalls_lastWriter_reconsidered :
    ∃ final, Instruction.setHeaderCalls reconsideredCalls ⟨.gen5, .allOnes 128⟩ = .ok final ∧
      final.get final.layout.header.opcode = code Opcode.mov ∧
      final.get final.layout.header.modifier = 2 ∧
      final.get final.layout.header.quarterControl = 3 ∧
      final.get final.layout.header.execSize = 7 := by
  obtain ⟨final, run⟩ : ∃ final,
      Instruction.setHeaderCalls reconsideredCalls ⟨.gen5, .allOnes 128⟩ = .ok final := ⟨_, rfl⟩
  have plain : ∀ call ∈ reconsideredCalls, call.selectsFlag = false := by
    simp [reconsideredCalls, HeaderCall.selectsFlag]
  obtain ⟨sameGeneration, held, -⟩ := setHeaderCalls_lastWriter _ plain _ _ run
  have sameLayout : final.layout = Layout.gen4 := congrArg Generation.layout sameGeneration
  refine ⟨final, run, ?_⟩
  rw [sameLayout]
  exact ⟨held .opcode, held .modifier, held .quarterControl, held .execSize⟩

end ExecUnit
