import ExecUnit.Proofs.Listing.Decodable
import ExecUnit.Proofs.Message.Descriptor

/-!
Header bits 27:24. The opcode decides what a modifier may be, a modifier that was set is
read back, and it changes no other bit. From Gen6 on the shared function of a SEND is in
these bits, so modifier and message descriptor always agree on it. Before that the two lie
apart and neither setter touches what the other reads: `modifier_field`.
-/

namespace ExecUnit

namespace Modifier

def BelongsTo (opcode : Opcode) (gen : Generation) : Modifier → Prop
  | .condition _ => opcode ≠ .math ∧ opcode ≠ .send ∧ opcode ≠ .sendc
  | .mathFunction _ => opcode = .math
  | .sharedFunction _ => (opcode = .send ∨ opcode = .sendc) ∧ 6 ≤ gen.number
  | .messageRegister _ => (opcode = .send ∨ opcode = .sendc) ∧ gen.number < 6

def kept : Modifier → Modifier
  | .messageRegister number => .messageRegister (number % 16)
  | modifier => modifier

theorem number_kept (modifier : Modifier) : modifier.kept.number = modifier.number % 16 := by
  cases modifier with
  | condition modifier => cases modifier <;> rfl
  | mathFunction function => cases function <;> rfl
  | sharedFunction sfid => exact (Nat.mod_eq_of_lt sfid.code_lt).symm
  | messageRegister number => rfl

theorem fits_kept (opcode : Opcode) (headerSfid : Bool) (modifier : Modifier) :
    modifier.kept.fits opcode headerSfid = modifier.fits opcode headerSfid := by
  unfold kept fits
  cases modifier with
  | messageRegister number => cases opcode.opcodeClass <;> rfl
  | _ => rfl

end Modifier

namespace Opcode

theorem opcodeClass_eq_math_iff (opcode : Opcode) :
    opcode.opcodeClass = .math ↔ opcode = .math := by
  cases opcode <;> decide

theorem opcodeClass_eq_send_iff (opcode : Opcode) :
    opcode.opcodeClass = .send ↔ opcode = .send ∨ opcode = .sendc := by
  cases opcode <;> decide

theorem opcodeClass_eq_other_iff (opcode : Opcode) :
    opcode.opcodeClass = .other ↔ opcode ≠ .math ∧ opcode ≠ .send ∧ opcode ≠ .sendc := by
  cases opcode <;> decide

end Opcode

theorem Modifier.fits_iff (opcode : Opcode) (gen : Generation) (modifier : Modifier) :
    modifier.fits opcode gen.hasHeaderSfid = true ↔ modifier.BelongsTo opcode gen := by
  unfold BelongsTo
  cases modifier with
  | condition modifier =>
      rw [← opcode.opcodeClass_eq_other_iff]
      unfold fits
      cases opcode.opcodeClass <;> simp
  | mathFunction function =>
      rw [← opcode.opcodeClass_eq_math_iff]
      unfold fits
      cases opcode.opcodeClass <;> simp
  | sharedFunction sfid =>
      rw [← opcode.opcodeClass_eq_send_iff]
      unfold fits
      cases opcode.opcodeClass <;> simp [Generation.hasHeaderSfid]
  | messageRegister number =>
      rw [← opcode.opcodeClass_eq_send_iff]
      unfold fits
      cases opcode.opcodeClass <;> simp [Generation.hasHeaderSfid]

theorem LayoutKind.modifier_span (kind : LayoutKind) :
    kind.layout.header.modifier.low = 24 ∧ kind.layout.header.modifier.high = 27 ∧
      kind.layout.header.modifier.capacity = 16 ∧
      kind.layout.header.opcode.Disjoint kind.layout.header.modifier.toBitRange := by
  cases kind <;> decide

namespace Generation

theorem opcode_apart_descriptor (gen : Generation) :
    Apart [gen.layout.header.opcode.toBitRange] gen.messageFields.descriptorRanges := by
  cases gen <;> decide

theorem modifier_apart_descriptor {gen : Generation} (early : gen.number < 6) :
    Apart gen.messageFields.descriptorRanges [gen.layout.header.modifier.toBitRange] := by
  cases gen <;> first | decide | exact absurd early (by decide)

theorem header_in_first_word (gen : Generation) :
    gen.layout.header.opcode.low / 32 = 0 ∧ gen.layout.header.modifier.low / 32 = 0 := by
  cases gen <;> decide

end Generation

namespace Instruction

section Setting

theorem setModifier_eq_ok_iff (modifier : Modifier) (instr written : Instruction) :
    instr.setModifier modifier = .ok written ↔
      ∃ opcode, instr.opcode = .ok opcode ∧ modifier.BelongsTo opcode instr.gen ∧
        written = instr.set instr.layout.header.modifier modifier.number := by
  simp only [setModifier, bind_eq_ok_iff, pure_eq_ok_iff, orRefuse_eq_ok_iff, demand_eq_ok_iff,
    Modifier.fits_iff, opcode, decodeCode, orFault_eq_ok_iff]
  constructor
  · rintro ⟨opcode, found, -, belongs, rfl⟩
    exact ⟨opcode, found, belongs, rfl⟩
  · rintro ⟨opcode, found, belongs, rfl⟩
    exact ⟨opcode, found, (), belongs, rfl⟩

theorem setModifier_accepts_iff (modifier : Modifier) (instr : Instruction) :
    (∃ written, instr.setModifier modifier = .ok written) ↔
      ∃ opcode, instr.opcode = .ok opcode ∧ modifier.BelongsTo opcode instr.gen := by
  simp only [setModifier_eq_ok_iff]
  constructor
  · rintro ⟨written, opcode, known, belongs, -⟩
    exact ⟨opcode, known, belongs⟩
  · rintro ⟨opcode, known, belongs⟩
    exact ⟨_, opcode, known, belongs, rfl⟩

theorem modifier_eq_ok_iff (instr : Instruction) (modifier : Modifier) :
    instr.modifier = .ok modifier ↔
      ∃ opcode, instr.opcode = .ok opcode ∧
        Modifier.ofNumber? opcode (instr.get instr.layout.header.modifier)
          instr.gen.hasHeaderSfid = some modifier := by
  simp only [Instruction.modifier, bind_eq_ok_iff, orFault_eq_ok_iff]

variable {instr written : Instruction} {modifier : Modifier}

theorem getLsbD_setModifier (accepted : instr.setModifier modifier = .ok written) {index : Nat}
    (outside : ¬(24 ≤ index ∧ index ≤ 27)) :
    written.bits.getLsbD index = instr.bits.getLsbD index := by
  obtain ⟨opcode, -, -, rfl⟩ := (setModifier_eq_ok_iff _ _ _).mp accepted
  obtain ⟨low, high, -⟩ : instr.layout.header.modifier.low = 24 ∧
      instr.layout.header.modifier.high = 27 ∧ _ := instr.gen.layoutKind.modifier_span
  refine (BitRange.getLsbD_set _ _ _ _).trans (if_neg ?_)
  rwa [low, high]

theorem modifier_setModifier (accepted : instr.setModifier modifier = .ok written) :
    written.modifier = .ok modifier.kept := by
  obtain ⟨opcode, known, belongs, rfl⟩ := (setModifier_eq_ok_iff _ _ _).mp accepted
  obtain ⟨-, -, capacity, apart⟩ := instr.gen.layoutKind.modifier_span
  have sameOpcode : (instr.set instr.layout.header.modifier modifier.number).opcode =
      instr.opcode :=
    congrArg (decodeCode instr.layout.header.opcode) (BitRange.get_set_of_disjoint apart _ _)
  -- Same opcode, so the number that is read is judged as the one that was set.
  have number : (instr.set instr.layout.header.modifier modifier.number).get
      instr.layout.header.modifier = modifier.kept.number := by
    rw [modifier.number_kept, ← capacity]
    exact BitRange.get_set _ _ _
  have fitting : modifier.kept.fits opcode instr.gen.hasHeaderSfid = true :=
    (modifier.fits_kept _ _).trans ((Modifier.fits_iff _ _ _).mpr belongs)
  refine (modifier_eq_ok_iff _ _).mpr ⟨opcode, sameOpcode.trans known, ?_⟩
  exact (congrArg (Modifier.ofNumber? opcode · _) number).trans
    (Modifier.ofNumber?_number _ _ _ fitting)

end Setting

section Messages

variable {instr written : Instruction} {descriptor : MessageDescriptor}

-- A descriptor goes where src1 is free.
theorem setMessageDescriptor_eq_ok_iff (descriptor : MessageDescriptor)
    (instr written : Instruction) :
    instr.setMessageDescriptor descriptor = .ok written ↔
      instr.hasImmediateSrc0 = false ∧
        written = ⟨instr.gen, instr.bits.described instr.gen descriptor⟩ := by
  constructor
  · intro accepted
    -- The only step that refuses is to clear src1, and only next to an immediate.
    obtain ⟨cleared, isCleared, -⟩ := (bind_eq_ok_iff _ _ _).mp accepted
    obtain ⟨codes, judged, -⟩ := (setSource_eq_ok_iff _ _ _ _).mp isCleared
    obtain ⟨-, -, -, -, -, -, free, -⟩ := (judgeSource_eq_ok_iff _ _ _ _).mp judged
    have free' : instr.hasImmediateSrc0 = false := (demand_eq_ok_iff _ _ _).mp free
    exact ⟨free', Except.ok.inj (accepted.symm.trans (setMessageDescriptor_eq descriptor free'))⟩
  · rintro ⟨free, rfl⟩
    exact setMessageDescriptor_eq descriptor free

theorem opcode_described (instr : Instruction) (descriptor : MessageDescriptor) :
    opcode ⟨instr.gen, instr.bits.described instr.gen descriptor⟩ = instr.opcode := by
  have inHeader := (instr.gen.layoutKind.steering_apart_source .src1).mono
    (List.cons_subset.mpr ⟨List.mem_cons_self, List.nil_subset _⟩) (List.Subset.refl _)
  have agree := agree_described descriptor instr.bits inHeader
    instr.gen.opcode_apart_descriptor _ List.mem_cons_self
  exact congrArg (decodeCode instr.layout.header.opcode) agree

theorem modifier_eq_sharedFunction_iff (late : 6 ≤ instr.gen.number) {opcode : Opcode}
    (known : instr.opcode = .ok opcode) (sends : opcode = .send ∨ opcode = .sendc) (sfid : Sfid) :
    instr.modifier = .ok (.sharedFunction sfid) ↔
      ∃ descriptor, instr.messageDescriptor = .ok descriptor ∧ descriptor.sfid = sfid := by
  have shared : instr.gen.hasHeaderSfid = true := decide_eq_true late
  have family := (opcode.opcodeClass_eq_send_iff).mpr sends
  have number : instr.get instr.layout.header.modifier = instr.get instr.gen.messageFields.sfid :=
    congrArg (BitRange.get · instr.bits) (Generation.modifier_eq_sfid shared)
  have inModifier : instr.modifier = .ok (.sharedFunction sfid) ↔
      Coded.ofCode? (instr.get instr.gen.messageFields.sfid) = some sfid := by
    rw [modifier_eq_ok_iff, shared, number]
    constructor
    · rintro ⟨opcode', known', meaning⟩
      obtain rfl := Except.ok.inj (known.symm.trans known')
      simpa [Modifier.ofNumber?, family] using meaning
    · intro found
      exact ⟨opcode, known, by simp [Modifier.ofNumber?, family, found]⟩
  rw [inModifier]
  constructor
  · intro found
    exact ⟨_, (bind_eq_ok_iff _ _ _).mpr ⟨sfid, (orFault_eq_ok_iff _ _ _ _).mpr found, rfl⟩, rfl⟩
  · rintro ⟨descriptor, decoded, rfl⟩
    obtain ⟨sfid, found, made⟩ := (bind_eq_ok_iff _ _ _).mp decoded
    obtain rfl := (pure_eq_ok_iff _ _).mp made
    exact (orFault_eq_ok_iff _ _ _ _).mp found

theorem modifier_setMessageDescriptor (late : 6 ≤ instr.gen.number) {opcode : Opcode}
    (known : instr.opcode = .ok opcode) (sends : opcode = .send ∨ opcode = .sendc)
    (accepted : instr.setMessageDescriptor descriptor = .ok written) :
    written.modifier = .ok (.sharedFunction descriptor.sfid) := by
  obtain ⟨-, isWritten⟩ := (setMessageDescriptor_eq_ok_iff _ _ _).mp accepted
  have written_gen : 6 ≤ written.gen.number := isWritten ▸ late
  have written_opcode : written.opcode = .ok opcode :=
    isWritten ▸ (opcode_described instr descriptor).trans known
  have decoded : written.messageDescriptor = .ok (descriptor.kept instr.gen) :=
    isWritten ▸ messageDescriptor_described _ _ _
  exact (modifier_eq_sharedFunction_iff written_gen written_opcode sends _).mpr
    ⟨_, decoded, rfl⟩

-- Before Gen6 descriptors are written past the header.
theorem modifier_setMessageDescriptor_early (early : instr.gen.number < 6)
    (accepted : instr.setMessageDescriptor descriptor = .ok written) :
    written.modifier = instr.modifier := by
  obtain ⟨-, rfl⟩ := (setMessageDescriptor_eq_ok_iff _ _ _).mp accepted
  have first := word_described early descriptor instr.bits
  have inFirst := instr.gen.header_in_first_word.2
  have number : instr.gen.layout.header.modifier.get (instr.bits.described instr.gen descriptor) =
      instr.gen.layout.header.modifier.get instr.bits :=
    BitRange.get_of_word _ (inFirst.symm ▸ first)
  unfold Instruction.modifier
  rw [opcode_described]
  unfold get layout
  dsimp only
  rw [number]

theorem messageDescriptor_setModifier_early {modifier : Modifier} (early : instr.gen.number < 6)
    (accepted : instr.setModifier modifier = .ok written) :
    written.messageDescriptor = instr.messageDescriptor := by
  obtain ⟨opcode, -, -, rfl⟩ := (setModifier_eq_ok_iff _ _ _).mp accepted
  have agree : Encoding.Agree instr.gen.messageFields.descriptorRanges
      (instr.bits.assign [⟨instr.layout.header.modifier.toBitRange, modifier.number⟩]) instr.bits :=
    Encoding.agree_assign (Generation.modifier_apart_descriptor early) instr.bits
  exact messageDescriptor_of_agree agree

end Messages

/-- Bits 27:24 mean one thing to all readers and setters. A modifier is accepted if it
belongs to the opcode, changes no bit outside of the field and is read back. From Gen6 on
a SEND has its shared function there, in the modifier as in the descriptor. Before that
neither setter changes what the reader of the other sees. -/
theorem modifier_field (instr : Instruction) :
    (∀ modifier, (∃ written, instr.setModifier modifier = .ok written) ↔
      ∃ opcode, instr.opcode = .ok opcode ∧ modifier.BelongsTo opcode instr.gen) ∧
    (∀ modifier written, instr.setModifier modifier = .ok written →
      written.gen = instr.gen ∧ written.modifier = .ok modifier.kept ∧
        ∀ index, ¬(24 ≤ index ∧ index ≤ 27) →
          written.bits.getLsbD index = instr.bits.getLsbD index) ∧
    (6 ≤ instr.gen.number → instr.opcode = .ok .send ∨ instr.opcode = .ok .sendc →
      (∀ sfid, instr.modifier = .ok (.sharedFunction sfid) ↔
        ∃ descriptor, instr.messageDescriptor = .ok descriptor ∧ descriptor.sfid = sfid) ∧
      ∀ descriptor written, instr.setMessageDescriptor descriptor = .ok written →
        written.modifier = .ok (.sharedFunction descriptor.sfid)) ∧
    (instr.gen.number < 6 →
      (∀ descriptor written, instr.setMessageDescriptor descriptor = .ok written →
        written.modifier = instr.modifier) ∧
      ∀ modifier written, instr.setModifier modifier = .ok written →
        written.messageDescriptor = instr.messageDescriptor) := by
  refine ⟨?_, ?_, ?_, ?_⟩
  · intro modifier
    exact setModifier_accepts_iff modifier instr
  · intro modifier written accepted
    obtain ⟨-, -, -, isWritten⟩ := (setModifier_eq_ok_iff _ _ _).mp accepted
    refine ⟨isWritten ▸ rfl, modifier_setModifier accepted, ?_⟩
    intro index outside
    exact getLsbD_setModifier accepted outside
  · intro late sends
    obtain ⟨opcode, known, isSend⟩ : ∃ opcode, instr.opcode = .ok opcode ∧
        (opcode = .send ∨ opcode = .sendc) := by
      rcases sends with send | sendc
      · exact ⟨_, send, Or.inl rfl⟩
      · exact ⟨_, sendc, Or.inr rfl⟩
    constructor
    · intro sfid
      exact modifier_eq_sharedFunction_iff late known isSend sfid
    · intro descriptor written accepted
      exact modifier_setMessageDescriptor late known isSend accepted
  · intro early
    constructor
    · intro descriptor written accepted
      exact modifier_setMessageDescriptor_early early accepted
    · intro modifier written accepted
      exact messageDescriptor_setModifier_early early accepted

def emptySend (gen : Generation) : Instruction :=
  set gen.layout.header.opcode (code Opcode.send) ⟨gen, 0⟩

/-- Gen7 has a shared function of zero and takes another one. Gen5 takes the message register
18 for register 2, and a descriptor does not disturb it. -/
theorem modifier_field_send :
    (emptySend .gen7).modifier = .ok (.sharedFunction .null) ∧
      (∃ written, (emptySend .gen7).setMessageDescriptor ⟨.urb, 1, 0, false, false⟩ = .ok written ∧
        written.modifier = .ok (.sharedFunction .urb)) ∧
      (∃ written, (emptySend .gen5).setModifier (.messageRegister 18) = .ok written ∧
        written.modifier = .ok (.messageRegister 2) ∧
        written.messageDescriptor = (emptySend .gen5).messageDescriptor) ∧
      ∃ written, (emptySend .gen5).setMessageDescriptor ⟨.urb, 1, 0, false, false⟩ = .ok written ∧
        written.modifier = (emptySend .gen5).modifier := by
  obtain ⟨-, -, late, -⟩ := modifier_field (emptySend .gen7)
  obtain ⟨accepts, reads, -, early⟩ := modifier_field (emptySend .gen5)
  obtain ⟨shared, described⟩ := late (by decide) (Or.inl rfl)
  obtain ⟨descriptorKeeps, modifierKeeps⟩ := early (by decide)
  obtain ⟨moved, accepted⟩ :=
    (accepts (.messageRegister 18)).mpr ⟨.send, rfl, Or.inl rfl, by decide⟩
  refine ⟨(shared .null).mpr ⟨_, rfl, rfl⟩, ⟨_, rfl, described _ _ rfl⟩,
    ⟨moved, accepted, (reads _ _ accepted).2.1, modifierKeeps _ _ accepted⟩,
    _, rfl, descriptorKeeps _ _ rfl⟩

end Instruction

end ExecUnit
