import ExecUnit.Proofs.Message.Descriptor
import ExecUnit.Proofs.Operand.Decoding
import ExecUnit.Proofs.Operand.SourceRoundTrip

/-!
What a message helper leaves behind: the descriptor and every payload field that the
generation has (`payload_after_set`). Payload fields lie beside the descriptor and beside
each other, so a number that is too large is cut and spills into nothing.
-/

namespace ExecUnit

section Fields

namespace MessageFields

def samplerPayload (fields : MessageFields) (sampler : SamplerMessage) : List Assignment :=
  [⟨fields.samplerBindingTable.toBitRange, sampler.bindingTable⟩,
    ⟨fields.sampler.toBitRange, sampler.sampler⟩,
    ⟨fields.samplerType.toBitRange, sampler.type⟩,
    ⟨fields.samplerMode.toBitRange, sampler.mode⟩]

def urbPayload (fields : MessageFields) (urb : UrbMessage) : List Assignment :=
  [⟨fields.urbOpcode.toBitRange, urb.opcode⟩, ⟨fields.urbOffset.toBitRange, urb.offset⟩] ++
    fields.urbInterleave.toList.map (⟨·.toBitRange, urb.interleave.toNat⟩) ++
    fields.urbPerSlotOffset.toList.map (⟨·.toBitRange, 0⟩) ++
    fields.urbComplete.toList.map (⟨·.toBitRange, urb.complete.toNat⟩)

def mathPayload (fields : MessageFields) (function : MathFunction) : List Assignment :=
  fields.mathFunction.toList.map (⟨·.toBitRange, code function⟩)

def samplerRanges (fields : MessageFields) : List BitRange :=
  [fields.samplerBindingTable.toBitRange, fields.sampler.toBitRange,
    fields.samplerType.toBitRange, fields.samplerMode.toBitRange]

def urbRanges (fields : MessageFields) : List BitRange :=
  [fields.urbOpcode.toBitRange, fields.urbOffset.toBitRange] ++
    fields.urbInterleave.toList.map (·.toBitRange) ++
    fields.urbPerSlotOffset.toList.map (·.toBitRange) ++
    fields.urbComplete.toList.map (·.toBitRange)

def payloadRanges (fields : MessageFields) : List BitRange :=
  fields.samplerRanges ++ fields.urbRanges ++ [fields.functionControl.toBitRange] ++
    fields.mathFunction.toList.map (·.toBitRange)

theorem samplerRanges_subset (fields : MessageFields) :
    fields.samplerRanges ⊆ fields.payloadRanges := by
  simp only [payloadRanges, List.append_assoc]
  exact List.subset_append_left _ _

theorem urbRanges_subset (fields : MessageFields) : fields.urbRanges ⊆ fields.payloadRanges := by
  simp only [payloadRanges, List.append_assoc]
  exact List.Subset.trans (List.subset_append_left _ _) (List.subset_append_right _ _)

theorem functionControl_subset (fields : MessageFields) :
    [fields.functionControl.toBitRange] ⊆ fields.payloadRanges := by
  simp only [payloadRanges, List.append_assoc]
  exact List.Subset.trans (List.subset_append_left _ _)
    (List.Subset.trans (List.subset_append_right _ _) (List.subset_append_right _ _))

theorem mathFunction_subset {fields : MessageFields} {function : Field}
    (present : fields.mathFunction = some function) :
    [function.toBitRange] ⊆ fields.payloadRanges := by
  simp only [payloadRanges, present]
  exact List.subset_append_right _ _

theorem map_range_urbPayload (fields : MessageFields) (urb : UrbMessage) :
    (fields.urbPayload urb).map (·.range) = fields.urbRanges := by
  simp only [urbPayload, urbRanges, List.map_append, List.map_map, Function.comp_def]
  rfl

end MessageFields

namespace Generation

theorem payload_apart_descriptor (gen : Generation) :
    Apart gen.messageFields.descriptorRanges gen.messageFields.payloadRanges := by
  cases gen <;> decide

theorem payload_apart_src0 (gen : Generation) :
    Apart (gen.layout.header.accessMode.toBitRange :: gen.layout.src0.ranges)
      gen.messageFields.payloadRanges := by
  cases gen <;> decide

theorem payload_separate (gen : Generation) :
    Separate gen.messageFields.samplerRanges ∧ Separate gen.messageFields.urbRanges := by
  cases gen <;> decide

/-- The parts of function control that a dataport message names, from Gen7 on. -/
def dataportPayload (gen : Generation) (dataport : DataportMessage) : List Assignment :=
  let fields :=
    if gen = .gen7 then
      (Gen7Message.dataportControl, Gen7Message.dataportType, Gen7Message.dataportCategory)
    else (Gen8Message.dataportControl, Gen8Message.dataportType, Gen8Message.dataportCategory)
  [⟨gen.messageFields.dataportBindingTable.toBitRange, dataport.bindingTable⟩,
    ⟨fields.1.toBitRange, dataport.control⟩, ⟨fields.2.1.toBitRange, dataport.type⟩,
    ⟨fields.2.2.toBitRange, dataport.type >>> 4⟩]

def firstPayload (gen : Generation) : Register :=
  if gen.hasMessageFile then .message 1 0 else .general 113 0

-- That register as src0 decodes it: Align16 regions are four wide.
def urbSource (gen : Generation) (mode : AccessMode) : Register :=
  gen.firstPayload.withRegion (.contiguous (if mode = .align1 then .w8 else .w4))

theorem urbSource_file (gen : Generation) (mode : AccessMode) :
    code RegisterFile.immediate ≠ code (gen.urbSource mode).file := by
  cases gen <;> cases mode <;> decide

end Generation

end Fields

theorem BitRange.get_of_inside {inner outer : BitRange} (low : outer.low ≤ inner.low)
    (high : inner.high ≤ outer.high) (bits : Encoding) :
    inner.get bits = (outer.get bits >>> (inner.low - outer.low)) % inner.capacity := by
  apply Nat.eq_of_testBit_eq
  intro index
  have ordered := inner.ordered
  rw [capacity_eq, Nat.pow_eq, Nat.testBit_mod_two_pow, Nat.testBit_shiftRight, testBit_get,
    testBit_get]
  by_cases fits : index < inner.width
  · have fits' : inner.low - outer.low + index < outer.width := by
      simp only [width] at fits ⊢
      omega
    have same : outer.low + (inner.low - outer.low + index) = inner.low + index := by omega
    simp [fits, fits', same]
  · simp [fits]

namespace Instruction

theorem get_of_functionControl {bits : Encoding} {number : Nat}
    (whole : Gen7Message.functionControl.get bits = number) {inner : BitRange} (shift : Nat)
    (low : inner.low = 96 + shift) (high : inner.high ≤ 114) :
    inner.get bits = number / Nat.pow 2 shift % inner.capacity := by
  have inside : Gen7Message.functionControl.low ≤ inner.low :=
    Nat.le_trans (Nat.le_add_right 96 shift) (Nat.le_of_eq low.symm)
  have offset : inner.low - Gen7Message.functionControl.low = shift := by
    rw [low]
    exact Nat.add_sub_cancel_left _ _
  rw [BitRange.get_of_inside inside high, whole, offset, Nat.shiftRight_eq_div_pow]
  rfl

theorem get_functionControl {gen : Generation} (late : 7 ≤ gen.number)
    {dataport : DataportMessage} (index : dataport.bindingTable ≤ 0xff)
    (type : dataport.type ≤ 0x1f) (control : dataport.control ≤ 0x3f) {bits : Encoding}
    (stored : gen.messageFields.functionControl.get bits =
      dataport.functionControl % gen.messageFields.functionControl.capacity) :
    gen.messageFields.functionControl.get bits =
      dataport.bindingTable + 256 * dataport.control + 16384 * dataport.type := by
  -- From Gen7 on function control has room for every message that is accepted.
  have room : gen.messageFields.functionControl.capacity = 524288 := by
    cases gen <;> first | rfl | exact absurd late (by decide)
  rw [stored, room, DataportMessage.functionControl, Nat.shiftLeft_eq, Nat.shiftLeft_eq]
  omega

-- Function control holds the whole message, so its parts hold theirs.
theorem stores_dataportPayload {gen : Generation} (late : 7 ≤ gen.number)
    {dataport : DataportMessage} (index : dataport.bindingTable ≤ 0xff)
    (type : dataport.type ≤ 0x1f) (control : dataport.control ≤ 0x3f) {bits : Encoding}
    (stored : gen.messageFields.functionControl.get bits =
      dataport.functionControl % gen.messageFields.functionControl.capacity) :
    bits.Stores (gen.dataportPayload dataport) := by
  -- The last three generations keep these fields in the same places.
  have same : gen.messageFields.functionControl = Gen7Message.functionControl ∧
      gen.dataportPayload dataport = Generation.gen7.dataportPayload dataport := by
    cases gen <;> first | exact ⟨rfl, rfl⟩ | exact absurd late (by decide)
  have whole := get_functionControl late index type control stored
  rw [same.1] at whole
  rw [same.2]
  have atIndex : Gen7Message.dataportBindingTable.get bits = dataport.bindingTable % 256 := by
    rw [get_of_functionControl whole 0 rfl (by decide),
      show Gen7Message.dataportBindingTable.capacity = 256 from rfl]
    simp only [Nat.pow_eq]
    omega
  have atControl : Gen7Message.dataportControl.get bits = dataport.control % 64 := by
    rw [get_of_functionControl whole 8 rfl (by decide),
      show Gen7Message.dataportControl.capacity = 64 from rfl]
    simp only [Nat.pow_eq]
    omega
  have atType : Gen7Message.dataportType.get bits = dataport.type % 16 := by
    rw [get_of_functionControl whole 14 rfl (by decide),
      show Gen7Message.dataportType.capacity = 16 from rfl]
    simp only [Nat.pow_eq]
    omega
  have atCategory : Gen7Message.dataportCategory.get bits = (dataport.type >>> 4) % 2 := by
    rw [get_of_functionControl whole 18 rfl (by decide),
      show Gen7Message.dataportCategory.capacity = 2 from rfl,
      Nat.shiftRight_eq_div_pow]
    simp only [Nat.pow_eq]
    omega
  simp only [Generation.dataportPayload, Encoding.stores_cons]
  exact ⟨atIndex, atControl, atType, atCategory, List.forall_mem_nil _⟩

theorem set_eq_assign (field : Field) (value : Nat) (instr : Instruction) :
    instr.set field value = ⟨instr.gen, instr.bits.assign [⟨field.toBitRange, value⟩]⟩ :=
  rfl

theorem setAny_eq_assign (field? : Option Field) (value : Nat) (instr : Instruction) :
    instr.setAny field? value =
      ⟨instr.gen, instr.bits.assign (field?.toList.map (⟨·.toBitRange, value⟩))⟩ := by
  cases field? <;> rfl

theorem writeUrb_eq (fields : MessageFields) (urb : UrbMessage) (instr : Instruction) :
    (instr
      |> set fields.urbOpcode urb.opcode
      |> set fields.urbOffset urb.offset
      |> setAny fields.urbInterleave urb.interleave.toNat
      |> setAny fields.urbPerSlotOffset 0
      |> setAny fields.urbComplete urb.complete.toNat) =
      ⟨instr.gen, instr.bits.assign (fields.urbPayload urb)⟩ := by
  simp only [set_eq_assign, setAny_eq_assign, ← Encoding.assign_append, MessageFields.urbPayload,
    List.append_assoc, List.cons_append, List.nil_append]

theorem accessMode_described (gen : Generation) (descriptor : MessageDescriptor)
    (bits : Encoding) :
    accessMode ⟨gen, bits.described gen descriptor⟩ = accessMode ⟨gen, bits⟩ := by
  apply accessMode_of_agree
  have clear := (gen.layoutKind.steering_apart_source .src1).mono
    (List.cons_subset.mpr ⟨gen.layout.header.accessMode_mem_steeringRanges, List.nil_subset _⟩)
    (List.Subset.refl _)
  exact agree_described descriptor bits clear gen.accessMode_apart_descriptor _ List.mem_cons_self

/-- What a helper leaves behind: the descriptor, up to what its fields keep, and a number in
each field of the payload, reduced to the room there is. -/
structure Carries (written : Instruction) (gen : Generation) (descriptor : MessageDescriptor)
    (payload : List Assignment) : Prop where
  sameGen : written.gen = gen
  described : written.messageDescriptor = .ok (descriptor.kept gen)
  stored : written.bits.Stores payload

theorem carries_assign {gen : Generation} {descriptor : MessageDescriptor} {bits : Encoding}
    (payload : List Assignment)
    (described : messageDescriptor ⟨gen, bits⟩ = .ok (descriptor.kept gen))
    (inside : payload.map (·.range) ⊆ gen.messageFields.payloadRanges)
    (separate : Separate (payload.map (·.range))) :
    Carries ⟨gen, bits.assign payload⟩ gen descriptor payload := by
  have apart := gen.payload_apart_descriptor.mono (List.Subset.refl _) inside
  refine ⟨rfl, ?_, Encoding.stores_assign (consistent_of_separate separate) bits⟩
  exact (messageDescriptor_of_agree (Encoding.agree_assign apart bits)).trans described

theorem setMessageDescriptor_eq_ok {descriptor : MessageDescriptor} {instr described : Instruction}
    (accepted : instr.setMessageDescriptor descriptor = .ok described) :
    described = ⟨instr.gen, instr.bits.described instr.gen descriptor⟩ := by
  cases free : instr.hasImmediateSrc0 with
  | false =>
      rw [setMessageDescriptor_eq descriptor free] at accepted
      exact (Except.ok.inj accepted).symm
  | true =>
      obtain ⟨cleared, typed, -⟩ := (bind_eq_ok_iff _ _ _).mp accepted
      obtain ⟨codes, judged, -⟩ := (setSource_eq_ok_iff _ _ _ _).mp typed
      obtain ⟨-, -, -, -, -, -, slot, -⟩ := (judgeSource_eq_ok_iff _ _ _ _).mp judged
      have free' := (demand_eq_ok_iff _ _ _).mp slot
      rw [free] at free'
      cases free'

theorem keptSource_urbSource (gen : Generation) (registers : Nat) (mode : AccessMode)
    (oneChannel : Bool) :
    gen.firstPayload.keptSource registers mode oneChannel = gen.urbSource mode := by
  cases gen <;> cases mode <;> rfl

theorem loaded_of_setSrc0 {gen : Generation} {bits : Encoding} {loaded : Instruction}
    (accepted : setSrc0 (.message 1 0) ⟨gen, bits⟩ = .ok loaded) :
    ∃ writes : List Assignment, writes.map (·.range) ⊆ gen.layout.src0.ranges ∧
      loaded = ⟨gen, bits.assign writes⟩ ∧
      loaded.src0 = .ok (gen.urbSource (accessMode ⟨gen, bits⟩)) := by
  have register : (Register.message 1 0).isImmediate = false := rfl
  obtain ⟨writes, within, isLoaded, -⟩ := setSource_register_steady gen .src0 register bits bits _ _
    (fun _ _ => rfl) accepted accepted
  refine ⟨writes, within, isLoaded, ?_⟩
  obtain ⟨codes, judged, rfl⟩ := (setSource_eq_ok_iff _ _ _ _).mp accepted
  obtain ⟨placed, isPlaced, atSrc0⟩ := source_of_judged judged
  obtain rfl : placed = gen.firstPayload := by
    rw [((Register.placed_eq_ok_iff _ _ _).mp isPlaced).1]
    cases gen <;> rfl
  rwa [keptSource_urbSource] at atSrc0

section Helpers

variable {instr written : Instruction} {length response : Nat}

theorem carries_of_sampler {sampler : SamplerMessage} {header : Bool}
    (accepted : instr.setSamplerMessage sampler length response header = .ok written) :
    written.Carries instr.gen ⟨.sampler, length, response, header, false⟩
      (instr.gen.messageFields.samplerPayload sampler) := by
  obtain ⟨described, isDescribed, made⟩ := (bind_eq_ok_iff _ _ _).mp accepted
  obtain rfl := setMessageDescriptor_eq_ok isDescribed
  simp only [set_eq_assign, ← Encoding.assign_append, pure_eq_ok_iff] at made
  subst made
  exact carries_assign _ (messageDescriptor_described instr.gen
    ⟨.sampler, length, response, header, false⟩ instr.bits)
    instr.gen.messageFields.samplerRanges_subset instr.gen.payload_separate.1

theorem carries_of_math {function : MathFunction}
    (accepted : instr.setMathMessage function length response = .ok written) :
    written.Carries instr.gen ⟨.math, length, response, false, false⟩
      (instr.gen.messageFields.mathPayload function) := by
  obtain ⟨field, found, accepted⟩ := (bind_eq_ok_iff _ _ _).mp accepted
  obtain ⟨described, isDescribed, made⟩ := (bind_eq_ok_iff _ _ _).mp accepted
  obtain rfl := setMessageDescriptor_eq_ok isDescribed
  obtain rfl := (pure_eq_ok_iff _ _).mp made
  have present := (orRefuse_eq_ok_iff _ _ _).mp found
  have payload : instr.gen.messageFields.mathPayload function =
      [⟨field.toBitRange, code function⟩] := by
    rw [MessageFields.mathPayload, present]
    rfl
  have separate : Separate [field.toBitRange] := List.pairwise_singleton _ _
  rw [set_eq_assign, payload]
  exact carries_assign _ (messageDescriptor_described instr.gen
    ⟨.math, length, response, false, false⟩ instr.bits)
    (MessageFields.mathFunction_subset present) separate

-- The message is written to function control as one number.
theorem carriesControl_of_dataport {dataport : DataportMessage} {header endOfThread : Bool}
    (accepted :
      instr.setDataportMessage dataport length response header endOfThread = .ok written) :
    (7 ≤ instr.gen.number ∧ dataport.sfid.isDataport = true ∧ dataport.bindingTable ≤ 0xff ∧
      dataport.type ≤ 0x1f ∧ dataport.control ≤ 0x3f) ∧
    written.Carries instr.gen ⟨dataport.sfid, length, response, header, endOfThread⟩
      [⟨instr.gen.messageFields.functionControl.toBitRange, dataport.functionControl⟩] := by
  simp only [setDataportMessage, bind_eq_ok_iff, pure_eq_ok_iff, demand_eq_ok_iff] at accepted
  obtain ⟨_, late, _, port, _, index, _, type, _, control, described, isDescribed, rfl⟩ := accepted
  obtain rfl := setMessageDescriptor_eq_ok isDescribed
  have separate : Separate [instr.gen.messageFields.functionControl.toBitRange] :=
    List.pairwise_singleton _ _
  exact ⟨⟨late, port, index, type, control⟩, carries_assign
    [⟨instr.gen.messageFields.functionControl.toBitRange, dataport.functionControl⟩]
    (messageDescriptor_described instr.gen ⟨dataport.sfid, length, response, header, endOfThread⟩
      instr.bits) instr.gen.messageFields.functionControl_subset separate⟩

theorem carries_of_dataport {dataport : DataportMessage} {header endOfThread : Bool}
    (accepted :
      instr.setDataportMessage dataport length response header endOfThread = .ok written) :
    written.Carries instr.gen ⟨dataport.sfid, length, response, header, endOfThread⟩
      (instr.gen.dataportPayload dataport) := by
  obtain ⟨⟨late, -, index, type, control⟩, carries⟩ := carriesControl_of_dataport accepted
  have atControl := ((Encoding.stores_cons _ _ _ _).mp carries.stored).1
  exact ⟨carries.sameGen, carries.described,
    stores_dataportPayload late index type control atControl⟩

theorem carries_of_urb {urb : UrbMessage} {endOfThread : Bool}
    (accepted : instr.setUrbMessage urb length response endOfThread = .ok written) :
    written.Carries instr.gen ⟨.urb, length, response, true, endOfThread⟩
        (instr.gen.messageFields.urbPayload urb) ∧
      written.src0 = .ok (instr.gen.urbSource instr.accessMode) := by
  obtain ⟨described, isDescribed, accepted⟩ := (bind_eq_ok_iff _ _ _).mp accepted
  obtain ⟨loaded, isLoaded, made⟩ := (bind_eq_ok_iff _ _ _).mp accepted
  obtain rfl := setMessageDescriptor_eq_ok isDescribed
  rw [pure_eq_ok_iff, writeUrb_eq] at made
  obtain ⟨writes, inSrc0, rfl, atSrc0⟩ := loaded_of_setSrc0 isLoaded
  subst made
  rw [accessMode_described] at atSrc0
  have apart := instr.gen.payload_separate.2
  rw [← MessageFields.map_range_urbPayload _ urb] at apart
  have inside : (instr.gen.messageFields.urbPayload urb).map (·.range) ⊆
      instr.gen.messageFields.payloadRanges := by
    rw [MessageFields.map_range_urbPayload]
    exact instr.gen.messageFields.urbRanges_subset
  constructor
  · -- Loading src0 changes nothing of the descriptor.
    have clear := instr.gen.descriptor_apart.mono (List.Subset.refl _)
      (List.Subset.trans inSrc0 (List.subset_append_right _ _))
    have stays := (messageDescriptor_of_agree (Encoding.agree_assign clear _)).trans
      (messageDescriptor_described instr.gen ⟨.urb, length, response, true, endOfThread⟩
        instr.bits)
    exact carries_assign _ stays inside apart
  · have agree := Encoding.agree_assign
      (instr.gen.payload_apart_src0.mono (List.Subset.refl _) inside) (Encoding.assign writes
        (instr.bits.described instr.gen ⟨.urb, length, response, true, endOfThread⟩))
    obtain ⟨mode, fields⟩ := (Encoding.Agree.cons_iff _ _ _ _).mp agree
    have file := SourceFields.file_of_decode (instr.gen.layoutKind.source_sized .src0) atSrc0
    refine (source_of_agree .src0 mode fields fun immediate => ?_).trans atSrc0
    exact absurd (immediate.symm.trans file) (instr.gen.urbSource_file instr.accessMode)

end Helpers

/-- Whatever a message helper accepts, the descriptor and the payload are read back
afterwards, each number reduced to the room of its field. -/
theorem payload_after_set (instr written : Instruction) (length response : Nat) :
    (∀ (sampler : SamplerMessage) (header : Bool),
      instr.setSamplerMessage sampler length response header = .ok written →
      written.Carries instr.gen ⟨.sampler, length, response, header, false⟩
        (instr.gen.messageFields.samplerPayload sampler)) ∧
    (∀ (urb : UrbMessage) (endOfThread : Bool),
      instr.setUrbMessage urb length response endOfThread = .ok written →
      written.Carries instr.gen ⟨.urb, length, response, true, endOfThread⟩
          (instr.gen.messageFields.urbPayload urb) ∧
        written.src0 = .ok (instr.gen.urbSource instr.accessMode)) ∧
    (∀ (dataport : DataportMessage) (header endOfThread : Bool),
      instr.setDataportMessage dataport length response header endOfThread = .ok written →
      written.Carries instr.gen ⟨dataport.sfid, length, response, header, endOfThread⟩
        (instr.gen.dataportPayload dataport)) ∧
    ∀ function : MathFunction, instr.setMathMessage function length response = .ok written →
      written.Carries instr.gen ⟨.math, length, response, false, false⟩
        (instr.gen.messageFields.mathPayload function) := by
  refine ⟨?_, ?_, ?_, ?_⟩
  · intro sampler header accepted
    exact carries_of_sampler accepted
  · intro urb endOfThread accepted
    exact carries_of_urb accepted
  · intro dataport header endOfThread accepted
    exact carries_of_dataport accepted
  · intro function accepted
    exact carries_of_math accepted

def eightChannels (gen : Generation) : Instruction :=
  setExecSize .e8 ⟨gen, 0⟩

/-- Numbers too large for their fields, wherever a helper accepts such. The type 21 of the
dataport message is 5 and the category. -/
theorem payload_after_set_oversized :
    (∃ written, (eightChannels .gen4).setSamplerMessage ⟨300, 17, 7, 5⟩ 19 35 true = .ok written ∧
      written.messageDescriptor = .ok ⟨.sampler, 3, 3, false, false⟩ ∧
      written.get Gen4Message.sampler = 1) ∧
    (∃ written, (eightChannels .gen8).setUrbMessage ⟨19, 5000, true, true⟩ 19 35 true =
        .ok written ∧
      written.messageDescriptor = .ok ⟨.urb, 3, 3, true, true⟩ ∧
      written.get Gen8Message.urbOffset = 904 ∧ written.src0 = .ok (.general 113 0)) ∧
    (∃ written, (eightChannels .gen7).setDataportMessage ⟨.dataCache, 9, 21, 2⟩ 19 35 true false =
        .ok written ∧
      written.messageDescriptor = .ok ⟨.dataCache, 3, 3, true, false⟩ ∧
      written.get Gen7Message.dataportType = 5 ∧
      written.get Gen7Message.dataportCategory = 1) ∧
    ∃ written, (eightChannels .gen5).setMathMessage .pow 19 35 = .ok written ∧
      written.messageDescriptor = .ok ⟨.math, 3, 3, false, false⟩ ∧
      written.get Gen5Message.mathFunction = code MathFunction.pow := by
  refine ⟨?_, ?_, ?_, ?_⟩
  · obtain ⟨written, accepted⟩ : ∃ written, (eightChannels .gen4).setSamplerMessage
        ⟨300, 17, 7, 5⟩ 19 35 true = .ok written := ⟨_, rfl⟩
    have carries := (payload_after_set _ _ _ _).1 _ _ accepted
    refine ⟨written, accepted, carries.described, ?_⟩
    exact carries.stored ⟨Gen4Message.sampler.toBitRange, 17⟩ (by decide)
  · obtain ⟨written, accepted⟩ : ∃ written, (eightChannels .gen8).setUrbMessage
        ⟨19, 5000, true, true⟩ 19 35 true = .ok written := ⟨_, rfl⟩
    obtain ⟨carries, atSrc0⟩ := (payload_after_set _ _ _ _).2.1 _ _ accepted
    refine ⟨written, accepted, carries.described, ?_, atSrc0⟩
    exact carries.stored ⟨Gen8Message.urbOffset.toBitRange, 5000⟩ (by decide)
  · obtain ⟨written, accepted⟩ : ∃ written, (eightChannels .gen7).setDataportMessage
        ⟨.dataCache, 9, 21, 2⟩ 19 35 true false = .ok written := ⟨_, rfl⟩
    have carries := (payload_after_set _ _ _ _).2.2.1 _ _ _ accepted
    refine ⟨written, accepted, carries.described, ?_, ?_⟩
    · exact carries.stored ⟨Gen7Message.dataportType.toBitRange, 21⟩ (by decide)
    · exact carries.stored ⟨Gen7Message.dataportCategory.toBitRange, 21 >>> 4⟩ (by decide)
  · obtain ⟨written, accepted⟩ : ∃ written, (eightChannels .gen5).setMathMessage .pow 19 35 =
        .ok written := ⟨_, rfl⟩
    have carries := (payload_after_set _ _ _ _).2.2.2 _ accepted
    refine ⟨written, accepted, carries.described, ?_⟩
    exact carries.stored ⟨Gen5Message.mathFunction.toBitRange, code MathFunction.pow⟩ (by decide)

end Instruction

end ExecUnit
