import ExecUnit.Proofs.Layout.Words
import ExecUnit.Proofs.Listing.Operands
import ExecUnit.Proofs.Operand.Frame

/-!
Listings factor through decoding: `listing_of_sameReading`. Apart from mask control,
the flag register and the jump targets, what is shown of the header lies in word 0,
and what is shown of a message in word 3. Operands are shown as their registers are.
-/

namespace ExecUnit

open Encoding (Agree)

/-- The header fields that listings show, without mask control and the flag register,
which some layouts keep in word 1. -/
def HeaderFields.shownFields (fields : HeaderFields) : List Field :=
  [fields.opcode, fields.accessMode, fields.dependencyControl, fields.quarterControl,
    fields.threadControl, fields.predicateControl, fields.predicateInverse, fields.execSize,
    fields.modifier, fields.accWriteControl, fields.debugControl, fields.saturate]

/-- What is read of the header outside of word 0 in some layout: mask control and the flag
registers. -/
def Generation.wanderingRanges (gen : Generation) : List BitRange :=
  let header := gen.layout.header
  let triple := gen.layout.triple
  [header.maskControl.toBitRange, header.flag.number.toBitRange, header.flag.subreg.toBitRange,
    triple.flag.number.toBitRange, triple.flag.subreg.toBitRange]

theorem LayoutKind.shownFields_in_word (kind : LayoutKind) :
    ∀ field ∈ kind.layout.header.shownFields, field.low / 32 = 0 := by
  cases kind <;> decide

/-- The fields that the second line of SEND shows, without the shared function. -/
def MessageFields.shownFields (fields : MessageFields) : List Field :=
  [fields.eot, fields.length, fields.responseLength, fields.functionControl,
    fields.samplerBindingTable, fields.sampler, fields.samplerType, fields.samplerMode,
    fields.urbOpcode, fields.urbOffset, fields.dataportBindingTable] ++
    fields.urbInterleave.toList ++ fields.urbPerSlotOffset.toList ++
    fields.urbComplete.toList ++ fields.mathFunction.toList

theorem Generation.shownFields_in_word (gen : Generation) :
    ∀ field ∈ gen.messageFields.shownFields, field.low / 32 = 3 := by
  cases gen <;> decide

theorem MessageForm.ofSfid_eq_math_iff (fields : MessageFields) (target? : Option Sfid)
    (function : Field) :
    ofSfid fields target? = .math function ↔
      target? = some .math ∧ fields.mathFunction = some function := by
  rcases target? with _ | target
  · simp [ofSfid]
  · cases target <;> cases present : fields.mathFunction <;> simp [ofSfid, present, Sfid.isDataport]

/-- Two encodings decode to the same. SEND also shows its message, which is word 3 and
the shared function. -/
structure SameReading (gen : Generation) (left right : Encoding) : Prop where
  header : left.word 0 = right.word 0
  maskControl : gen.layout.header.maskControl.get left = gen.layout.header.maskControl.get right
  flagRegister : Instruction.flagRegister ⟨gen, left⟩ = Instruction.flagRegister ⟨gen, right⟩
  jumpTargets : Instruction.jumpTargets ⟨gen, left⟩ = Instruction.jumpTargets ⟨gen, right⟩
  operands : ∀ kind ∈ Instruction.operandKinds ⟨gen, left⟩, ∃ register,
    Instruction.operand kind ⟨gen, left⟩ = .ok register ∧
      Instruction.operand kind ⟨gen, right⟩ = .ok register
  message : Instruction.isSend ⟨gen, left⟩ = true →
    left.word 3 = right.word 3 ∧
      Instruction.sfidNumber ⟨gen, left⟩ = Instruction.sfidNumber ⟨gen, right⟩

namespace Instruction

section Header

variable (gen : Generation) {left right : Encoding} (same : left.word 0 = right.word 0)
include same

theorem get_of_header : ∀ field ∈ gen.layout.header.shownFields,
    get field ⟨gen, left⟩ = get field ⟨gen, right⟩ := by
  intro field shown
  exact field.get_of_word ((gen.layoutKind.shownFields_in_word field shown).symm ▸ same)

theorem isSet_of_header : ∀ field ∈ gen.layout.header.shownFields,
    isSet field ⟨gen, left⟩ = isSet field ⟨gen, right⟩ :=
  fun field shown => isSet_of_agree (get_of_header gen same field shown)

theorem knownOpcode?_of_header : knownOpcode? ⟨gen, left⟩ = knownOpcode? ⟨gen, right⟩ :=
  knownOpcode?_of_agree (get_of_header gen same _ List.mem_cons_self)

theorem opcodeInfo_of_header : opcodeInfo ⟨gen, left⟩ = opcodeInfo ⟨gen, right⟩ := by
  rw [opcodeInfo, opcodeInfo, knownOpcode?_of_header gen same]

theorem isSend_of_header : isSend ⟨gen, left⟩ = isSend ⟨gen, right⟩ := by
  rw [isSend, isSend, knownOpcode?_of_header gen same]

theorem isNop_of_header : isNop ⟨gen, left⟩ = isNop ⟨gen, right⟩ := by
  rw [isNop, isNop, knownOpcode?_of_header gen same]

theorem accessMode_of_header : accessMode ⟨gen, left⟩ = accessMode ⟨gen, right⟩ :=
  accessMode_of_agree (get_of_header gen same _ (List.mem_cons_of_mem _ List.mem_cons_self))

theorem flagRegister_of_wandering (agree : Agree gen.wanderingRanges left right) :
    flagRegister ⟨gen, left⟩ = flagRegister ⟨gen, right⟩ := by
  have opcode : gen.layout.header.opcode.get left = gen.layout.header.opcode.get right :=
    get_of_header gen same _ List.mem_cons_self
  simp only [Generation.wanderingRanges, Agree.cons_iff] at agree
  obtain ⟨-, number, subreg, tripleNumber, tripleSubreg, -⟩ := agree
  rw [flagRegister, flagRegister, flagFields, flagFields, isThreeSource_of_agree opcode]
  split
  · exact congr (congrArg Prod.mk tripleNumber) tripleSubreg
  · exact congr (congrArg Prod.mk number) subreg

theorem mnemonicPieces_of_header : mnemonicPieces ⟨gen, left⟩ = mnemonicPieces ⟨gen, right⟩ := by
  have numbers := get_of_header gen same
  have flags := isSet_of_header gen same
  simp only [HeaderFields.shownFields, List.forall_mem_cons] at numbers flags
  simp only [mnemonicPieces, layout, numbers, flags, knownOpcode?_of_header gen same]
  rfl

theorem execSizePieces_of_header : execSizePieces ⟨gen, left⟩ = execSizePieces ⟨gen, right⟩ := by
  have numbers := get_of_header gen same
  simp only [HeaderFields.shownFields, List.forall_mem_cons] at numbers
  simp only [execSizePieces, layout, numbers, isNop_of_header gen same]

theorem quarterPieces_of_header : quarterPieces ⟨gen, left⟩ = quarterPieces ⟨gen, right⟩ := by
  have numbers := get_of_header gen same
  simp only [HeaderFields.shownFields, List.forall_mem_cons] at numbers
  simp only [quarterPieces, layout, numbers]
  rfl

theorem predicatePieces_of_header
    (flag : flagRegister ⟨gen, left⟩ = flagRegister ⟨gen, right⟩) :
    predicatePieces ⟨gen, left⟩ = predicatePieces ⟨gen, right⟩ := by
  have numbers := get_of_header gen same
  have flags := isSet_of_header gen same
  simp only [HeaderFields.shownFields, List.forall_mem_cons] at numbers flags
  simp only [predicatePieces, flagRegisterPieces, layout, numbers, flags, flag,
    accessMode_of_header gen same]
  rfl

theorem modifierPieces_of_header
    (flag : flagRegister ⟨gen, left⟩ = flagRegister ⟨gen, right⟩) :
    modifierPieces ⟨gen, left⟩ = modifierPieces ⟨gen, right⟩ := by
  have numbers := get_of_header gen same
  simp only [HeaderFields.shownFields, List.forall_mem_cons] at numbers
  simp only [modifierPieces, conditionPieces, flagRegisterPieces, dropsFlag, layout, numbers, flag,
    knownOpcode?_of_header gen same]
  rfl

-- Only SEND looks at word 3 for its settings.
theorem endOfThreadPieces_of_header
    (payload : isSend ⟨gen, left⟩ = true → left.word 3 = right.word 3) :
    endOfThreadPieces ⟨gen, left⟩ = endOfThreadPieces ⟨gen, right⟩ := by
  rw [endOfThreadPieces, endOfThreadPieces, ← isSend_of_header gen same]
  cases sends : isSend ⟨gen, left⟩ with
  | false => rfl
  | true =>
      have shown : gen.messageFields.eot.get left = gen.messageFields.eot.get right :=
        gen.messageFields.eot.get_of_word
          ((gen.shownFields_in_word _ List.mem_cons_self).symm ▸ payload sends)
      rw [isSet_of_agree shown]

theorem settingPieces_of_header
    (mask : gen.layout.header.maskControl.get left = gen.layout.header.maskControl.get right)
    (payload : isSend ⟨gen, left⟩ = true → left.word 3 = right.word 3) :
    settingPieces ⟨gen, left⟩ = settingPieces ⟨gen, right⟩ := by
  have numbers := get_of_header gen same
  have flags := isSet_of_header gen same
  have mask : get gen.layout.header.maskControl ⟨gen, left⟩ =
      get gen.layout.header.maskControl ⟨gen, right⟩ := mask
  simp only [HeaderFields.shownFields, List.forall_mem_cons] at numbers flags
  simp only [settingPieces, layout, numbers, flags, mask, accessMode_of_header gen same,
    quarterPieces_of_header gen same, endOfThreadPieces_of_header gen same payload]
  rfl

end Header

section Message

variable (gen : Generation) {left right : Encoding} (same : left.word 3 = right.word 3)
include same

theorem get_of_payload : ∀ field ∈ gen.messageFields.shownFields,
    get field ⟨gen, left⟩ = get field ⟨gen, right⟩ := by
  intro field shown
  exact field.get_of_word ((gen.shownFields_in_word field shown).symm ▸ same)

theorem any_isSet_of_payload {field? : Option Field}
    (shown : ∀ field, field? = some field → field ∈ gen.messageFields.shownFields) :
    field?.any (isSet · ⟨gen, left⟩) = field?.any (isSet · ⟨gen, right⟩) := by
  cases field? with
  | none => rfl
  | some field => exact isSet_of_agree (get_of_payload gen same field (shown field rfl))

theorem urbPieces_of_payload : urbPieces ⟨gen, left⟩ = urbPieces ⟨gen, right⟩ := by
  have numbers := get_of_payload gen same
  have slotOffset : gen.messageFields.urbPerSlotOffset.elim 0 (get · ⟨gen, left⟩) =
      gen.messageFields.urbPerSlotOffset.elim 0 (get · ⟨gen, right⟩) := by
    cases present : gen.messageFields.urbPerSlotOffset with
    | none => rfl
    | some field => exact numbers field (by simp [MessageFields.shownFields, present])
  have interleave : gen.messageFields.urbInterleave.any (isSet · ⟨gen, left⟩) =
      gen.messageFields.urbInterleave.any (isSet · ⟨gen, right⟩) :=
    any_isSet_of_payload gen same fun field present => by
      simp [MessageFields.shownFields, present]
  have complete : gen.messageFields.urbComplete.any (isSet · ⟨gen, left⟩) =
      gen.messageFields.urbComplete.any (isSet · ⟨gen, right⟩) :=
    any_isSet_of_payload gen same fun field present => by
      simp [MessageFields.shownFields, present]
  simp only [MessageFields.shownFields, List.forall_mem_append, List.forall_mem_cons] at numbers
  simp only [urbPieces, flagPieces, numbers, slotOffset, interleave, complete]

theorem payloadPieces_of_payload
    (sfid : sfidNumber ⟨gen, left⟩ = sfidNumber ⟨gen, right⟩) :
    payloadPieces ⟨gen, left⟩ = payloadPieces ⟨gen, right⟩ := by
  have numbers := get_of_payload gen same
  -- The shared function chooses the form, and everything that a form shows is in word 3.
  have form : messageForm ⟨gen, left⟩ = messageForm ⟨gen, right⟩ := by
    rw [messageForm, messageForm, sfid]
  rw [payloadPieces, payloadPieces, form, urbPieces_of_payload gen same, sfid]
  cases kind : messageForm ⟨gen, right⟩ with
  | urb => rfl
  | unsupported => rfl
  | math function =>
      have present := ((MessageForm.ofSfid_eq_math_iff _ _ _).mp kind).2
      have shown : function ∈ gen.messageFields.shownFields := by
        simp [MessageFields.shownFields, present]
      exact congrArg (spaced "function" .mathFunction) (numbers function shown)
  | _ =>
      simp only [MessageFields.shownFields, List.forall_mem_append, List.forall_mem_cons] at numbers
      simp only [samplerPieces, dataportPieces, numbers]

theorem messagePieces_of_payload
    (sfid : sfidNumber ⟨gen, left⟩ = sfidNumber ⟨gen, right⟩) :
    messagePieces ⟨gen, left⟩ = messagePieces ⟨gen, right⟩ := by
  have numbers := get_of_payload gen same
  simp only [MessageFields.shownFields, List.forall_mem_append, List.forall_mem_cons] at numbers
  have spaces : spacesLengths ⟨gen, left⟩ = spacesLengths ⟨gen, right⟩ := by
    rw [spacesLengths, spacesLengths, messageForm, messageForm, sfidWord?, sfidWord?, sfid]
  simp only [messagePieces, lengthPieces, numbers, spaces, sfid,
    payloadPieces_of_payload gen same sfid]

end Message

section Reading

variable {gen : Generation} {left right : Encoding}

theorem targetPieces_of_reading (same : SameReading gen left right) :
    targetPieces ⟨gen, left⟩ = targetPieces ⟨gen, right⟩ := by
  rw [targetPieces, targetPieces, jumpPieces, jumpPieces, opcodeInfo_of_header gen same.header,
    knownOpcode?_of_header gen same.header, same.jumpTargets]

theorem operandPieces_of_reading (same : SameReading gen left right) :
    operandPieces ⟨gen, left⟩ = operandPieces ⟨gen, right⟩ := by
  have kinds : operandKinds ⟨gen, left⟩ = operandKinds ⟨gen, right⟩ :=
    operandKinds_of_agree (get_of_header gen same.header _ List.mem_cons_self)
  apply operandPieces_of_shown (targetPieces_of_reading same) kinds
  intro kind member
  obtain ⟨register, atLeft, atRight⟩ := same.operands kind (kinds ▸ member)
  -- The register and the access mode decide what is shown, on either side.
  rw [shownOperand_of_decoded kind atLeft, shownOperand_of_decoded kind atRight,
    accessMode_of_header gen same.header]

-- The header and, for SEND, word 3 decide all of a listing but the operands.
theorem listing_of_operandPieces (header : left.word 0 = right.word 0)
    (mask : gen.layout.header.maskControl.get left = gen.layout.header.maskControl.get right)
    (flag : flagRegister ⟨gen, left⟩ = flagRegister ⟨gen, right⟩)
    (message : isSend ⟨gen, left⟩ = true →
      left.word 3 = right.word 3 ∧ sfidNumber ⟨gen, left⟩ = sfidNumber ⟨gen, right⟩)
    (operands : operandPieces ⟨gen, left⟩ = operandPieces ⟨gen, right⟩) :
    listing ⟨gen, left⟩ = listing ⟨gen, right⟩ := by
  have shown : (if isSend ⟨gen, left⟩ then messagePieces ⟨gen, left⟩ else []) =
      if isSend ⟨gen, right⟩ then messagePieces ⟨gen, right⟩ else [] := by
    rw [← isSend_of_header gen header]
    cases sends : isSend ⟨gen, left⟩ with
    | false => rfl
    | true =>
        obtain ⟨payload, sfid⟩ := message sends
        rw [messagePieces_of_payload gen payload sfid]
  have settings := settingPieces_of_header gen header mask fun sends => (message sends).1
  have pieces : pieces ⟨gen, left⟩ = pieces ⟨gen, right⟩ := by
    rw [Instruction.pieces, Instruction.pieces, predicatePieces_of_header gen header flag,
      mnemonicPieces_of_header gen header, modifierPieces_of_header gen header flag,
      execSizePieces_of_header gen header, operands, shown, isNop_of_header gen header, settings]
  rw [listing, listing, pieces]

/-- Encodings that decode to the same are listed the same. -/
theorem listing_of_sameReading (same : SameReading gen left right) :
    listing ⟨gen, left⟩ = listing ⟨gen, right⟩ :=
  listing_of_operandPieces same.header same.maskControl same.flagRegister same.message
    (operandPieces_of_reading same)

/-- A Gen5 move leaves src1 unused: its fields and most of word 3 are not shown. -/
theorem listing_of_sameReading_move :
    listing ⟨.gen5, .ofWords 0x00600001 0x202003bd 0x008d0040 0x00000000⟩ =
      listing ⟨.gen5, .ofWords 0x00600001 0x20207fbd 0x008d0040 0xfff00000⟩ := by
  apply listing_of_sameReading
  refine ⟨by decide, by decide, by decide, by decide, ?_, by decide⟩
  intro kind shown
  match kind with
  | .plain .dst => exact ⟨(Register.general 1 0).withRegion ⟨.s0, .w1, .s1⟩, rfl, rfl⟩
  | .plain (.source .src0) => exact ⟨Register.general 2 0, rfl, rfl⟩
  | .plain (.source .src1) | .tripleDestination => exact absurd shown (by decide)
  | .tripleSource index => exact absurd shown (by revert index; decide)

end Reading

end Instruction

end ExecUnit
