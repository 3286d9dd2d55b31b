import ExecUnit.Proofs.AcrossLayouts.PlainOperands
import ExecUnit.Proofs.Listing.Operands

/-!
The listing of one instruction in both layouts. The header holds the same numbers, the
operands decode to the same registers, and Gen7 and Gen8 have the same words for them
(`listing_of_alike`). Messages and jump targets are kept too differently to be listed alike.
-/

namespace ExecUnit

section Words

theorem Mnemonics.conditionalModifier_gen7 :
    conditionalModifier .gen7 = conditionalModifier .gen8 := by
  have words : ConditionalModifier.word? .gen7 = ConditionalModifier.word? .gen8 := by
    funext modifier
    cases modifier <;> rfl
  exact congrArg ofCoded words

theorem Mnemonics.registerFile_gen7 : registerFile .gen7 = registerFile .gen8 := by
  have words : RegisterFile.word? .gen7 = RegisterFile.word? .gen8 := by
    funext file
    cases file <;> rfl
  exact congrArg ofCoded words

theorem filePieces_gen7 (file : Nat) : filePieces .gen7 file = filePieces .gen8 file := by
  rw [filePieces, filePieces, Mnemonics.registerFile_gen7]

theorem Register.shown_gen7 (kind : OperandKind) (mode : AccessMode) (register : Register) :
    register.shown kind .gen7 mode = register.shown kind .gen8 mode := by
  have numbered : ∀ file number, registerPieces .gen7 file number =
      registerPieces .gen8 file number := by
    intro file number
    rw [registerPieces, registerPieces, filePieces_gen7]
  have addressed : ∀ file address, addressPieces .gen7 file address =
      addressPieces .gen8 file address := by
    intro file address
    rw [addressPieces, addressPieces, filePieces_gen7]
  have typed : register.type.tripleNumber? .gen7 = register.type.tripleNumber? .gen8 := rfl
  match kind with
  | .plain .dst => simp only [shown, DestinationCodes.pieces, numbered, addressed]
  | .plain (.source _) => simp only [shown, SourceCodes.pieces, numbered, addressed]
  | .tripleDestination =>
      simp only [shown, TripleFields.DestinationCodes.pieces, numbered, typed]
  | .tripleSource _ => simp only [shown, TripleSourceCodes.pieces, numbered, typed]

end Words

def Opcode.operandKinds (opcode : Opcode) : List OperandKind :=
  if opcode.isThreeSource then .tripleDestination :: (List.finRange 3).map .tripleSource
  else
    (if 0 < opcode.destinations then [.plain .dst] else []) ++
      (if 0 < opcode.sources then [.plain (.source .src0)] else []) ++
      (if 1 < opcode.sources then [.plain (.source .src1)] else [])

namespace Instruction

theorem operandKinds_of_opcode {opcode : Opcode} {instr : Instruction}
    (known : instr.knownOpcode? = some opcode) : instr.operandKinds = opcode.operandKinds := by
  have info : instr.opcodeInfo = opcode.info := by
    rw [opcodeInfo, known]
    rfl
  rw [operandKinds, info, Opcode.operandKinds, Opcode.isThreeSource]
  simp only [decide_eq_true_eq]
  rfl

theorem layout_gen7 (bits : Encoding) : layout ⟨.gen7, bits⟩ = .gen4 :=
  rfl

theorem layout_gen8 (bits : Encoding) : layout ⟨.gen8, bits⟩ = .gen8 :=
  rfl

section Header

variable {opcode : Opcode} {left right : Encoding} (twins : Twins opcode left right)
include twins

theorem knownOpcode?_of_twins :
    knownOpcode? ⟨.gen7, left⟩ = some opcode ∧ knownOpcode? ⟨.gen8, right⟩ = some opcode := by
  obtain ⟨atLeft, atRight⟩ := twins.opcode?_eq
  obtain ⟨onGen7, onGen8⟩ := opcode.availableOn_both
  rw [knownOpcode?, knownOpcode?, atLeft, atRight]
  exact ⟨Option.filter_eq_some_iff.mpr ⟨rfl, onGen7⟩, Option.filter_eq_some_iff.mpr ⟨rfl, onGen8⟩⟩

theorem flagRegister_of_twins :
    flagRegister ⟨.gen7, left⟩ = flagRegister ⟨.gen8, right⟩ := by
  obtain ⟨atLeft, atRight⟩ := isThreeSource_of_twins twins
  obtain ⟨atNumber, atSubreg⟩ := flagPairs_mem opcode.isThreeSource
  rw [flagRegister, flagRegister, flagFields, flagFields, atLeft, atRight]
  exact Prod.ext (twins.get_eq _ atNumber) (twins.get_eq _ atSubreg)

theorem flagRegisterPieces_of_twins :
    flagRegisterPieces ⟨.gen7, left⟩ = flagRegisterPieces ⟨.gen8, right⟩ := by
  rw [flagRegisterPieces, flagRegisterPieces, flagRegister_of_twins twins]
  rfl

theorem isNop_of_twins : isNop ⟨.gen7, left⟩ = isNop ⟨.gen8, right⟩ := by
  obtain ⟨atLeft, atRight⟩ := knownOpcode?_of_twins twins
  rw [isNop, isNop, atLeft, atRight]

theorem isSend_of_twins (notSend : opcode.isSend = false) :
    isSend ⟨.gen7, left⟩ = false ∧ isSend ⟨.gen8, right⟩ = false := by
  obtain ⟨atLeft, atRight⟩ := knownOpcode?_of_twins twins
  rw [isSend, isSend, atLeft, atRight]
  exact ⟨notSend, notSend⟩

theorem get_of_twins (select : Layout → Field) (member : fieldPair select ∈ settingPairs) :
    get (select .gen4) ⟨.gen7, left⟩ = get (select .gen8) ⟨.gen8, right⟩ :=
  twins.get_setting_eq select member

theorem isSet_of_twins (select : Layout → Field) (member : fieldPair select ∈ settingPairs) :
    isSet (select .gen4) ⟨.gen7, left⟩ = isSet (select .gen8) ⟨.gen8, right⟩ :=
  congrArg (fun number => decide (number ≠ 0)) (get_of_twins twins select member)

theorem predicatePieces_of_twins :
    predicatePieces ⟨.gen7, left⟩ = predicatePieces ⟨.gen8, right⟩ := by
  have control := get_of_twins twins (·.header.predicateControl) (by decide)
  have inverse := isSet_of_twins twins (·.header.predicateInverse) (by decide)
  simp only [predicatePieces, layout_gen7, layout_gen8, control, inverse,
    accessMode_of_twins twins, flagRegisterPieces_of_twins twins]
  rfl

theorem mnemonicPieces_of_twins :
    mnemonicPieces ⟨.gen7, left⟩ = mnemonicPieces ⟨.gen8, right⟩ := by
  obtain ⟨atLeft, atRight⟩ := knownOpcode?_of_twins twins
  have saturate := isSet_of_twins twins (·.header.saturate) (by decide)
  have debug := isSet_of_twins twins (·.header.debugControl) (by decide)
  simp only [mnemonicPieces, layout_gen7, layout_gen8, atLeft, atRight, saturate, debug]
  rfl

theorem modifierPieces_of_twins :
    modifierPieces ⟨.gen7, left⟩ = modifierPieces ⟨.gen8, right⟩ := by
  obtain ⟨atLeft, atRight⟩ := knownOpcode?_of_twins twins
  have modifier := get_of_twins twins (·.header.modifier) (by decide)
  have drops : dropsFlag ⟨.gen7, left⟩ = dropsFlag ⟨.gen8, right⟩ := by
    rw [dropsFlag, dropsFlag, atLeft, atRight]
    rfl
  have condition : conditionPieces ⟨.gen7, left⟩ = conditionPieces ⟨.gen8, right⟩ := by
    simp only [conditionPieces, layout_gen7, layout_gen8, modifier, drops,
      Mnemonics.conditionalModifier_gen7, flagRegisterPieces_of_twins twins]
    rfl
  simp only [modifierPieces, layout_gen7, layout_gen8, atLeft, atRight, modifier, condition]
  rfl

theorem execSizePieces_of_twins :
    execSizePieces ⟨.gen7, left⟩ = execSizePieces ⟨.gen8, right⟩ := by
  have execSize := get_of_twins twins (·.header.execSize) (by decide)
  simp only [execSizePieces, layout_gen7, layout_gen8, execSize, isNop_of_twins twins]

theorem quarterPieces_of_twins :
    quarterPieces ⟨.gen7, left⟩ = quarterPieces ⟨.gen8, right⟩ := by
  have control := get_of_twins twins (·.header.quarterControl) (by decide)
  have execSize := get_of_twins twins (·.header.execSize) (by decide)
  simp only [quarterPieces, layout_gen7, layout_gen8, control, execSize]
  rfl

theorem settingPieces_of_twins (notSend : opcode.isSend = false) :
    settingPieces ⟨.gen7, left⟩ = settingPieces ⟨.gen8, right⟩ := by
  obtain ⟨plainLeft, plainRight⟩ := isSend_of_twins twins notSend
  have mask := get_of_twins twins (·.header.maskControl) (by decide)
  have dependency := get_of_twins twins (·.header.dependencyControl) (by decide)
  have thread := get_of_twins twins (·.header.threadControl) (by decide)
  have accWrite := isSet_of_twins twins (·.header.accWriteControl) (by decide)
  have endOfThread : endOfThreadPieces ⟨.gen7, left⟩ = endOfThreadPieces ⟨.gen8, right⟩ := by
    simp only [endOfThreadPieces, plainLeft, plainRight, Bool.false_eq_true, false_and, ↓reduceIte]
  simp only [settingPieces, layout_gen7, layout_gen8, mask, dependency, thread, accWrite,
    accessMode_of_twins twins, quarterPieces_of_twins twins, endOfThread]
  rfl

end Header

section Operands

variable {opcode : Opcode} {left right : Encoding}

theorem targetPieces_of_opcode {instr : Instruction} (known : instr.knownOpcode? = some opcode)
    (noTargets : opcode.jumpTargets = 0) : instr.targetPieces = [] := by
  have nothing : instr.jumpPieces = [] := by
    simp only [jumpPieces, known, Option.elim_some, noTargets]
  rw [targetPieces, nothing, ite_self]

theorem operandPieces_of_alike (alike : Alike opcode opcode.operandKinds left right)
    (noTargets : opcode.jumpTargets = 0) :
    operandPieces ⟨.gen7, left⟩ = operandPieces ⟨.gen8, right⟩ := by
  obtain ⟨twins, decoded⟩ := alike
  obtain ⟨atLeft, atRight⟩ := knownOpcode?_of_twins twins
  have kindsLeft := operandKinds_of_opcode atLeft
  have kindsRight := operandKinds_of_opcode atRight
  apply operandPieces_of_shown
  · rw [targetPieces_of_opcode atLeft noTargets, targetPieces_of_opcode atRight noTargets]
  · rw [kindsLeft, kindsRight]
  · intro kind member
    obtain ⟨register, inLeft, inRight⟩ := decoded kind (kindsRight ▸ member)
    rw [shownOperand_of_decoded kind inLeft, shownOperand_of_decoded kind inRight,
      accessMode_of_twins twins]
    exact register.shown_gen7 kind _

/-- One instruction is listed the same from either layout. -/
theorem listing_of_alike (alike : Alike opcode opcode.operandKinds left right)
    (notSend : opcode.isSend = false) (noTargets : opcode.jumpTargets = 0) :
    listing ⟨.gen7, left⟩ = listing ⟨.gen8, right⟩ := by
  have twins := alike.twins
  obtain ⟨plainLeft, plainRight⟩ := isSend_of_twins twins notSend
  have pieces : pieces ⟨.gen7, left⟩ = pieces ⟨.gen8, right⟩ := by
    rw [Instruction.pieces, Instruction.pieces, predicatePieces_of_twins twins,
      mnemonicPieces_of_twins twins, modifierPieces_of_twins twins, execSizePieces_of_twins twins,
      operandPieces_of_alike alike noTargets, isNop_of_twins twins,
      settingPieces_of_twins twins notSend, plainLeft, plainRight]
    rfl
  rw [listing, listing, pieces]

end Operands

end Instruction

end ExecUnit
