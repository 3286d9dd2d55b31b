import ExecUnit.Listing.Line
import ExecUnit.Proofs.Operand.Decoding

/-!
The operands that a listing shows, and their texts. An operand that decodes is shown
in a way that only its register and the access mode decide.
-/

namespace ExecUnit

inductive OperandKind where
  | plain (slot : Slot)
  | tripleDestination
  | tripleSource (index : Fin 3)
  deriving DecidableEq, Repr

def OperandKind.column : OperandKind → Nat
  | .plain .dst | .tripleDestination => 16
  | .plain (.source .src0) => 32
  | .plain (.source .src1) => 48
  | .tripleSource index => 32 + 16 * index.val

namespace Instruction

/-- The operands that the opcode declares. An opcode that the generation does not have
declares none. -/
def operandKinds (instr : Instruction) : List OperandKind :=
  let info := instr.opcodeInfo
  if info.sources = 3 then .tripleDestination :: (List.finRange 3).map .tripleSource
  else
    (if 0 < info.destinations then [.plain .dst] else []) ++
      (if 0 < info.sources then [.plain (.source .src0)] else []) ++
      (if 1 < info.sources then [.plain (.source .src1)] else [])

def operand (kind : OperandKind) (instr : Instruction) : Except DecodeFault Register :=
  match kind with
  | .plain .dst => instr.destination
  | .plain (.source slot) => instr.source slot
  | .tripleDestination => instr.tripleDestination
  | .tripleSource index => instr.tripleSource index

def shownOperand (kind : OperandKind) (instr : Instruction) : List Piece :=
  match kind with
  | .plain .dst => instr.destinationCodes.pieces instr.gen
  | .plain (.source slot) => (instr.sourceCodes slot).pieces instr.gen
  | .tripleDestination =>
      (instr.layout.triple.readDestination instr.bits).pieces instr.gen
        (instr.tripleTypeNumber? instr.layout.triple.type)
  | .tripleSource index =>
      (instr.tripleSourceCodes index).pieces instr.gen
        (instr.tripleTypeNumber? instr.layout.triple.sourceType)

-- Jump targets are shown where an instruction has no destination.
def targetPieces (instr : Instruction) : List Piece :=
  if instr.opcodeInfo.sources = 3 ∨ 0 < instr.opcodeInfo.destinations then []
  else instr.jumpPieces

theorem operandPieces_eq (instr : Instruction) :
    instr.operandPieces = instr.targetPieces ++
      instr.operandKinds.flatMap fun kind => .pad kind.column :: instr.shownOperand kind := by
  have indices : List.finRange 3 = [0, 1, 2] := rfl
  unfold operandPieces targetPieces operandKinds
  by_cases three : instr.opcodeInfo.sources = 3
  · simp only [three, true_or, ↓reduceIte, indices, List.map_cons, List.map_nil,
      List.flatMap_cons, List.flatMap_nil, List.append_nil, List.nil_append]
    simp only [triplePieces, tripleSourcePieces, OperandKind.column, shownOperand,
      List.cons_append, List.append_assoc]
  · by_cases hasDestination : 0 < instr.opcodeInfo.destinations <;>
      by_cases hasSource : 0 < instr.opcodeInfo.sources <;>
      by_cases hasSecond : 1 < instr.opcodeInfo.sources <;>
      simp [three, hasDestination, hasSource, hasSecond, destinationPieces, sourcePieces,
        OperandKind.column, shownOperand]

theorem operandPieces_of_shown {left right : Instruction}
    (targets : left.targetPieces = right.targetPieces)
    (kinds : left.operandKinds = right.operandKinds)
    (shown : ∀ kind ∈ right.operandKinds, left.shownOperand kind = right.shownOperand kind) :
    left.operandPieces = right.operandPieces := by
  rw [operandPieces_eq, operandPieces_eq, targets, kinds, List.flatMap_def, List.flatMap_def]
  congr 2
  apply List.map_congr_left
  intro kind member
  rw [shown kind member]

end Instruction

def DataType.tripleNumber? (gen : Generation) (type : DataType) : Option Nat :=
  if gen.hasThreeSourceTypes then type.threeSourceCode? else none

def Register.shown (kind : OperandKind) (gen : Generation) (mode : AccessMode)
    (register : Register) : List Piece :=
  match kind with
  | .plain .dst => (register.heldDestination mode).pieces gen
  | .plain (.source _) => (register.heldSource mode).pieces gen
  | .tripleDestination =>
      register.tripleDestinationCodes.pieces gen (register.type.tripleNumber? gen)
  | .tripleSource _ => register.tripleSourceCodes.pieces gen (register.type.tripleNumber? gen)

-- Immediates are shown without a sign of their own.
theorem SourceCodes.pieces_used (gen : Generation) (codes : SourceCodes) :
    codes.used.pieces gen = codes.pieces gen := by
  obtain ⟨file, type, negate, abs, place⟩ := codes
  cases place <;> rfl

namespace Instruction

variable {instr : Instruction} {register : Register}

theorem tripleTypeNumber?_of_tripleType {field : Field} {type : DataType}
    (decoded : instr.tripleType field = .ok type) :
    instr.tripleTypeNumber? field = type.tripleNumber? instr.gen := by
  unfold tripleType at decoded
  unfold tripleTypeNumber? DataType.tripleNumber?
  split at decoded
  · next typed =>
    rw [if_pos typed, if_pos typed]
    exact ((DataType.ofThreeSourceCode?_eq_some_iff _ _).mp
      ((orFault_eq_ok_iff _ _ _ _).mp decoded)).symm
  · next untyped => rw [if_neg untyped, if_neg untyped]

theorem shownOperand_of_decoded (kind : OperandKind) (decoded : instr.operand kind = .ok register) :
    instr.shownOperand kind = register.shown kind instr.gen instr.accessMode := by
  match kind with
  | .plain .dst =>
      have held := DestinationFields.held_of_decode
        (DestinationFields.readPlace_inMode instr.gen.layoutKind.dst_sized _ _) decoded
      exact congrArg (DestinationCodes.pieces instr.gen) held.symm
  | .plain (.source slot) =>
      have held := SourceFields.held_of_decode (instr.gen.layoutKind.source_sized slot) decoded
      exact (SourceCodes.pieces_used instr.gen (instr.sourceCodes slot)).symm.trans
        (congrArg (SourceCodes.pieces instr.gen) held.symm)
  | .tripleDestination =>
      obtain ⟨type, typed, made⟩ := (bind_eq_ok_iff _ _ _).mp decoded
      obtain rfl := (pure_eq_ok_iff _ _).mp made
      simp only [shownOperand, Register.shown, TripleFields.DestinationCodes.held_decode,
        tripleTypeNumber?_of_tripleType typed]
      rfl
  | .tripleSource index =>
      obtain ⟨type, typed, made⟩ := (bind_eq_ok_iff _ _ _).mp decoded
      obtain rfl := (pure_eq_ok_iff _ _).mp made
      simp only [shownOperand, Register.shown, TripleSourceCodes.held_decode,
        tripleTypeNumber?_of_tripleType typed]
      rfl

theorem knownOpcode?_of_agree {gen : Generation} {left right : Encoding}
    (agree : gen.layout.header.opcode.get left = gen.layout.header.opcode.get right) :
    knownOpcode? ⟨gen, left⟩ = knownOpcode? ⟨gen, right⟩ := by
  have same : opcode? ⟨gen, left⟩ = opcode? ⟨gen, right⟩ := congrArg Coded.ofCode? agree
  rw [knownOpcode?, knownOpcode?, same]

theorem operandKinds_of_agree {gen : Generation} {left right : Encoding}
    (agree : gen.layout.header.opcode.get left = gen.layout.header.opcode.get right) :
    operandKinds ⟨gen, left⟩ = operandKinds ⟨gen, right⟩ := by
  unfold operandKinds opcodeInfo
  rw [knownOpcode?_of_agree agree]

end Instruction

end ExecUnit
