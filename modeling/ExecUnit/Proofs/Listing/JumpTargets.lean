import ExecUnit.Proofs.Listing.Factoring
import ExecUnit.Proofs.Listing.Text

/-!
Jump targets. Every generation keeps them elsewhere, but apart from word 0 and
from the flag register, and what it keeps of them is what it shows:
`jumpTargets_after_set`.
-/

namespace ExecUnit

open Encoding (Agree)

namespace Generation

/-- What is left of two jump targets: the first one and, from Gen6 on, the second one
become the congruent number of the signed field, until Gen8 has room for them whole. -/
def keptTargets (gen : Generation) (jip uip : Int) : Int × Int :=
  match gen with
  | .gen4 | .gen5 => (jip.bmod 0x10000, uip % 16)
  | .gen6 | .gen7 => (jip.bmod 0x10000, uip.bmod 0x10000)
  | .gen8 | .gen9 => (jip, uip)

def jumpRanges (gen : Generation) : List BitRange :=
  [gen.jumpFields.jip.toBitRange, gen.jumpFields.uip.toBitRange]

theorem jump_past_header (gen : Generation) : ∀ range ∈ gen.jumpRanges, range.low / 32 ≠ 0 := by
  cases gen <;> decide

theorem wandering_apart_jump (gen : Generation) : Apart gen.wanderingRanges gen.jumpRanges := by
  cases gen <;> decide

theorem jump_disjoint (gen : Generation) :
    gen.jumpFields.jip.toBitRange.Disjoint gen.jumpFields.uip.toBitRange := by
  cases gen <;> decide

end Generation

theorem BitRange.get_setSigned (range : BitRange) (value : Int) (bits : Encoding) :
    (range.get (range.setSigned value bits) : Int) = value % range.capacity := by
  have room : ((2 ^ range.width : Nat) : Int) ≠ 0 :=
    Int.natCast_ne_zero.mpr (Nat.ne_of_gt (Nat.two_pow_pos _))
  rw [setSigned, get_set, capacity_eq, Nat.pow_eq, Nat.mod_eq_of_lt (BitVec.isLt _),
    BitVec.toNat_ofInt, Int.toNat_of_nonneg (Int.emod_nonneg _ room)]

namespace Opcode

-- Opcodes with jump targets have no operands.
theorem plain_of_jumpTargets {opcode : Opcode} (targets : 0 < opcode.jumpTargets) :
    opcode.sources = 0 ∧ opcode.destinations = 0 ∧ opcode.isSend = false ∧ opcode ≠ .nop ∧
      (opcode.jumpTargets = 1 ∨ opcode.jumpTargets = 2) := by
  cases opcode <;> simp_all [jumpTargets, sources, destinations, entry, isSend, opcodeClass]

def targetsText (opcode : Opcode) (targets : Int × Int) : String :=
  if opcode.jumpTargets = 1 then s!" {targets.1}" else s!" {targets.1} {targets.2}"

end Opcode

namespace Instruction

variable {gen : Generation}

/-- What a listing opens with: everything up to the execution size. -/
def openingPieces (instr : Instruction) : List Piece :=
  instr.predicatePieces ++ instr.mnemonicPieces ++ instr.modifierPieces ++ instr.execSizePieces

theorem unpadded_openingPieces (instr : Instruction) : Unpadded instr.openingPieces := by
  simp only [openingPieces, Unpadded.append_iff]
  exact ⟨⟨⟨instr.unpadded_predicatePieces, instr.unpadded_mnemonicPieces⟩,
    instr.unpadded_modifierPieces⟩, instr.unpadded_execSizePieces⟩

def jumpAssignments (gen : Generation) (jip uip : Int) : List Assignment :=
  let fields := gen.jumpFields
  [⟨fields.jip.toBitRange, (BitVec.ofInt fields.jip.width jip).toNat⟩,
    ⟨fields.uip.toBitRange, (BitVec.ofInt fields.uip.width uip).toNat⟩]

theorem map_range_jumpAssignments (gen : Generation) (jip uip : Int) :
    (jumpAssignments gen jip uip).map (·.range) = gen.jumpRanges :=
  rfl

theorem setJumpTargets_eq (jip uip : Int) (bits : Encoding) :
    setJumpTargets jip uip ⟨gen, bits⟩ = ⟨gen, bits.assign (jumpAssignments gen jip uip)⟩ :=
  rfl

theorem jumpTargets_setJumpTargets (jip uip : Int) (bits : Encoding) :
    (setJumpTargets jip uip ⟨gen, bits⟩).jumpTargets =
      (jip.bmod gen.jumpFields.jip.capacity,
        if gen.jumpFields.signedUip then uip.bmod gen.jumpFields.uip.capacity
        else uip % gen.jumpFields.uip.capacity) := by
  have first := BitRange.getSigned_setSigned gen.jumpFields.jip.toBitRange jip bits
  -- The second target is written over the first one.
  have kept : gen.jumpFields.jip.getSigned (setJumpTargets jip uip ⟨gen, bits⟩).bits =
      gen.jumpFields.jip.getSigned (gen.jumpFields.jip.setSigned jip bits) :=
    BitRange.getSigned_of_get (BitRange.get_set_of_disjoint gen.jump_disjoint _ _)
  have signed : gen.jumpFields.uip.getSigned (setJumpTargets jip uip ⟨gen, bits⟩).bits =
      uip.bmod gen.jumpFields.uip.capacity := BitRange.getSigned_setSigned _ _ _
  have unsigned : (gen.jumpFields.uip.get (setJumpTargets jip uip ⟨gen, bits⟩).bits : Int) =
      uip % gen.jumpFields.uip.capacity := BitRange.get_setSigned _ _ _
  show (gen.jumpFields.jip.getSigned _, if gen.jumpFields.signedUip then
    gen.jumpFields.uip.getSigned _ else (gen.jumpFields.uip.get _ : Int)) = _
  rw [kept, first, signed, unsigned]

theorem keptTargets_eq (gen : Generation) (jip uip : Int32) :
    gen.keptTargets jip.toInt uip.toInt =
      (jip.toInt.bmod gen.jumpFields.jip.capacity,
        if gen.jumpFields.signedUip then uip.toInt.bmod gen.jumpFields.uip.capacity
        else uip.toInt % gen.jumpFields.uip.capacity) := by
  have whole : ∀ target : Int32, target.toInt.bmod 0x100000000 = target.toInt := Int32.toInt_bmod
  cases gen with
  | gen4 | gen5 | gen6 | gen7 => rfl
  | gen8 | gen9 => exact (congr (congrArg Prod.mk (whole jip)) (whole uip)).symm

theorem openingPieces_of_wandering {left right : Encoding} (header : left.word 0 = right.word 0)
    (agree : Agree gen.wanderingRanges left right) :
    openingPieces ⟨gen, left⟩ = openingPieces ⟨gen, right⟩ := by
  have flag := flagRegister_of_wandering gen header agree
  rw [openingPieces, openingPieces, predicatePieces_of_header gen header flag,
    mnemonicPieces_of_header gen header, modifierPieces_of_header gen header flag,
    execSizePieces_of_header gen header]

section Shown

variable {instr : Instruction} {opcode : Opcode} (known : instr.knownOpcode? = some opcode)
  (targets : 0 < opcode.jumpTargets)
include known targets

theorem pieces_of_jump : instr.pieces = instr.openingPieces ++
    [.text (opcode.targetsText instr.jumpTargets)] ++
      .pad 64 :: (instr.settingPieces ++ [.text ";", .newline]) := by
  obtain ⟨sources, destinations, plain, notNop, count⟩ := Opcode.plain_of_jumpTargets targets
  have info : instr.opcodeInfo = opcode.info := by
    rw [opcodeInfo, known]
    rfl
  have jumps : instr.jumpPieces = [.text (opcode.targetsText instr.jumpTargets)] := by
    rcases count with one | two
    · simp [jumpPieces, known, Opcode.targetsText, one]
    · simp [jumpPieces, known, Opcode.targetsText, two]
  have operands : instr.operandPieces = instr.jumpPieces := by
    simp [operandPieces, destinationPieces, info, Opcode.info, sources, destinations]
  have sends : instr.isSend = false := by
    rw [isSend, known]
    exact plain
  have nop : instr.isNop = false := by
    rw [isNop, known]
    simpa using notNop
  rw [pieces, operands, jumps, sends, nop, openingPieces]
  simp

-- The targets come right after the execution size.
theorem listing_of_jump : ∃ gap, 0 < gap ∧ instr.listing.text =
    ink instr.openingPieces ++ opcode.targetsText instr.jumpTargets ++ Piece.spaces gap ++
      ink instr.settingPieces ++ ";\n" := by
  have front : Unpadded (instr.openingPieces ++ [.text (opcode.targetsText instr.jumpTargets)]) :=
    (Unpadded.append_iff _ _).mpr ⟨instr.unpadded_openingPieces, .text _⟩
  have behind : Unpadded (instr.settingPieces ++ [.text ";", .newline]) :=
    (Unpadded.append_iff _ _).mpr ⟨instr.unpadded_settingPieces, (Unpadded.cons_iff _ _).mpr
      ⟨rfl, (Unpadded.cons_iff _ _).mpr ⟨rfl, .nil⟩⟩⟩
  have ending : ink [.text ";", .newline] = ";\n" := by decide
  obtain ⟨gap, positive, text⟩ := Printed.text_gap 64 front behind .start
  refine ⟨gap, positive, ?_⟩
  rw [listing, Listing.ofPieces, Printed.ofPieces, pieces_of_jump known targets, text, ink_append,
    ink_append, ending, ← String.append_assoc]
  simp [Printed.start, Piece.ink]

end Shown

/-- Over any bits, jump targets are read back as far as there is room for them. They disturb
neither the header nor the flag register, and an opcode that has them is listed with the
targets that are left and with nothing else changed. -/
theorem jumpTargets_after_set (instr : Instruction) (jip uip : Int32) :
    let written := instr.setJumpTargets jip.toInt uip.toInt
    let kept := instr.gen.keptTargets jip.toInt uip.toInt
    written.jumpTargets = kept ∧
      written.bits.word 0 = instr.bits.word 0 ∧
      written.flagRegister = instr.flagRegister ∧
      ∀ opcode, instr.knownOpcode? = some opcode → 0 < opcode.jumpTargets →
        ∃ gap, 0 < gap ∧ written.listing.text =
          ink instr.openingPieces ++ opcode.targetsText kept ++ Piece.spaces gap ++
            ink instr.settingPieces ++ ";\n" := by
  obtain ⟨gen, bits⟩ := instr
  intro written kept
  have targets : written.jumpTargets = kept :=
    (jumpTargets_setJumpTargets _ _ bits).trans (keptTargets_eq gen jip uip).symm
  have header : written.bits.word 0 = bits.word 0 := by
    simp only [written, setJumpTargets_eq]
    apply Encoding.word_assign_of_elsewhere
    rw [map_range_jumpAssignments]
    exact gen.jump_past_header
  have agree : Agree gen.wanderingRanges written.bits bits := by
    simp only [written, setJumpTargets_eq]
    apply Encoding.agree_assign
    rw [map_range_jumpAssignments]
    exact gen.wandering_apart_jump
  refine ⟨targets, header, flagRegister_of_wandering gen header agree, ?_⟩
  intro opcode known jumps
  have known' : written.knownOpcode? = some opcode :=
    (knownOpcode?_of_header gen header).trans known
  have notSend : ¬isSend written = true := by
    have plain := (Opcode.plain_of_jumpTargets jumps).2.2.1
    simp [isSend, known', plain]
  have settings : settingPieces written = settingPieces ⟨gen, bits⟩ :=
    settingPieces_of_header gen header (agree _ List.mem_cons_self) fun sends => absurd sends notSend
  have opening : openingPieces written = openingPieces ⟨gen, bits⟩ :=
    openingPieces_of_wandering header agree
  have shown := listing_of_jump known' jumps
  rw [targets, settings, opening] at shown
  exact shown

/-- Every field is full of other bits at first, and neither target fits on Gen6. -/
theorem jumpTargets_after_set_else :
    let instr : Instruction := ⟨.gen6, .ofWords 0x00600024 0xffffffff 0xffffffff 0xffffffff⟩
    let written := instr.setJumpTargets 40000 (-40000)
    written.jumpTargets = (-25536, 25536) ∧ written.flagRegister = (1, 1) ∧
      ∃ gap, 0 < gap ∧ written.listing.text =
        "else(8) -25536 25536" ++ Piece.spaces gap ++ "\x7b align1 WE_normal 1Q \x7d" ++ ";\n" := by
  intro instr written
  obtain ⟨targets, -, flag, shown⟩ := jumpTargets_after_set instr 40000 (-40000)
  obtain ⟨gap, positive, text⟩ := shown .else (by decide) (by decide)
  have kept : instr.gen.keptTargets 40000 (-40000) = (-25536, 25536) := by decide
  have opening : ink instr.openingPieces = "else(8)" := by decide
  have settings : ink instr.settingPieces = "\x7b align1 WE_normal 1Q \x7d" := by decide
  have front : "else(8)" ++ Opcode.targetsText .else (-25536, 25536) = "else(8) -25536 25536" := by
    decide
  refine ⟨targets.trans kept, flag.trans (by decide), gap, positive, ?_⟩
  rw [← front, ← opening, ← settings, ← kept]
  exact text

end Instruction

end ExecUnit
