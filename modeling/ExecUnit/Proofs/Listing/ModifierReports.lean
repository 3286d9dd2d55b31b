import ExecUnit.Proofs.Header.Modifiers
import ExecUnit.Proofs.Listing.Vocabulary

/-!
What a listing reports of header bits 27:24, and what reading the modifier says of them:
`modifier_reported_iff`. The reader knows two values on every generation that the listing
only knows before Gen6. All other values have a meaning for both or for neither.
-/

namespace ExecUnit

def Modifier.EarlyOnly (modifier : Modifier) : Prop :=
  modifier = .condition .round ∨ modifier = .sharedFunction .math

theorem Modifier.earlyOnly_condition_iff (modifier : ConditionalModifier) :
    (Modifier.condition modifier).EarlyOnly ↔ modifier = .round := by
  simp [EarlyOnly]

theorem Modifier.not_earlyOnly_mathFunction (function : MathFunction) :
    ¬(Modifier.mathFunction function).EarlyOnly := by
  simp [EarlyOnly]

theorem Modifier.earlyOnly_sharedFunction_iff (sfid : Sfid) :
    (Modifier.sharedFunction sfid).EarlyOnly ↔ sfid = .math := by
  simp [EarlyOnly]

theorem Modifier.exists_map_earlyOnly_iff {Meaning : Type} {make : Meaning → Modifier}
    {early : Meaning} (onlyOne : ∀ meaning, (make meaning).EarlyOnly ↔ meaning = early)
    (found : Option Meaning) :
    (∃ modifier, found.map make = some modifier ∧ modifier.EarlyOnly) ↔ found = some early := by
  cases found with
  | none => simp
  | some meaning => simp [onlyOne]

def modifierNames : List String :=
  ["conditional modifier", "function", "SFID"]

theorem modifierNames_subset : modifierNames ⊆ vocabulary := by
  simp [modifierNames, vocabulary, headerNames]

-- Nothing else of the header is reported under the name of the modifier.
theorem not_mem_settingNames {what : String} (ofModifier : what ∈ modifierNames) :
    what ∉ settingNames := by
  have apart : ∀ what ∈ modifierNames, what ∉ settingNames := by
    simp [modifierNames, settingNames]
  exact apart what ofModifier

theorem not_mem_operandNames {what : String} (ofModifier : what ∈ modifierNames) :
    what ∉ operandNames := by
  have apart : ∀ what ∈ modifierNames, what ∉ operandNames := by
    simp [modifierNames, operandNames]
  exact apart what ofModifier

section Words

theorem mem_reportedNames_entry_iff (what : String) (words : Mnemonics) (value : Nat) :
    what ∈ reportedNames (entry what words value) ↔ words value = none := by
  rw [reportedNames_entry]
  cases words value <;> simp

theorem Mnemonics.conditionalModifier_eq_none_iff (gen : Generation) (number : Nat) :
    conditionalModifier gen number = none ↔
      (Coded.ofCode? number : Option ConditionalModifier) = none ∨
        Coded.ofCode? number = some ConditionalModifier.round ∧ 6 ≤ gen.number := by
  unfold conditionalModifier ofCoded
  cases (Coded.ofCode? number : Option ConditionalModifier) with
  | none => simp
  | some modifier => cases modifier <;> simp [ConditionalModifier.word?]

theorem Mnemonics.mathFunction_eq_none_iff (number : Nat) :
    mathFunction number = none ↔ (Coded.ofCode? number : Option MathFunction) = none := by
  unfold mathFunction ofCoded
  cases (Coded.ofCode? number : Option MathFunction) <;> simp

theorem Mnemonics.sfid_eq_none_iff {gen : Generation} (shared : gen.hasHeaderSfid = true)
    (number : Nat) :
    sfid gen number = none ↔ (Coded.ofCode? number : Option Sfid) = none ∨
      Coded.ofCode? number = some Sfid.math := by
  unfold sfid ofCoded Sfid.word?
  rw [if_pos shared]
  cases (Coded.ofCode? number : Option Sfid) with
  | none => simp
  | some target => cases target <;> simp [Sfid.sharedWord?]

end Words

namespace Instruction

/-- The listing reports what the opcode makes of header bits 27:24. -/
def ModifierReported (opcode : Opcode) (instr : Instruction) : Prop :=
  Reported "conditional modifier" instr.listing.text ∨
    opcode = .math ∧ Reported "function" instr.listing.text ∨
    (opcode = .send ∨ opcode = .sendc) ∧ 6 ≤ instr.gen.number ∧
      Reported "SFID" instr.listing.text

section Places

variable {instr : Instruction} {opcode : Opcode} {what : String}

-- A modifier is reported in its own place, or at the beginning of a message.
theorem reported_modifier_iff (ofModifier : what ∈ modifierNames) :
    Reported what instr.listing.text ↔ what ∈ reportedNames instr.modifierPieces ∨
      instr.isSend = true ∧ what ∈ reportedNames instr.messagePieces := by
  -- Every other part of the listing reports under names of its own.
  have notSetting := not_mem_settingNames ofModifier
  have notControl : what ∉ controlNames := fun member => notSetting (controlNames_subset member)
  have predicate := instr.namesAmong_predicatePieces.not_mem notControl
  have mnemonic := instr.namesAmong_mnemonicPieces.not_mem notSetting
  have execSize := instr.namesAmong_execSizePieces.not_mem notControl
  have targets := (instr.namesAmong_targetPieces settingNames).not_mem notSetting
  have tail := instr.namesAmong_tailPieces.not_mem notControl
  have operands := instr.namesAmong_operands.not_mem (not_mem_operandNames ofModifier)
  have lineEnd : what ∉ reportedNames [.text ";", .newline] := List.not_mem_nil
  have around : what ∈ reportedNames instr.pieces ↔ what ∈ reportedNames instr.aroundOperands := by
    simp only [mem_reportedNames, mem_pieces_iff, ← List.mem_flatMap] at operands ⊢
    constructor
    · rintro ⟨piece, inAround | inOperands, named⟩
      · exact ⟨piece, inAround, named⟩
      · exact absurd ⟨piece, inOperands, named⟩ operands
    · rintro ⟨piece, inAround, named⟩
      exact ⟨piece, Or.inl inAround, named⟩
  rw [instr.reported_iff (modifierNames_subset ofModifier), around, aroundOperands]
  simp only [reportedNames_append, List.mem_append, predicate, mnemonic, execSize, targets, tail,
    lineEnd, false_or, or_false]
  cases instr.isSend <;> simp [reportedNames_nil]

theorem modifierPieces_of_known (known : instr.knownOpcode? = some opcode) :
    let number := instr.get instr.layout.header.modifier
    (opcode.opcodeClass = .other → instr.modifierPieces = instr.conditionPieces) ∧
      (opcode.opcodeClass = .math →
        instr.modifierPieces = .text " " :: entry "function" .mathFunction number) ∧
      (opcode.opcodeClass = .send →
        instr.modifierPieces = if instr.gen.hasHeaderSfid then [] else [.text s!" {number}"]) := by
  unfold modifierPieces
  rw [known, Option.elim_some]
  refine ⟨?_, ?_, ?_⟩ <;>
  · intro family
    rw [family]

theorem isSend_iff_of_known (known : instr.knownOpcode? = some opcode) :
    instr.isSend = true ↔ opcode.opcodeClass = .send := by
  rw [isSend, known, Option.any_some, Opcode.isSend, decide_eq_true_iff]

theorem condition_reported_iff (known : instr.knownOpcode? = some opcode)
    (family : opcode.opcodeClass = .other) :
    Reported "conditional modifier" instr.listing.text ↔
      Mnemonics.conditionalModifier instr.gen (instr.get instr.layout.header.modifier) = none := by
  have flag : "conditional modifier" ∉ reportedNames
      (if instr.get instr.layout.header.modifier = 0 ∨ instr.dropsFlag then []
        else .text "." :: instr.flagRegisterPieces) := by
    apply NamesAmong.not_mem (.ite .nil _) List.not_mem_nil
    exact (NamesAmong.cons_iff _ _).mpr
      ⟨by simp [Piece.name?], instr.namesAmong_flagRegisterPieces _⟩
  rw [reported_modifier_iff List.mem_cons_self, (modifierPieces_of_known known).1 family,
    conditionPieces, reportedNames_append, List.mem_append, mem_reportedNames_entry_iff]
  simp only [flag, isSend_iff_of_known known, family, reduceCtorEq, false_and, or_false]

-- Only the opcodes that have a conditional modifier report one.
theorem condition_not_reported (known : instr.knownOpcode? = some opcode)
    (family : opcode.opcodeClass ≠ .other) :
    ¬Reported "conditional modifier" instr.listing.text := by
  obtain ⟨-, ofMath, ofSend⟩ := modifierPieces_of_known known
  have inModifier : NamesAmong ["function"] instr.modifierPieces := by
    cases found : opcode.opcodeClass with
    | other => exact absurd found family
    | math =>
        rw [ofMath found, NamesAmong.cons_iff]
        exact ⟨by simp [Piece.name?], .entry _ _ List.mem_cons_self⟩
    | send =>
        rw [ofSend found]
        exact .ite .nil (by simp [Piece.name?])
  rw [reported_modifier_iff List.mem_cons_self]
  rintro (reported | ⟨-, reported⟩)
  · exact inModifier.not_mem (by simp) reported
  · exact instr.namesAmong_messagePieces.not_mem (by simp [payloadNames]) reported

theorem function_reported_iff (known : instr.knownOpcode? = some opcode)
    (family : opcode.opcodeClass = .math) :
    Reported "function" instr.listing.text ↔
      Mnemonics.mathFunction (instr.get instr.layout.header.modifier) = none := by
  rw [reported_modifier_iff (by simp [modifierNames]), (modifierPieces_of_known known).2.1 family,
    reportedNames_text, mem_reportedNames_entry_iff]
  simp only [isSend_iff_of_known known, family, reduceCtorEq, false_and, or_false]

theorem sfid_reported_iff (known : instr.knownOpcode? = some opcode)
    (family : opcode.opcodeClass = .send) :
    Reported "SFID" instr.listing.text ↔ Mnemonics.sfid instr.gen instr.sfidNumber = none := by
  have inModifier : NamesAmong [] instr.modifierPieces := by
    rw [(modifierPieces_of_known known).2.2 family]
    exact .ite .nil (by simp [Piece.name?])
  have payload := instr.namesAmong_payloadPieces.not_mem
    (show "SFID" ∉ payloadNames by simp [payloadNames])
  have lengths := (instr.namesAmong_lengthPieces []).not_mem
    (show "SFID" ∉ [] from List.not_mem_nil)
  have start : "SFID" ∉ reportedNames [.newline, .pad 16] := List.not_mem_nil
  rw [reported_modifier_iff (by simp [modifierNames]), messagePieces]
  simp only [reportedNames_append, List.mem_append, mem_reportedNames_entry_iff,
    inModifier.not_mem List.not_mem_nil, isSend_iff_of_known known, family, payload, lengths, start,
    true_and, false_or, or_false]

end Places

section Meanings

variable {instr : Instruction} {opcode : Opcode}

theorem modifier_of_known (known : instr.knownOpcode? = some opcode) (modifier : Modifier) :
    instr.modifier = .ok modifier ↔
      Modifier.ofNumber? opcode (instr.get instr.layout.header.modifier)
        instr.gen.hasHeaderSfid = some modifier := by
  have decoded : instr.opcode = .ok opcode :=
    (orFault_eq_ok_iff _ _ _ _).mpr (Option.filter_eq_some_iff.mp known).1
  rw [modifier_eq_ok_iff]
  constructor
  · rintro ⟨opcode', decoded', meaning⟩
    obtain rfl := Except.ok.inj (decoded.symm.trans decoded')
    exact meaning
  · intro meaning
    exact ⟨opcode, decoded, meaning⟩

theorem modifier_fails_iff (known : instr.knownOpcode? = some opcode) :
    (∃ fault, instr.modifier = .error fault) ↔
      Modifier.ofNumber? opcode (instr.get instr.layout.header.modifier)
        instr.gen.hasHeaderSfid = none := by
  have decodes := modifier_of_known known
  cases result : instr.modifier with
  | error fault =>
      have none : Modifier.ofNumber? opcode (instr.get instr.layout.header.modifier)
          instr.gen.hasHeaderSfid = none := by
        apply Option.eq_none_iff_forall_not_mem.mpr
        intro modifier meaning
        cases result.symm.trans ((decodes modifier).mpr meaning)
      simp only [none, iff_true]
      exact ⟨fault, rfl⟩
  | ok modifier =>
      rw [(decodes modifier).mp result]
      simp

/-- A listing reports the modifier if it has no meaning, and also if it has one that only
generations before Gen6 use. -/
theorem modifier_reported_iff (instr : Instruction) (opcode : Opcode)
    (known : instr.knownOpcode? = some opcode) :
    instr.ModifierReported opcode ↔ (∃ fault, instr.modifier = .error fault) ∨
      6 ≤ instr.gen.number ∧ ∃ modifier, instr.modifier = .ok modifier ∧ modifier.EarlyOnly := by
  rw [modifier_fails_iff known]
  simp only [modifier_of_known known, ModifierReported, ← opcode.opcodeClass_eq_math_iff,
    ← opcode.opcodeClass_eq_send_iff, Modifier.ofNumber?]
  cases family : opcode.opcodeClass with
  | other =>
      rw [condition_reported_iff known family, Mnemonics.conditionalModifier_eq_none_iff,
        Modifier.exists_map_earlyOnly_iff Modifier.earlyOnly_condition_iff]
      simp [and_comm]
  | math =>
      have noCondition := condition_not_reported known (by simp [family])
      rw [function_reported_iff known family, Mnemonics.mathFunction_eq_none_iff]
      simp [noCondition, Modifier.not_earlyOnly_mathFunction]
  | send =>
      have noCondition := condition_not_reported known (by simp [family])
      rw [sfid_reported_iff known family]
      by_cases late : 6 ≤ instr.gen.number
      · have shared : instr.gen.hasHeaderSfid = true := decide_eq_true late
        have number : instr.get instr.layout.header.modifier = instr.sfidNumber :=
          congrArg (BitRange.get · instr.bits) (Generation.modifier_eq_sfid shared)
        rw [Mnemonics.sfid_eq_none_iff shared, number, if_pos shared,
          Modifier.exists_map_earlyOnly_iff Modifier.earlyOnly_sharedFunction_iff]
        simp [noCondition, late]
      · -- Early messages begin in a register, and every number is one.
        have register : instr.gen.hasHeaderSfid = false := decide_eq_false late
        simp [noCondition, late, register]

def emptyMov (gen : Generation) (modifier : Nat) : Instruction :=
  set gen.layout.header.modifier modifier
    (set gen.layout.header.opcode (code Opcode.mov) ⟨gen, 0⟩)

/-- Ten is no conditional modifier on Gen8, and four is one. -/
theorem modifier_reported_mov :
    (emptyMov .gen8 10).ModifierReported .mov ∧ ¬(emptyMov .gen8 4).ModifierReported .mov := by
  have reserved : ∃ fault, (emptyMov .gen8 10).modifier = .error fault := ⟨_, rfl⟩
  have greaterEqual : (emptyMov .gen8 4).modifier = .ok (.condition .greaterEqual) := rfl
  constructor
  · exact (modifier_reported_iff (emptyMov .gen8 10) .mov rfl).mpr (Or.inl reserved)
  · rw [modifier_reported_iff (emptyMov .gen8 4) .mov rfl, greaterEqual]
    simp [Modifier.EarlyOnly]

/-- Rounding is decoded on Gen8, where the listing has no word for it. -/
theorem round_reported :
    ¬∀ (instr : Instruction) (opcode : Opcode), instr.knownOpcode? = some opcode →
      (instr.ModifierReported opcode ↔ ∃ fault, instr.modifier = .error fault) := by
  intro agree
  have known : (emptyMov .gen8 7).knownOpcode? = some .mov := rfl
  have reported := (condition_reported_iff known rfl).mpr rfl
  have failed := (agree _ _ known).mp (Or.inl reported)
  have decoded : (emptyMov .gen8 7).modifier = .ok (.condition .round) := rfl
  rw [decoded] at failed
  simp at failed

end Meanings

end Instruction

end ExecUnit
