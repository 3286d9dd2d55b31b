import ExecUnit.Proofs.Listing.Vocabulary
import ExecUnit.Proofs.Operand.DestinationRoundTrip
import ExecUnit.Proofs.Operand.Runs
import ExecUnit.Proofs.Operand.SourceRoundTrip

/-!
What a listing reports of operands that the setters accepted: `reports_of_set_operands`.
Files, types, widths and horizontal strides that can be written can be shown as well. The
widest vertical strides can be written and read back, but they have no word.
-/

namespace ExecUnit

section Names

theorem reportedNames_typePieces {what : String} {file : RegisterFile} {type : DataType}
    {typeNumber : Nat} (typed : type.codeIn? file = some typeNumber) :
    reportedNames (typePieces what (code file) typeNumber) = [] := by
  rw [typePieces, decodedType?_code typed]
  rfl

theorem reportedNames_subregPieces (subreg : Nat) : reportedNames (subregPieces subreg) = [] := by
  unfold subregPieces
  split <;> rfl

theorem reportedNames_offsetPieces (file type offset : Nat) :
    reportedNames (offsetPieces file type offset) = [] := by
  unfold offsetPieces
  split <;> rfl

theorem reportedNames_stridePieces (hstride : HorizontalStride) :
    reportedNames (DestinationCodes.stridePieces (code hstride)) = [] := by
  simp only [DestinationCodes.stridePieces, reportedNames_append, reportedNames_entry,
    Mnemonics.horizontalStride, Mnemonics.ofCoded_code]
  rfl

def VerticalStride.reports (vstride : VerticalStride) : List String :=
  if vstride.word?.isSome then [] else ["vert stride"]

theorem VerticalStride.mem_reports_iff {what : String} {vstride : VerticalStride} :
    what ∈ vstride.reports ↔
      what = "vert stride" ∧ ∃ elements, vstride.elements? = some elements ∧ 32 < elements := by
  cases vstride <;> simp [reports, word?, elements?]

theorem Region.reportedNames_pieces (region : Region) :
    reportedNames region.codes.pieces = region.vstride.reports := by
  simp only [RegionCodes.pieces, Region.codes, reportedNames_append, reportedNames_entry,
    Mnemonics.verticalStride, Mnemonics.width, Mnemonics.horizontalStride, Mnemonics.ofCoded_code,
    Function.comp_apply, Option.isSome_some, reportedNames_text, reportedNames_nil, List.nil_append,
    List.append_nil, ↓reduceIte, VerticalStride.reports]

end Names

namespace Register

/-- The file and the type of the register can be shown on the generation. -/
structure HasWords (gen : Generation) (register : Register) : Prop where
  file : (register.file.word? gen).isSome = true
  type : ∃ number, register.type.codeIn? register.file = some number

def IsNameOnly (register : Register) : Prop :=
  register.addressing = .direct ∧ isBare (code register.file) register.number = true

instance (register : Register) : Decidable register.IsNameOnly :=
  inferInstanceAs (Decidable (_ ∧ _))

variable {gen : Generation} {register placed : Register}

theorem hasWords_of_placed (isPlaced : register.placed gen = .ok placed) {type : Nat}
    (typed : placed.typeNumber = .ok type) : placed.HasWords gen := by
  refine ⟨?_, type, (typeNumber_eq_ok_iff _ _).mp typed⟩
  obtain ⟨rfl, -⟩ := (placed_eq_ok_iff _ _ _).mp isPlaced
  unfold withoutMessageFile
  split
  · rfl
  · next stays =>
    cases file : register.file with
    | message =>
        have hasFile : gen.hasMessageFile = true := by
          simpa [file] using stays
        simp [RegisterFile.word?, hasFile]
    | _ => rfl

theorem HasWords.reportedNames_filePieces (words : register.HasWords gen) :
    reportedNames (filePieces gen (code register.file)) = [] := by
  rw [filePieces, reportedNames_entry, Mnemonics.registerFile, Mnemonics.ofCoded_code,
    if_pos words.file]

theorem HasWords.reportedNames_registerPieces (words : register.HasWords gen) (number : Nat) :
    reportedNames (registerPieces gen (code register.file) number) = [] := by
  unfold registerPieces
  split
  · rfl
  · rw [reportedNames_append, words.reportedNames_filePieces]
    rfl

theorem HasWords.reportedNames_addressPieces (words : register.HasWords gen) (address : Address) :
    reportedNames (addressPieces gen (code register.file) address) = [] := by
  have offset : reportedNames
      (if address.offset = 0 then [] else [.text s!" {address.offset}"]) = [] := by
    split <;> rfl
  simp only [addressPieces, reportedNames_append, words.reportedNames_filePieces, offset,
    reportedNames_subregPieces]
  rfl

theorem HasWords.reportedNames_destination (words : register.HasWords gen) (mode : AccessMode) :
    reportedNames ((register.heldDestination mode).pieces gen) = [] := by
  obtain ⟨number, typed⟩ := words.type
  have type : ∀ what, reportedNames (typePieces what (code register.file) number) = [] :=
    fun what => reportedNames_typePieces typed
  unfold heldDestination
  cases addressing : register.addressing with
  | indirect address =>
      simp only [DestinationCodes.pieces, typed, Option.getD_some, reportedNames_append,
        words.reportedNames_addressPieces, reportedNames_stridePieces, type, List.append_nil]
  | direct =>
      cases mode <;>
        simp only [DestinationCodes.pieces, typed, Option.getD_some, reportedNames_append,
          words.reportedNames_registerPieces, List.nil_append] <;>
        split <;>
        simp only [reportedNames_append, reportedNames_offsetPieces, reportedNames_stridePieces,
          type, reportedNames_text, reportedNames_nil, List.append_nil]

-- Of a source only the vertical stride can be reported, where it is shown.
theorem HasWords.reportedNames_source (words : register.HasWords gen)
    (notImmediate : register.isImmediate = false) (mode : AccessMode) :
    reportedNames ((register.heldSource mode).pieces gen) =
      if register.IsNameOnly then [] else register.region.vstride.reports := by
  obtain ⟨number, typed⟩ := words.type
  have type : ∀ what, reportedNames (typePieces what (code register.file) number) = [] :=
    fun what => reportedNames_typePieces typed
  have file : ¬register.file = .immediate := by simpa [isImmediate] using notImmediate
  have signs : reportedNames (signPieces register.negate register.abs) = [] := rfl
  unfold heldSource
  cases addressing : register.addressing with
  | indirect address =>
      have shown : ¬register.IsNameOnly := by simp [IsNameOnly, addressing]
      simp only [if_neg file, if_neg shown, SourceCodes.pieces, typed, Option.getD_some,
        reportedNames_append, signs, words.reportedNames_addressPieces,
        Region.reportedNames_pieces, type, List.append_nil, List.nil_append]
  | direct =>
      have nameOnly : register.IsNameOnly ↔
          isBare (code register.file) register.number = true := by
        simp [IsNameOnly, addressing]
      simp only [nameOnly]
      cases mode <;>
        simp only [if_neg file, SourceCodes.pieces, typed, Option.getD_some, reportedNames_append,
          signs, words.reportedNames_registerPieces, List.nil_append] <;>
        split
      · rfl
      · simp only [reportedNames_append, reportedNames_offsetPieces, Region.reportedNames_pieces,
          type, List.append_nil, List.nil_append]
      · rfl
      · simp only [reportedNames_append, reportedNames_offsetPieces, reportedNames_text,
          reportedNames_nil, reportedNames_entry, Mnemonics.verticalStride, Mnemonics.ofCoded_code,
          type, List.append_nil, List.nil_append, VerticalStride.reports]

theorem HasWords.keptDestination (words : register.HasWords gen) (registers : Nat)
    (mode : AccessMode) : (register.keptDestination registers mode).HasWords gen := by
  unfold Register.keptDestination
  cases register.addressing <;> cases mode <;> exact ⟨words.file, words.type⟩

theorem HasWords.keptSource (words : register.HasWords gen)
    (notImmediate : register.isImmediate = false) (registers : Nat) (mode : AccessMode)
    (oneChannel : Bool) :
    (register.keptSource registers mode oneChannel).HasWords gen ∧
      (register.keptSource registers mode oneChannel).isImmediate = false := by
  have file : ¬register.file = .immediate := by simpa [isImmediate] using notImmediate
  unfold Register.keptSource
  simp only [if_neg file]
  cases register.addressing <;> cases mode <;>
    exact ⟨⟨words.file, words.type⟩, notImmediate⟩

end Register

namespace Instruction

/-- The slot holds a register that is no immediate and whose file and type can be shown. -/
def HoldsRegister (slot : Slot) (instr : Instruction) : Prop :=
  ∃ register, instr.operand (.plain slot) = .ok register ∧ register.HasWords instr.gen ∧
    (slot ≠ .dst → register.isImmediate = false)

theorem holdsRegister_setOperand {slot : Slot} {register : Register} {instr written : Instruction}
    (notImmediate : register.isImmediate = false)
    (accepted : instr.setOperand slot register = .ok written) : written.HoldsRegister slot := by
  rcases slot with - | slot
  · obtain ⟨placed, codes, isPlaced, coded, rfl⟩ := (setDestination_eq_ok_iff _ _ _).mp accepted
    obtain ⟨type, place, typed, -, -⟩ := (Register.destinationCodes_eq_ok_iff _ _ _).mp coded
    have words := (Register.hasWords_of_placed isPlaced typed).keptDestination
      instr.gen.layoutKind.addressRegisters instr.accessMode
    have unmoved : ((instr.writeDestination codes).fitExecSize placed.region.width).gen =
        instr.gen := by
      rw [writeDestination_fitExecSize_eq]
    exact ⟨_, destination_of_coded instr coded _, unmoved ▸ words, fun same => absurd rfl same⟩
  · obtain ⟨codes, judged, rfl⟩ := (setSource_eq_ok_iff _ _ _ _).mp accepted
    obtain ⟨placed, type, -, isPlaced, -, typed, -⟩ := (judgeSource_eq_ok_iff _ _ _ _).mp judged
    obtain ⟨placed', isPlaced', read⟩ := source_of_judged judged
    obtain rfl := Except.ok.inj (isPlaced.symm.trans isPlaced')
    obtain ⟨rfl, -⟩ := (Register.placed_eq_ok_iff _ _ _).mp isPlaced
    obtain ⟨words, noImmediate⟩ := (Register.hasWords_of_placed isPlaced typed).keptSource
      ((Register.withoutMessageFile_isImmediate _ _).trans notImmediate)
      instr.gen.layoutKind.addressRegisters instr.accessMode instr.executesOneChannel
    have unmoved : (instr.writeSource slot codes).gen = instr.gen := by
      rw [writeSource_eq]
    exact ⟨_, read, unmoved ▸ words, fun _ => noImmediate⟩

theorem holdsRegister_setSlots {operands : List (Slot × Register)} {instr done : Instruction}
    (notImmediate : ∀ operand ∈ operands, operand.2.isImmediate = false)
    (accepted : instr.setSlots operands = .ok done) :
    ∀ operand ∈ operands, done.HoldsRegister operand.1 := by
  induction operands generalizing instr with
  | nil => exact List.forall_mem_nil _
  | cons operand rest ih =>
      obtain ⟨next, first, others⟩ := setSlots_cons_eq_ok_iff.mp accepted
      obtain ⟨noImmediate, noImmediates⟩ := List.forall_mem_cons.mp notImmediate
      have later := ih noImmediates others
      refine List.forall_mem_cons.mpr ⟨?_, later⟩
      by_cases again : ∃ operand' ∈ rest, operand'.1 = operand.1
      · obtain ⟨operand', member, same⟩ := again
        exact same ▸ later operand' member
      · obtain ⟨register, held, words, noImmediate'⟩ := holdsRegister_setOperand noImmediate first
        have untouched : ∀ operand' ∈ rest, operand'.1 ≠ operand.1 :=
          fun operand' member same => again ⟨operand', member, same⟩
        rcases operand_setSlots untouched others with kept | ⟨-, ⟨operand', member, immediate⟩, -⟩
        · obtain ⟨after, rfl, -⟩ := header_setSlots others
          exact ⟨register, kept.trans held, words, noImmediate'⟩
        · exact absurd immediate (by simp [noImmediates operand' member])

theorem HoldsRegister.reportedNames {slot : Slot} {instr : Instruction} {register : Register}
    (holds : instr.HoldsRegister slot) (decoded : instr.operand (.plain slot) = .ok register) :
    ExecUnit.reportedNames (instr.shownOperand (.plain slot)) =
      if slot = .dst ∨ register.IsNameOnly then [] else register.region.vstride.reports := by
  obtain ⟨register', decoded', words, notImmediate⟩ := holds
  obtain rfl := Except.ok.inj (decoded.symm.trans decoded')
  rw [shownOperand_of_decoded _ decoded]
  rcases slot with - | slot
  · rw [if_pos (Or.inl rfl)]
    exact words.reportedNames_destination instr.accessMode
  · simp only [reduceCtorEq, false_or]
    exact words.reportedNames_source (notImmediate (by simp)) instr.accessMode

/-- After a run of calls that set all operands of an instruction to registers, every operand
decodes, and of their parts the listing reports vertical strides alone: those above 32, which
the setters accept and which are read back, in sources that are shown with their region. -/
theorem reports_of_set_operands (instr done : Instruction) (operands : List (Slot × Register))
    (registers : ∀ operand ∈ operands, operand.2.isImmediate = false)
    (accepted : instr.setSlots operands = .ok done)
    (complete : ∀ kind ∈ instr.operandKinds, ∃ operand ∈ operands, kind = .plain operand.1) :
    (∀ kind ∈ instr.operandKinds, ∃ register, done.operand kind = .ok register) ∧
      ∀ what ∈ operandNames, Reported what done.listing.text ↔
        what = "vert stride" ∧ ∃ slot register elements,
          .plain (.source slot) ∈ instr.operandKinds ∧ done.source slot = .ok register ∧
            ¬register.IsNameOnly ∧ register.region.vstride.elements? = some elements ∧
            32 < elements := by
  have holds := holdsRegister_setSlots registers accepted
  have kinds : done.operandKinds = instr.operandKinds := by
    obtain ⟨after, rfl, agree⟩ := header_setSlots accepted
    exact operandKinds_of_agree (agree _ List.mem_cons_self)
  refine ⟨fun kind isKind => ?_, fun what ofOperand => ?_⟩
  · obtain ⟨operand, member, rfl⟩ := complete kind isKind
    obtain ⟨register, decoded, -⟩ := holds operand member
    exact ⟨register, decoded⟩
  · rw [done.reported_operand_iff ofOperand, kinds]
    constructor
    · rintro ⟨kind, isKind, reported⟩
      obtain ⟨⟨slot, given⟩, member, rfl⟩ := complete kind isKind
      obtain ⟨register, decoded, -⟩ := holds _ member
      rw [(holds _ member).reportedNames decoded] at reported
      split at reported
      · cases reported
      · next shown =>
        obtain ⟨notDst, notNameOnly⟩ := not_or.mp shown
        obtain ⟨rfl, wide⟩ := VerticalStride.mem_reports_iff.mp reported
        rcases slot with - | slot
        · exact absurd rfl notDst
        · obtain ⟨elements, stride, above⟩ := wide
          exact ⟨rfl, slot, register, elements, isKind, decoded, notNameOnly, stride, above⟩
    · rintro ⟨rfl, slot, register, elements, isKind, decoded, notNameOnly, stride, above⟩
      obtain ⟨⟨slot', given⟩, member, same⟩ := complete _ isKind
      obtain rfl : Slot.source slot = slot' := OperandKind.plain.inj same
      refine ⟨_, isKind, ?_⟩
      rw [(holds _ member).reportedNames decoded, if_neg (by simp [notNameOnly])]
      exact VerticalStride.mem_reports_iff.mpr ⟨rfl, elements, stride, above⟩

def moveSixteen : Instruction :=
  (⟨.gen6, 0⟩ : Instruction)
    |> set Layout.gen4.header.opcode (code Opcode.mov)
    |> setExecSize .e16

def moveOperands (vstride : VerticalStride) : List (Slot × Register) :=
  [(.dst, .general 1 0), (.source .src0, (Register.general 2 0).withRegion ⟨vstride, .w8, .s1⟩)]

/-- A vertical stride of 32 is the widest that is not reported. -/
theorem reports_of_set_operands_narrow :
    ∃ done, moveSixteen.setSlots (moveOperands .s32) = .ok done ∧
      ∀ what ∈ operandNames, ¬Reported what done.listing.text := by
  refine ⟨_, rfl, fun what ofOperand reported => ?_⟩
  have law := reports_of_set_operands moveSixteen _ (moveOperands .s32) (by decide) rfl (by decide)
  obtain ⟨-, slot, register, elements, isKind, decoded, -, stride, wide⟩ :=
    (law.2 what ofOperand).mp reported
  obtain rfl : slot = .src0 := by
    revert isKind
    cases slot <;> decide
  obtain rfl : register = (Register.general 2 0).withRegion ⟨.s32, .w8, .s1⟩ :=
    Except.ok.inj (decoded.symm.trans rfl)
  obtain rfl := Option.some.inj stride
  exact absurd wide (by decide)

/-- A vertical stride of 64 is accepted, read back, and reported as malformed. -/
theorem set_operand_reported :
    ¬∀ (instr done : Instruction) (operands : List (Slot × Register)),
      (∃ opcode, instr.knownOpcode? = some opcode) →
      (∀ operand ∈ operands, operand.2.isImmediate = false) →
      instr.setSlots operands = .ok done →
      (∀ kind ∈ instr.operandKinds, ∃ operand ∈ operands, kind = .plain operand.1) →
      ∀ what ∈ operandNames, ¬Reported what done.listing.text := by
  intro claim
  refine claim moveSixteen _ (moveOperands .s64) ⟨.mov, rfl⟩ (by decide) rfl (by decide)
    "vert stride" (by simp [operandNames]) ?_
  refine (reported_operand_iff _ (by simp [operandNames])).mpr ⟨.plain (.source .src0), by decide, ?_⟩
  exact List.mem_cons_self

end Instruction

end ExecUnit
