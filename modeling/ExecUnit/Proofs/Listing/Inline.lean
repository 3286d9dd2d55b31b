import ExecUnit.Proofs.Listing.Operands
import ExecUnit.Proofs.Text.Plain

/-!
The pieces that a listing puts on one line. Their texts are plain, whatever the
instruction: all words are, and all numerals. So stars come from reports alone and line
ends from the pieces that are there for them.
-/

namespace ExecUnit

/-- A piece of a line, without a star or a line end of its own. -/
@[simp]
def Piece.Inline : Piece → Prop
  | .text content => Plain content
  | .malformed what _ => Plain what
  | .pad _ | .unknownOpcode _ => True
  | .newline => False

def Inline (pieces : List Piece) : Prop :=
  ∀ piece ∈ pieces, piece.Inline

namespace Inline

@[simp]
theorem nil : Inline [] :=
  List.forall_mem_nil _

@[simp]
theorem cons_iff (piece : Piece) (rest : List Piece) :
    Inline (piece :: rest) ↔ piece.Inline ∧ Inline rest :=
  List.forall_mem_cons

@[simp]
theorem append_iff (first second : List Piece) :
    Inline (first ++ second) ↔ Inline first ∧ Inline second :=
  List.forall_mem_append

theorem text {content : String} (plain : Plain content) : Inline [.text content] :=
  (cons_iff _ _).mpr ⟨plain, nil⟩

theorem ite {condition : Prop} [Decidable condition] {first second : List Piece}
    (inFirst : Inline first) (inSecond : Inline second) :
    Inline (if condition then first else second) := by
  split <;> assumption

theorem flatMap {α : Type} {elements : List α} {pieces : α → List Piece}
    (inline : ∀ element ∈ elements, Inline (pieces element)) :
    Inline (elements.flatMap pieces) := by
  intro piece member
  obtain ⟨element, inElements, inPieces⟩ := List.mem_flatMap.mp member
  exact inline element inElements piece inPieces

end Inline

theorem Plain.spaces (count : Nat) : Plain (Piece.spaces count) := by
  refine (ofList_iff _).mpr fun char member => ?_
  obtain rfl := List.eq_of_mem_replicate member
  decide

section Words

def Mnemonics.Plain (words : Mnemonics) : Prop :=
  ∀ number word, words number = some word → ExecUnit.Plain word

theorem Mnemonics.Plain.ofCoded {α : Type} [Coded α] {word? : α → Option String}
    (plain : ∀ value, ∀ word ∈ word? value, ExecUnit.Plain word) :
    (Mnemonics.ofCoded word?).Plain := by
  intro number word found
  obtain ⟨value, -, isWord⟩ := Option.bind_eq_some_iff.mp found
  exact plain value word isWord

theorem Mnemonics.Plain.ofWord {α : Type} [Coded α] {word : α → String}
    (plain : ∀ value, ExecUnit.Plain (word value)) :
    (Mnemonics.ofCoded (some ∘ word)).Plain :=
  ofCoded fun value _ isWord => Option.some.inj isWord ▸ plain value

theorem Mnemonics.Plain.ofList {words : List String}
    (plain : ∀ word ∈ words, ExecUnit.Plain word) : (Mnemonics.ofList words).Plain :=
  fun _ word found => plain word (List.mem_of_getElem? found)

theorem inline_entry {what : String} {words : Mnemonics} (value : Nat)
    (plain : words.Plain) (named : Plain what) : Inline (entry what words value) := by
  unfold entry
  split
  · next word found => simpa using plain value word found
  · simpa using named

theorem inline_spaced {what : String} {words : Mnemonics} (value : Nat)
    (plain : words.Plain) (named : Plain what) : Inline (spaced what words value) := by
  have space : Plain " " := .literal rfl
  unfold spaced
  split
  · next word found => exact .ite .nil (by simpa [space] using plain value word found)
  · simpa using named

theorem plain_conditionalModifier (gen : Generation) :
    (Mnemonics.conditionalModifier gen).Plain := by
  refine .ofCoded fun value => ?_
  cases value with
  | round =>
      intro word found
      obtain rfl := Option.some.inj (Option.ite_none_right_eq_some.mp found).2
      exact .literal rfl
  | _ =>
      rintro word ⟨⟩
      exact .literal rfl

theorem plain_verticalStride : Mnemonics.verticalStride.Plain := by
  refine .ofCoded fun value => ?_
  cases value <;> rintro word ⟨⟩ <;> exact .literal rfl

theorem plain_width : Mnemonics.width.Plain :=
  .ofWord fun value => plain_nat value.elements

theorem plain_horizontalStride : Mnemonics.horizontalStride.Plain :=
  .ofWord fun value => plain_nat value.elements

theorem plain_execSize : Mnemonics.execSize.Plain :=
  .ofWord fun value => plain_nat value.channels

theorem plain_maskControl : Mnemonics.maskControl.Plain :=
  .ofWord fun value => by cases value <;> exact .literal rfl

theorem plain_dependencyControl : Mnemonics.dependencyControl.Plain :=
  .ofWord fun value => by cases value <;> exact .literal rfl

theorem plain_threadControl : Mnemonics.threadControl.Plain :=
  .ofWord fun value => by cases value <;> exact .literal rfl

theorem plain_predicateControl (mode : AccessMode) : (Mnemonics.predicateControl mode).Plain := by
  cases mode with
  | align1 => exact .ofWord fun value => by cases value <;> exact .literal rfl
  | align16 =>
      refine .ofCoded fun value => ?_
      cases value <;> rintro word ⟨⟩ <;> exact .literal rfl

theorem plain_mathFunction : Mnemonics.mathFunction.Plain :=
  .ofWord fun value => by cases value <;> exact .literal rfl

theorem plain_registerFile (gen : Generation) : (Mnemonics.registerFile gen).Plain := by
  refine .ofCoded fun value => ?_
  cases value with
  | message =>
      intro word found
      obtain rfl := Option.some.inj (Option.ite_none_right_eq_some.mp found).2
      exact .literal rfl
  | _ =>
      rintro word ⟨⟩
      exact .literal rfl

theorem plain_sfid (gen : Generation) : (Mnemonics.sfid gen).Plain := by
  refine .ofCoded fun value => ?_
  unfold Sfid.word?
  split <;> cases value <;> rintro word ⟨⟩ <;> exact .literal rfl

theorem plain_compressionControl : Mnemonics.compressionControl.Plain := by
  apply Mnemonics.Plain.ofList
  simp only [List.forall_mem_cons]
  exact ⟨.literal rfl, .literal rfl, .literal rfl, List.forall_mem_nil _⟩

theorem plain_urbOpcode (gen : Generation) : (Mnemonics.urbOpcode gen).Plain := by
  apply Mnemonics.Plain.ofList
  split <;> simp only [List.forall_mem_cons]
  · exact ⟨.literal rfl, .literal rfl, List.forall_mem_nil _⟩
  · exact ⟨.literal rfl, .literal rfl, .literal rfl, .literal rfl,
      .literal rfl, .literal rfl, .literal rfl, .literal rfl,
      .literal rfl, List.forall_mem_nil _⟩

theorem plain_typeName (type : DataType) : Plain type.name := by
  cases type <;> exact .literal rfl

theorem plain_opcode (opcode : Opcode) : Plain opcode.mnemonic := by
  cases opcode <;> exact .literal rfl

theorem plain_accessMode (mode : AccessMode) : Plain mode.word := by
  cases mode <;> exact .literal rfl

theorem plain_channel (channel : Channel) : Plain channel.word := by
  cases channel <;> exact .literal rfl

theorem plain_swizzle (swizzle : Swizzle) : Plain swizzle.word := by
  have dot : Plain "." := .literal rfl
  unfold Swizzle.word
  split
  · exact .literal rfl
  · split
    · exact (Plain.append_iff _ _).mpr ⟨dot, plain_channel _⟩
    · refine (Plain.append_iff _ _).mpr ⟨dot, .join fun word member => ?_⟩
      obtain ⟨channel, -, rfl⟩ := List.mem_map.mp member
      exact plain_channel channel

theorem plain_writeMask (mask : WriteMask) : Plain mask.word := by
  have dot : Plain "." := .literal rfl
  have letter : ∀ (enabled : Bool) (channel : Channel),
      Plain (if enabled then channel.word else "") := by
    intro enabled channel
    split
    · exact plain_channel channel
    · exact .literal rfl
  unfold WriteMask.word
  split
  · exact .literal rfl
  · split
    · exact .literal rfl
    · simp only [Plain.append_iff]
      exact ⟨⟨⟨⟨dot, letter _ _⟩, letter _ _⟩, letter _ _⟩, letter _ _⟩

theorem plain_archName (number : Nat) : Plain (archName number) := by
  have stem : ∀ kind : ArchKind, Plain kind.stem := fun kind => by
    cases kind <;> exact .literal rfl
  have unnamed : Plain "ARF" := .literal rfl
  unfold archName
  split
  · exact stem .null
  · exact stem .ip
  · next kind _ => simp [stem]
  · simp [unnamed]

end Words

section Operands

theorem inline_typePieces {what : String} (file type : Nat) (named : Plain what) :
    Inline (typePieces what file type) := by
  unfold typePieces
  split
  · simp [plain_typeName]
  · simpa using named

theorem inline_subregPieces (subreg : Nat) : Inline (subregPieces subreg) := by
  have dot : Plain "." := .literal rfl
  exact .ite .nil (by simp [dot])

theorem inline_offsetPieces (file type offset : Nat) :
    Inline (offsetPieces file type offset) := by
  have dot : Plain "." := .literal rfl
  exact .ite .nil (by simp [dot])

theorem inline_filePieces (gen : Generation) (file : Nat) : Inline (filePieces gen file) :=
  inline_entry file (plain_registerFile gen) (.literal rfl)

theorem inline_registerPieces (gen : Generation) (file number : Nat) :
    Inline (registerPieces gen file number) :=
  .ite (by simp [plain_archName]) (by simp [inline_filePieces])

theorem inline_addressPieces (gen : Generation) (file : Nat) (address : Address) :
    Inline (addressPieces gen file address) := by
  have space : Plain " " := .literal rfl
  have offset : Inline (if address.offset = 0 then [] else [.text s!" {address.offset}"]) :=
    .ite .nil (by simp [space])
  simp only [addressPieces, Inline.append_iff, Inline.cons_iff]
  exact ⟨⟨⟨⟨inline_filePieces gen file, .literal rfl, .nil⟩, inline_subregPieces _⟩, offset⟩,
    .literal rfl, .nil⟩

theorem inline_stridePieces (hstride : Nat) :
    Inline (DestinationCodes.stridePieces hstride) := by
  simp only [DestinationCodes.stridePieces, Inline.append_iff, Inline.cons_iff]
  exact ⟨⟨⟨.literal rfl, .nil⟩, inline_entry hstride plain_horizontalStride (.literal rfl)⟩,
    .literal rfl, .nil⟩

theorem inline_destination (gen : Generation) (codes : DestinationCodes) :
    Inline (codes.pieces gen) := by
  have type : Inline (typePieces "dest reg encoding" codes.file codes.type) :=
    inline_typePieces _ _ (.literal rfl)
  unfold DestinationCodes.pieces
  dsimp only
  split <;> simp only [Inline.append_iff]
  · exact ⟨⟨inline_addressPieces _ _ _, inline_stridePieces _⟩, type⟩
  · refine ⟨inline_registerPieces _ _ _, .ite .nil ?_⟩
    simp only [Inline.append_iff]
    exact ⟨⟨inline_offsetPieces _ _ _, inline_stridePieces _⟩, type⟩
  · refine ⟨inline_registerPieces _ _ _, .ite .nil ?_⟩
    simp only [Inline.append_iff, Inline.cons_iff]
    exact ⟨⟨inline_offsetPieces _ _ _, .literal rfl, plain_writeMask _, .nil⟩, type⟩

theorem inline_region (region : RegionCodes) : Inline region.pieces := by
  simp only [RegionCodes.pieces, Inline.append_iff, Inline.cons_iff]
  exact ⟨⟨⟨⟨⟨⟨⟨.literal rfl, .nil⟩, inline_entry _ plain_verticalStride (.literal rfl)⟩,
    .literal rfl, .nil⟩, inline_entry _ plain_width (.literal rfl)⟩, .literal rfl, .nil⟩,
    inline_entry _ plain_horizontalStride (.literal rfl)⟩, .literal rfl, .nil⟩

theorem inline_signPieces (negate abs : Bool) : Inline (signPieces negate abs) := by
  have sign : Plain (if negate then "-" else "") := by
    split <;> exact .literal rfl
  have magnitude : Plain (if abs then "(abs)" else "") := by
    split <;> exact .literal rfl
  exact (Inline.cons_iff _ _).mpr ⟨sign, .text magnitude⟩

theorem inline_immediate (type : Nat) (value : Word) : Inline (immediatePieces type value) := by
  have floats : ∀ text ∈ (RestrictedFloat.unpack4 value).map fun byte =>
      Numeral.float (RestrictedFloat.toFloat byte), Plain text := by
    intro text member
    obtain ⟨byte, -, rfl⟩ := List.mem_map.mp member
    exact Numeral.plain_float _
  have vector : Plain (String.intercalate ", " ((RestrictedFloat.unpack4 value).map fun byte =>
      Numeral.float (RestrictedFloat.toFloat byte))) :=
    .intercalate (.literal rfl) floats
  unfold immediatePieces
  split <;>
    simp only [Inline.cons_iff, Piece.Inline, Plain.append_iff, Plain.toString_iff,
      Numeral.plain_hexPadded, Numeral.plain_float, and_true]
  · exact ⟨⟨.literal rfl, .literal rfl⟩, .nil⟩
  · exact ⟨⟨plain_int _, .literal rfl⟩, .nil⟩
  · exact ⟨⟨.literal rfl, .literal rfl⟩, .nil⟩
  · exact ⟨⟨plain_int _, .literal rfl⟩, .nil⟩
  · exact ⟨⟨.literal rfl, .literal rfl⟩, .nil⟩
  · exact ⟨⟨.literal rfl, .literal rfl⟩, .nil⟩
  · exact ⟨⟨⟨.literal rfl, vector⟩, .literal rfl⟩, .nil⟩
  · exact ⟨⟨trivial, .literal rfl⟩, .nil⟩
  · exact ⟨.literal rfl, .nil⟩

theorem inline_source (gen : Generation) (codes : SourceCodes) : Inline (codes.pieces gen) := by
  have type : Inline (typePieces "src reg encoding" codes.file codes.type) :=
    inline_typePieces _ _ (.literal rfl)
  have vstride : ∀ number, Inline (entry "vert stride" .verticalStride number) :=
    fun number => inline_entry number plain_verticalStride (.literal rfl)
  unfold SourceCodes.pieces
  split
  · exact inline_immediate _ _
  · simp only [Inline.append_iff]
    exact ⟨⟨⟨inline_signPieces _ _, inline_addressPieces _ _ _⟩, inline_region _⟩, type⟩
  · rw [Inline.append_iff, Inline.append_iff]
    refine ⟨⟨inline_signPieces _ _, inline_registerPieces _ _ _⟩, .ite .nil ?_⟩
    simp only [Inline.append_iff]
    exact ⟨⟨inline_offsetPieces _ _ _, inline_region _⟩, type⟩
  · rw [Inline.append_iff, Inline.append_iff]
    refine ⟨⟨inline_signPieces _ _, inline_registerPieces _ _ _⟩, .ite .nil ?_⟩
    simp only [Inline.append_iff, Inline.cons_iff]
    exact ⟨⟨⟨⟨inline_offsetPieces _ _ _, .literal rfl, .nil⟩, vstride _⟩, .literal rfl,
      plain_swizzle _, .nil⟩, inline_typePieces _ _ (.literal rfl)⟩

theorem inline_tripleTypePieces {what : String} (type? : Option Nat) (named : Plain what) :
    Inline (tripleTypePieces what type?) := by
  unfold tripleTypePieces
  split
  · exact .text (plain_typeName .f)
  · split
    · simp [plain_typeName]
    · simpa using named

theorem inline_tripleDestination (gen : Generation) (type? : Option Nat)
    (codes : TripleFields.DestinationCodes) : Inline (codes.pieces gen type?) := by
  simp only [TripleFields.DestinationCodes.pieces, Inline.append_iff, Inline.cons_iff]
  exact ⟨⟨⟨inline_registerPieces _ _ _, inline_subregPieces _⟩, .literal rfl, plain_writeMask _,
    .nil⟩, inline_tripleTypePieces _ (.literal rfl)⟩

theorem inline_tripleSource (gen : Generation) (type? : Option Nat) (codes : TripleSourceCodes) :
    Inline (codes.pieces gen type?) := by
  have region : Plain (if codes.replicate then "<0,1,0>" else "<4,1,1>") := by
    split <;> exact .literal rfl
  simp only [TripleSourceCodes.pieces, Inline.append_iff, Inline.cons_iff]
  exact ⟨⟨⟨⟨⟨inline_signPieces _ _, inline_registerPieces _ _ _⟩, inline_subregPieces _⟩, region,
    .nil⟩, inline_tripleTypePieces _ (.literal rfl)⟩, plain_swizzle _, .nil⟩

end Operands

namespace Instruction

variable (instr : Instruction)

theorem inline_shownOperand (kind : OperandKind) : Inline (instr.shownOperand kind) := by
  match kind with
  | .plain .dst => exact inline_destination _ _
  | .plain (.source _) => exact inline_source _ _
  | .tripleDestination => exact inline_tripleDestination _ _ _
  | .tripleSource _ => exact inline_tripleSource _ _ _

theorem inline_jumpPieces : Inline instr.jumpPieces := by
  have space : Plain " " := .literal rfl
  unfold jumpPieces
  dsimp only
  split
  · simp [space]
  · simp [space]
  · exact .nil

theorem inline_operandPieces : Inline instr.operandPieces := by
  rw [operandPieces_eq, Inline.append_iff]
  refine ⟨.ite .nil instr.inline_jumpPieces, .flatMap fun kind _ => ?_⟩
  exact (Inline.cons_iff _ _).mpr ⟨trivial, instr.inline_shownOperand kind⟩

theorem inline_flagRegisterPieces : Inline instr.flagRegisterPieces := by
  have flag : Plain "f" := .literal rfl
  unfold flagRegisterPieces
  simp [flag, inline_subregPieces]

theorem inline_predicatePieces : Inline instr.predicatePieces := by
  have sign : Plain (if instr.isSet instr.layout.header.predicateInverse then "-" else "+") := by
    split <;> exact .literal rfl
  refine .ite .nil ?_
  simp only [Inline.append_iff, Inline.cons_iff]
  refine ⟨⟨⟨⟨.literal rfl, sign, .nil⟩, instr.inline_flagRegisterPieces⟩, ?_⟩, .literal rfl, .nil⟩
  exact inline_entry _ (plain_predicateControl _) (by split <;> exact .literal rfl)

theorem inline_mnemonicPieces : Inline instr.mnemonicPieces := by
  have saturate : Plain (if instr.isSet instr.layout.header.saturate then ".sat" else "") := by
    split <;> exact .literal rfl
  have debug :
      Plain (if instr.isSet instr.layout.header.debugControl then ".breakpoint" else "") := by
    split <;> exact .literal rfl
  simp only [mnemonicPieces, Inline.cons_iff]
  refine ⟨?_, saturate, debug, .nil⟩
  split
  · exact plain_opcode _
  · trivial

theorem inline_modifierPieces : Inline instr.modifierPieces := by
  have space : Plain " " := .literal rfl
  have dot : Plain "." := .literal rfl
  unfold modifierPieces
  dsimp only
  split
  · exact (Inline.cons_iff _ _).mpr ⟨space, inline_entry _ plain_mathFunction (.literal rfl)⟩
  · exact .ite .nil (by simp [space])
  · refine (Inline.append_iff _ _).mpr
      ⟨inline_entry _ (plain_conditionalModifier _) (.literal rfl), .ite .nil ?_⟩
    exact (Inline.cons_iff _ _).mpr ⟨dot, instr.inline_flagRegisterPieces⟩

theorem inline_execSizePieces : Inline instr.execSizePieces := by
  refine .ite .nil ?_
  simp only [Inline.append_iff, Inline.cons_iff]
  exact ⟨⟨⟨.literal rfl, .nil⟩, inline_entry _ plain_execSize (.literal rfl)⟩, .literal rfl, .nil⟩

theorem inline_flagPieces {word : String} (field? : Option Field) (plain : Plain word) :
    Inline (instr.flagPieces word field?) := by
  have space : Plain " " := .literal rfl
  exact .ite (by simp [space, plain]) .nil

theorem inline_payloadPieces : Inline instr.payloadPieces := by
  have space : Plain " " := .literal rfl
  unfold payloadPieces
  split
  · have opening : Plain " (" := .literal rfl
    have comma : Plain ", " := .literal rfl
    have closing : Plain ")" := .literal rfl
    simp [samplerPieces, opening, comma, closing]
  · simp only [urbPieces, Inline.append_iff, Inline.cons_iff]
    exact ⟨⟨⟨inline_spaced _ (plain_urbOpcode _) (.literal rfl),
      instr.inline_flagPieces _ (.literal rfl)⟩, by simp [space], .nil⟩,
      instr.inline_flagPieces _ (.literal rfl)⟩
  · exact inline_spaced _ plain_mathFunction (.literal rfl)
  · have opening : Plain " (" := .literal rfl
    have hex : Plain ", 0x" := .literal rfl
    have closing : Plain ")" := .literal rfl
    simp [dataportPieces, opening, hex, closing]
  · have opening : Plain " unsupported shared function ID (" := .literal rfl
    have closing : Plain ")" := .literal rfl
    simp [opening, closing]

theorem inline_lengthPieces : Inline instr.lengthPieces := by
  have space : Plain (if instr.spacesLengths then " " else "") := by split <;> exact .literal rfl
  have length : Plain "mlen " := .literal rfl
  have response : Plain " rlen " := .literal rfl
  simp [lengthPieces, space, length, response]

-- The second line of SEND is begun by a line end.
theorem messagePieces_eq : ∃ line, instr.messagePieces = .newline :: line ∧ Inline line := by
  refine ⟨.pad 16 :: (entry "SFID" (.sfid instr.gen) instr.sfidNumber ++ instr.payloadPieces ++
    instr.lengthPieces), rfl, ?_⟩
  simp only [Inline.append_iff, Inline.cons_iff]
  exact ⟨trivial, ⟨inline_entry _ (plain_sfid _) (.literal rfl), instr.inline_payloadPieces⟩,
    instr.inline_lengthPieces⟩

theorem inline_quarterPieces : Inline instr.quarterPieces := by
  have space : Plain " " := .literal rfl
  have quarter : Plain "Q" := .literal rfl
  have half : ∀ control, Plain (if control < 2 then " 1H" else " 2H") := by
    intro control
    split <;> exact .literal rfl
  unfold quarterPieces
  refine .ite ?_ (inline_spaced _ plain_compressionControl (.literal rfl))
  split
  · simp [space, quarter]
  · exact .text (half _)
  · exact .nil

theorem inline_settingPieces : Inline instr.settingPieces := by
  have mode : Plain (" " ++ instr.accessMode.word) :=
    (Plain.append_iff _ _).mpr ⟨.literal rfl, plain_accessMode _⟩
  simp only [settingPieces, Inline.append_iff, Inline.cons_iff]
  exact ⟨⟨⟨⟨⟨⟨⟨⟨.literal rfl, mode, .nil⟩, inline_spaced _ plain_maskControl (.literal rfl)⟩,
    inline_spaced _ plain_dependencyControl (.literal rfl)⟩, instr.inline_quarterPieces⟩,
    inline_spaced _ plain_threadControl (.literal rfl)⟩, .ite (.text (.literal rfl)) .nil⟩,
    .ite (.text (.literal rfl)) .nil⟩, .literal rfl, .nil⟩

end Instruction

end ExecUnit
