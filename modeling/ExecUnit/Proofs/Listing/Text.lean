import ExecUnit.Proofs.Listing.Accounting

/-!
The text of pieces. Without padding it does not depend on where the pieces stand
(`Printed.text_unpadded`), so the text of a whole is put together from the texts of its parts.
The second line of a listing is put together that way (`Instruction.secondLine_listing`).
-/

namespace ExecUnit

namespace Piece

def isPad : Piece → Bool
  | .pad _ => true
  | _ => false

def ink : Piece → String
  | .text content => content
  | .malformed what value => notice what value
  | .unknownOpcode number => notice "opcode" number
  | .newline => "\n"
  | .pad _ => ""

end Piece

def ink (pieces : List Piece) : String :=
  String.join (pieces.map Piece.ink)

@[simp]
theorem ink_nil : ink [] = "" :=
  rfl

@[simp]
theorem ink_cons (piece : Piece) (rest : List Piece) :
    ink (piece :: rest) = piece.ink ++ ink rest :=
  String.join_cons

@[simp]
theorem ink_append (first second : List Piece) :
    ink (first ++ second) = ink first ++ ink second := by
  rw [ink, List.map_append, String.join_append]
  rfl

theorem ink_entry {what word : String} {words : Mnemonics} {value : Nat}
    (found : words value = some word) : ink (entry what words value) = word := by
  simp [entry, found, Piece.ink]

theorem ink_spaced {what word : String} {words : Mnemonics} {value : Nat}
    (found : words value = some word) (speaks : word ≠ "") :
    ink (spaced what words value) = " " ++ word := by
  simp [spaced, found, speaks, Piece.ink]

def Unpadded (pieces : List Piece) : Prop :=
  ∀ piece ∈ pieces, piece.isPad = false

namespace Unpadded

@[simp]
theorem nil : Unpadded [] :=
  List.forall_mem_nil _

@[simp]
theorem cons_iff (piece : Piece) (rest : List Piece) :
    Unpadded (piece :: rest) ↔ piece.isPad = false ∧ Unpadded rest :=
  List.forall_mem_cons

@[simp]
theorem append_iff (first second : List Piece) :
    Unpadded (first ++ second) ↔ Unpadded first ∧ Unpadded second :=
  List.forall_mem_append

theorem ite {condition : Prop} [Decidable condition] {first second : List Piece}
    (inFirst : Unpadded first) (inSecond : Unpadded second) :
    Unpadded (if condition then first else second) := by
  split <;> assumption

theorem text (content : String) : Unpadded [.text content] :=
  (cons_iff _ _).mpr ⟨rfl, nil⟩

theorem entry (what : String) (words : Mnemonics) (value : Nat) :
    Unpadded (entry what words value) := by
  unfold ExecUnit.entry
  split
  · exact text _
  · exact (cons_iff _ _).mpr ⟨rfl, nil⟩

theorem spaced (what : String) (words : Mnemonics) (value : Nat) :
    Unpadded (spaced what words value) := by
  unfold ExecUnit.spaced
  split
  · exact ite nil (text _)
  · exact (cons_iff _ _).mpr ⟨rfl, nil⟩

end Unpadded

namespace Printed

theorem text_unpadded {pieces : List Piece} (unpadded : Unpadded pieces) (printed : Printed) :
    (pieces.foldl add printed).text = printed.text ++ ink pieces := by
  induction pieces generalizing printed with
  | nil => exact String.append_empty.symm
  | cons piece rest ih =>
      rw [Unpadded.cons_iff] at unpadded
      have first : (printed.add piece).text = printed.text ++ piece.ink := by
        cases piece with
        | pad target => cases unpadded.1
        | _ => rfl
      rw [List.foldl_cons, ih unpadded.2, first, ink_cons, String.append_assoc]

theorem text_gap (column : Nat) {first second : List Piece} (inFirst : Unpadded first)
    (inSecond : Unpadded second) (printed : Printed) :
    ∃ gap, 0 < gap ∧ ((first ++ .pad column :: second).foldl add printed).text =
      printed.text ++ ink first ++ Piece.spaces gap ++ ink second := by
  have atFirst := text_unpadded inFirst printed
  generalize after : first.foldl add printed = before at atFirst
  refine ⟨Piece.gap before.column column, Nat.le_max_left _ _, ?_⟩
  rw [List.foldl_append, List.foldl_cons, after, text_unpadded inSecond, ← atFirst]
  rfl

-- Text that stands in front already has no part in what is printed next to it.
theorem text_behind (front : String) (pieces : List Piece) (printed : Printed) (errors : Nat) :
    (pieces.foldl add ⟨front ++ printed.text, printed.column, errors⟩).text =
      front ++ (pieces.foldl add printed).text := by
  induction pieces generalizing printed errors with
  | nil => rfl
  | cons piece rest ih =>
      have first : add ⟨front ++ printed.text, printed.column, errors⟩ piece =
          ⟨front ++ (printed.add piece).text, (printed.add piece).column,
            (add ⟨front ++ printed.text, printed.column, errors⟩ piece).errors⟩ := by
        cases piece <;> simp only [add, String.append_assoc]
      rw [List.foldl_cons, first, ih]
      rfl

end Printed

namespace Listing

theorem text_unpadded {pieces : List Piece} (unpadded : Unpadded pieces) :
    (ofPieces pieces).text = ink pieces :=
  (Printed.text_unpadded unpadded .start).trans String.empty_append

theorem text_twoLines (first second : List Piece) :
    (ofPieces (first ++ .newline :: second ++ [.newline])).text =
      (ofPieces first).text ++ "\n" ++ (ofPieces second).text ++ "\n" := by
  have next := Printed.text_behind ((ofPieces first).text ++ "\n") second .start
    (ofPieces first).errors
  rw [show Printed.start.text = "" from rfl, String.append_empty] at next
  simp only [ofPieces, Printed.ofPieces, List.foldl_append, List.foldl_cons, List.foldl_nil]
  exact congrArg (· ++ "\n") next

theorem text_twoColumns (indent column : Nat) {first second : List Piece}
    (inFirst : Unpadded first) (inSecond : Unpadded second) :
    ∃ gap, 0 < gap ∧ (ofPieces (.pad indent :: first ++ .pad column :: second)).text =
      Piece.spaces (Piece.gap 0 indent) ++ ink first ++ Piece.spaces gap ++ ink second := by
  have indented : (Printed.start.add (.pad indent)).text = Piece.spaces (Piece.gap 0 indent) :=
    String.empty_append
  rw [← indented]
  exact Printed.text_gap column inFirst inSecond _

end Listing

section Operands

theorem unpadded_typePieces (what : String) (file type : Nat) :
    Unpadded (typePieces what file type) := by
  unfold typePieces
  split <;> exact (Unpadded.cons_iff _ _).mpr ⟨rfl, .nil⟩

theorem unpadded_offsetPieces (file type offset : Nat) : Unpadded (offsetPieces file type offset) :=
  .ite .nil (.text _)

theorem unpadded_registerPieces (gen : Generation) (file number : Nat) :
    Unpadded (registerPieces gen file number) :=
  .ite (.text _) ((Unpadded.append_iff _ _).mpr ⟨.entry _ _ _, .text _⟩)

theorem unpadded_addressPieces (gen : Generation) (file : Nat) (address : Address) :
    Unpadded (addressPieces gen file address) := by
  simp only [addressPieces, filePieces, subregPieces, Unpadded.append_iff]
  exact ⟨⟨⟨⟨.entry _ _ _, .text _⟩, .ite .nil (.text _)⟩, .ite .nil (.text _)⟩, .text _⟩

theorem unpadded_stridePieces (hstride : Nat) :
    Unpadded (DestinationCodes.stridePieces hstride) := by
  simp only [DestinationCodes.stridePieces, Unpadded.append_iff]
  exact ⟨⟨.text _, .entry _ _ _⟩, .text _⟩

theorem unpadded_destination (gen : Generation) (codes : DestinationCodes) :
    Unpadded (codes.pieces gen) := by
  unfold DestinationCodes.pieces
  dsimp only
  split <;> simp only [Unpadded.append_iff]
  · exact ⟨⟨unpadded_addressPieces _ _ _, unpadded_stridePieces _⟩, unpadded_typePieces _ _ _⟩
  · refine ⟨unpadded_registerPieces _ _ _, .ite .nil ?_⟩
    simp only [Unpadded.append_iff]
    exact ⟨⟨unpadded_offsetPieces _ _ _, unpadded_stridePieces _⟩, unpadded_typePieces _ _ _⟩
  · refine ⟨unpadded_registerPieces _ _ _, .ite .nil ?_⟩
    simp only [Unpadded.append_iff, Unpadded.cons_iff]
    exact ⟨⟨unpadded_offsetPieces _ _ _, rfl, rfl, .nil⟩, unpadded_typePieces _ _ _⟩

theorem unpadded_immediatePieces (type : Nat) (value : Word) :
    Unpadded (immediatePieces type value) := by
  unfold immediatePieces
  split <;> exact (Unpadded.cons_iff _ _).mpr ⟨rfl, .nil⟩

theorem unpadded_source (gen : Generation) (codes : SourceCodes) :
    Unpadded (codes.pieces gen) := by
  have sign : Unpadded (signPieces codes.negate codes.abs) :=
    (Unpadded.cons_iff _ _).mpr ⟨rfl, .text _⟩
  have strides (region : RegionCodes) : Unpadded region.pieces := by
    simp only [RegionCodes.pieces, Unpadded.append_iff]
    exact ⟨⟨⟨⟨⟨⟨.text _, .entry _ _ _⟩, .text _⟩, .entry _ _ _⟩, .text _⟩, .entry _ _ _⟩, .text _⟩
  unfold SourceCodes.pieces
  split
  · exact unpadded_immediatePieces _ _
  · simp only [Unpadded.append_iff]
    exact ⟨⟨⟨sign, unpadded_addressPieces _ _ _⟩, strides _⟩, unpadded_typePieces _ _ _⟩
  · rw [Unpadded.append_iff, Unpadded.append_iff]
    refine ⟨⟨sign, unpadded_registerPieces _ _ _⟩, .ite .nil ?_⟩
    simp only [Unpadded.append_iff]
    exact ⟨⟨unpadded_offsetPieces _ _ _, strides _⟩, unpadded_typePieces _ _ _⟩
  · rw [Unpadded.append_iff, Unpadded.append_iff]
    refine ⟨⟨sign, unpadded_registerPieces _ _ _⟩, .ite .nil ?_⟩
    simp only [Unpadded.append_iff, Unpadded.cons_iff]
    exact ⟨⟨⟨⟨unpadded_offsetPieces _ _ _, rfl, .nil⟩, .entry _ _ _⟩, rfl, rfl, .nil⟩,
      unpadded_typePieces _ _ _⟩

theorem Instruction.unpadded_shownOperand (instr : Instruction) (slot : Slot) :
    Unpadded (instr.shownOperand (.plain slot)) := by
  cases slot with
  | dst => exact unpadded_destination _ _
  | source slot => exact unpadded_source _ _

end Operands

/-- The lines of a text, with an empty one behind the last line end. -/
def textLines (text : String) : List String :=
  (text.toList.splitOn '\n').map String.ofList

theorem secondLine_eq {head line : String} (inHead : '\n' ∉ head.toList)
    (inLine : '\n' ∉ line.toList) :
    (textLines (head ++ "\n" ++ line ++ "\n"))[1]? = some line := by
  have lineEnd : "\n".toList = ['\n'] := String.toList_ofList
  have chars : (head ++ "\n" ++ line ++ "\n").toList =
      head.toList ++ '\n' :: (line.toList ++ '\n' :: []) := by
    simp only [String.toList_append, lineEnd, List.append_assoc, List.cons_append,
      List.nil_append]
  rw [textLines, chars, List.splitOn_append_cons_self_of_not_mem inHead,
    List.splitOn_append_cons_self_of_not_mem inLine]
  exact congrArg some String.ofList_toList

theorem Inline.not_mem_text {pieces : List Piece} (inline : Inline pieces) :
    '\n' ∉ (Listing.ofPieces pieces).text.toList :=
  List.count_eq_zero.mp (Listing.stretch_ofPieces (.of_inline inline)).lines

namespace Instruction

variable (instr : Instruction)

/-- The second line of SEND, between its indentation and the settings. -/
def messageLine : List Piece :=
  entry "SFID" (.sfid instr.gen) instr.sfidNumber ++ instr.payloadPieces ++ instr.lengthPieces

theorem unpadded_messageLine : Unpadded instr.messageLine := by
  have payload : Unpadded instr.payloadPieces := by
    unfold payloadPieces
    split
    · exact .text _
    · simp only [urbPieces, flagPieces, Unpadded.append_iff]
      exact ⟨⟨⟨.spaced _ _ _, .ite (.text _) .nil⟩, .text _⟩, .ite (.text _) .nil⟩
    · exact .spaced _ _ _
    · exact .text _
    · exact .text _
  have lengths : Unpadded instr.lengthPieces := by
    simp [lengthPieces, Piece.isPad]
  simp only [messageLine, Unpadded.append_iff]
  exact ⟨⟨.entry _ _ _, payload⟩, lengths⟩

theorem unpadded_settingPieces : Unpadded instr.settingPieces := by
  have quarter : Unpadded instr.quarterPieces := by
    unfold quarterPieces
    refine .ite ?_ (.spaced _ _ _)
    split
    · exact .text _
    · exact .text _
    · exact .nil
  simp only [settingPieces, endOfThreadPieces, Unpadded.append_iff, Unpadded.cons_iff]
  exact ⟨⟨⟨⟨⟨⟨⟨⟨rfl, rfl, .nil⟩, .spaced _ _ _⟩, .spaced _ _ _⟩, quarter⟩, .spaced _ _ _⟩,
    .ite (.text _) .nil⟩, .ite (.text _) .nil⟩, rfl, .nil⟩

theorem unpadded_flagRegisterPieces : Unpadded instr.flagRegisterPieces := by
  simp only [flagRegisterPieces, subregPieces, Unpadded.cons_iff]
  exact ⟨rfl, .ite .nil (.text _)⟩

theorem unpadded_predicatePieces : Unpadded instr.predicatePieces := by
  have flag := instr.unpadded_flagRegisterPieces
  refine .ite .nil ?_
  simp only [Unpadded.append_iff, Unpadded.cons_iff]
  exact ⟨⟨⟨⟨rfl, rfl, .nil⟩, flag⟩, .entry _ _ _⟩, rfl, .nil⟩

theorem unpadded_mnemonicPieces : Unpadded instr.mnemonicPieces := by
  simp only [mnemonicPieces, Unpadded.cons_iff]
  refine ⟨?_, rfl, rfl, .nil⟩
  split <;> rfl

theorem unpadded_modifierPieces : Unpadded instr.modifierPieces := by
  unfold modifierPieces
  dsimp only
  split
  · exact (Unpadded.cons_iff _ _).mpr ⟨rfl, .entry _ _ _⟩
  · exact .ite .nil (.text _)
  · rw [conditionPieces, Unpadded.append_iff]
    exact ⟨.entry _ _ _, .ite .nil ((Unpadded.cons_iff _ _).mpr
      ⟨rfl, instr.unpadded_flagRegisterPieces⟩)⟩

theorem unpadded_execSizePieces : Unpadded instr.execSizePieces := by
  refine .ite .nil ?_
  simp only [Unpadded.append_iff]
  exact ⟨⟨.text _, .entry _ _ _⟩, .text _⟩

theorem inline_messageLine : Inline instr.messageLine := by
  obtain ⟨line, isLine, inline⟩ := instr.messagePieces_eq
  obtain rfl : .pad 16 :: instr.messageLine = line := (List.cons.inj isLine).2
  exact ((Inline.cons_iff _ _).mp inline).2

def secondPieces : List Piece :=
  .pad 16 :: instr.messageLine ++ .pad 64 :: (instr.settingPieces ++ [.text ";"])

theorem inline_secondPieces : Inline instr.secondPieces := by
  simp only [secondPieces, Inline.append_iff, Inline.cons_iff]
  exact ⟨⟨trivial, instr.inline_messageLine⟩, trivial, instr.inline_settingPieces,
    .literal rfl, .nil⟩

theorem pieces_of_send (sends : instr.isSend = true) :
    instr.pieces = instr.headPieces ++ .newline :: instr.secondPieces ++ [.newline] := by
  have other : instr.isNop = false := by
    cases known : instr.knownOpcode? with
    | none => simp [isNop, known]
    | some opcode => cases opcode <;> simp_all [isNop, isSend, Opcode.isSend, Opcode.opcodeClass]
  rw [pieces_eq, sends, tailPieces, other, secondPieces, messageLine, messagePieces]
  simp

-- The second line of SEND is indented, and its settings come after a gap.
theorem secondLine_listing (sends : instr.isSend = true) :
    ∃ gap, 0 < gap ∧ (textLines instr.listing.text)[1]? = some
      (Piece.spaces 16 ++ ink instr.messageLine ++ Piece.spaces gap ++ ink instr.settingPieces ++
        ";") := by
  have settings : Unpadded (instr.settingPieces ++ [.text ";"]) :=
    (Unpadded.append_iff _ _).mpr ⟨instr.unpadded_settingPieces, .text ";"⟩
  obtain ⟨gap, positive, line⟩ :=
    Listing.text_twoColumns 16 64 instr.unpadded_messageLine settings
  have whole := Listing.text_twoLines instr.headPieces instr.secondPieces
  rw [← pieces_of_send _ sends] at whole
  refine ⟨gap, positive, ?_⟩
  rw [listing, whole, secondLine_eq instr.inline_headPieces.not_mem_text
    instr.inline_secondPieces.not_mem_text, secondPieces, line, ink_append, ← String.append_assoc]
  rfl

end Instruction

end ExecUnit
