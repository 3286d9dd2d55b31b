import ExecUnit.Proofs.Listing.Columns
import ExecUnit.Proofs.Listing.JumpTargets

/-!
The columns of a listing without reports. There the column is the length of the line, so each
operand, the message and the closing settings stand exactly at the column of their padding, or
one space behind what reaches that column (`columns_of_listing`).
-/

namespace ExecUnit

section Cells

/-- A text that padding brings to a column. -/
structure Cell where
  column : Nat
  text : String
  deriving DecidableEq, Repr

/-- Where a cell begins behind a line: at its column, but not without a space in between. -/
def Cell.start (line : String) (cell : Cell) : Nat :=
  max cell.column (line.length + 1)

/-- The line with the cell behind it, and nothing but spaces in between. -/
def withCell (line : String) (cell : Cell) : String :=
  line ++ Piece.spaces (cell.start line - line.length) ++ cell.text

def lineOf (opening : String) (cells : List Cell) : String :=
  cells.foldl withCell opening

end Cells

def Texts (pieces : List Piece) : Prop :=
  ∀ piece ∈ pieces, ∃ content, piece = .text content

theorem texts_of_clean {pieces : List Piece} (inline : Inline pieces) (unpadded : Unpadded pieces)
    (clean : Clean pieces) : Texts pieces := by
  intro piece member
  have isInline := inline piece member
  have noPad := unpadded piece member
  have noReport := clean piece member
  cases piece with
  | text content => exact ⟨content, rfl⟩
  | newline => exact isInline.elim
  | pad column => cases noPad
  | malformed what value => cases noReport
  | unknownOpcode number => cases noReport

namespace Printed

/-- A line has been printed behind earlier ones, and the column is its length. -/
structure OnLine (earlier line : String) (printed : Printed) : Prop where
  text : printed.text = earlier ++ line
  column : printed.column = line.length

namespace OnLine

variable {earlier line : String} {printed : Printed}

theorem start : OnLine "" "" .start :=
  ⟨rfl, rfl⟩

theorem texts {pieces : List Piece} (onLine : OnLine earlier line printed)
    (texts : Texts pieces) : OnLine earlier (line ++ ink pieces) (pieces.foldl add printed) := by
  induction pieces generalizing line printed with
  | nil => rwa [ink_nil, String.append_empty]
  | cons piece rest ih =>
      obtain ⟨content, rfl⟩ := texts piece List.mem_cons_self
      have step : OnLine earlier (line ++ content) (printed.add (.text content)) := by
        constructor
        · rw [add, onLine.text, String.append_assoc]
        · rw [add, onLine.column, String.length_append]
      rw [ink_cons, ← String.append_assoc]
      exact ih step fun piece member => texts piece (List.mem_cons_of_mem _ member)

theorem cell {pieces : List Piece} (onLine : OnLine earlier line printed) (column : Nat)
    (texts : Texts pieces) : OnLine earlier (withCell line ⟨column, ink pieces⟩)
      ((.pad column :: pieces).foldl add printed) := by
  have gap : Piece.gap printed.column column =
      Cell.start line ⟨column, ink pieces⟩ - line.length := by
    simp only [Piece.gap, Cell.start, onLine.column]
    omega
  have padded : OnLine earlier (line ++ Piece.spaces (Piece.gap printed.column column))
      (printed.add (.pad column)) := by
    constructor
    · rw [add, onLine.text, String.append_assoc]
    · rw [add, String.length_append, length_spaces, onLine.column]
  rw [withCell, ← gap]
  exact padded.texts texts

theorem cells {α : Type} {elements : List α} (onLine : OnLine earlier line printed)
    (column : α → Nat) (pieces : α → List Piece)
    (texts : ∀ element ∈ elements, Texts (pieces element)) :
    OnLine earlier (lineOf line (elements.map fun element => ⟨column element, ink (pieces element)⟩))
      ((elements.flatMap fun element => .pad (column element) :: pieces element).foldl add
        printed) := by
  induction elements generalizing line printed with
  | nil => exact onLine
  | cons element rest ih =>
      rw [List.flatMap_cons, List.foldl_append]
      exact ih (onLine.cell (column element) (texts element List.mem_cons_self))
        fun element member => texts element (List.mem_cons_of_mem _ member)

theorem newline (onLine : OnLine earlier line printed) :
    OnLine (earlier ++ line ++ "\n") "" (printed.add .newline) where
  text := by rw [add, onLine.text, String.append_empty]
  column := rfl

end OnLine

end Printed

theorem unpadded_tripleTypePieces (what : String) (type? : Option Nat) :
    Unpadded (tripleTypePieces what type?) := by
  unfold tripleTypePieces
  split
  · exact .text _
  · split <;> exact (Unpadded.cons_iff _ _).mpr ⟨rfl, .nil⟩

namespace Instruction

section Parts

variable (instr : Instruction)

theorem unpadded_targetPieces : Unpadded instr.targetPieces := by
  refine .ite .nil ?_
  unfold jumpPieces
  dsimp only
  split
  · exact .text _
  · exact .text _
  · exact .nil

theorem unpadded_operand (kind : OperandKind) : Unpadded (instr.shownOperand kind) := by
  have subreg (number : Nat) : Unpadded (subregPieces number) := .ite .nil (.text _)
  match kind with
  | .plain slot => exact instr.unpadded_shownOperand slot
  | .tripleDestination =>
      simp only [shownOperand, TripleFields.DestinationCodes.pieces, Unpadded.append_iff,
        Unpadded.cons_iff]
      exact ⟨⟨⟨unpadded_registerPieces _ _ _, subreg _⟩, rfl, rfl, .nil⟩,
        unpadded_tripleTypePieces _ _⟩
  | .tripleSource index =>
      simp only [shownOperand, TripleSourceCodes.pieces, signPieces, Unpadded.append_iff,
        Unpadded.cons_iff]
      exact ⟨⟨⟨⟨⟨⟨rfl, rfl, .nil⟩, unpadded_registerPieces _ _ _⟩, subreg _⟩, rfl, .nil⟩,
        unpadded_tripleTypePieces _ _⟩, rfl, .nil⟩

/-- The last pieces of the last line: the settings, of which NOP has none, and the end. -/
def closingPieces : List Piece :=
  (if instr.isNop then [] else instr.settingPieces) ++ [.text ";"]

theorem pieces_of_aligned : instr.pieces =
    (instr.openingPieces ++ instr.targetPieces) ++
      (instr.operandKinds.flatMap fun kind => .pad kind.column :: instr.shownOperand kind) ++
      (if instr.isSend then .newline :: .pad 16 :: instr.messageLine else []) ++
      (.pad 64 :: instr.closingPieces) ++ [.newline] := by
  simp [pieces, operandPieces_eq, openingPieces, messagePieces, messageLine, closingPieces]

section Texts

variable {instr : Instruction}

theorem texts_openingPieces (clean : Clean instr.openingPieces) : Texts instr.openingPieces := by
  refine texts_of_clean ?_ instr.unpadded_openingPieces clean
  simp only [openingPieces, Inline.append_iff]
  exact ⟨⟨⟨instr.inline_predicatePieces, instr.inline_mnemonicPieces⟩,
    instr.inline_modifierPieces⟩, instr.inline_execSizePieces⟩

theorem texts_targetPieces (clean : Clean instr.targetPieces) : Texts instr.targetPieces :=
  texts_of_clean (.ite .nil instr.inline_jumpPieces) instr.unpadded_targetPieces clean

theorem texts_operand {kind : OperandKind} (clean : Clean (instr.shownOperand kind)) :
    Texts (instr.shownOperand kind) :=
  texts_of_clean (instr.inline_shownOperand kind) (instr.unpadded_operand kind) clean

theorem texts_messageLine (clean : Clean instr.messageLine) : Texts instr.messageLine :=
  texts_of_clean instr.inline_messageLine instr.unpadded_messageLine clean

theorem texts_closingPieces (clean : Clean instr.closingPieces) : Texts instr.closingPieces := by
  have inline : Inline instr.closingPieces :=
    (Inline.append_iff _ _).mpr ⟨.ite .nil instr.inline_settingPieces, .text (.literal rfl)⟩
  have unpadded : Unpadded instr.closingPieces :=
    (Unpadded.append_iff _ _).mpr ⟨.ite .nil instr.unpadded_settingPieces, .text _⟩
  exact texts_of_clean inline unpadded clean

end Texts

def operandCells : List Cell :=
  instr.operandKinds.map fun kind => ⟨kind.column, ink (instr.shownOperand kind)⟩

def messageCell : Cell :=
  ⟨16, ink instr.messageLine⟩

def closingCell : Cell :=
  ⟨64, if instr.isNop then ";" else ink instr.settingPieces ++ ";"⟩

/-- The listing in columns. SEND has its message and what closes it on a line of their own. -/
def alignedText : String :=
  let opening := ink (instr.openingPieces ++ instr.targetPieces)
  if instr.isSend then
    lineOf opening instr.operandCells ++ "\n" ++
      lineOf "" [instr.messageCell, instr.closingCell] ++ "\n"
  else lineOf opening (instr.operandCells ++ [instr.closingCell]) ++ "\n"

theorem cell_closingPieces : ⟨64, ink instr.closingPieces⟩ = instr.closingCell := by
  unfold closingPieces closingCell
  split <;> simp [Piece.ink]

theorem text_aligned (clean : instr.listing.isClean = true) :
    instr.listing.text = instr.alignedText := by
  have cleanPieces : Clean instr.pieces :=
    (clean_iff_errors _).mpr (decide_eq_true_iff.mp clean)
  rw [pieces_of_aligned] at cleanPieces
  simp only [Clean.append_iff, Clean.cons_iff, Clean.flatMap_iff] at cleanPieces
  obtain ⟨⟨⟨⟨⟨cleanOpening, cleanTargets⟩, cleanOperands⟩, cleanMessage⟩, -, cleanClosing⟩, -⟩ :=
    cleanPieces
  have opening : Texts (instr.openingPieces ++ instr.targetPieces) :=
    List.forall_mem_append.mpr ⟨texts_openingPieces cleanOpening, texts_targetPieces cleanTargets⟩
  have operands : ∀ kind ∈ instr.operandKinds, Texts (instr.shownOperand kind) :=
    fun kind member => texts_operand (cleanOperands kind member).2
  have closing := texts_closingPieces cleanClosing
  -- Each part continues the line, and the column stays the length of what is there.
  have first := (Printed.OnLine.start.texts opening).cells OperandKind.column
    (fun kind => instr.shownOperand kind) operands
  rw [String.empty_append, ← operandCells] at first
  by_cases sends : instr.isSend = true
  · rw [if_pos sends, Clean.cons_iff, Clean.cons_iff] at cleanMessage
    have message := texts_messageLine cleanMessage.2.2
    have whole := ((first.newline.cell 16 message).cell 64 closing).newline.text
    simp only [cell_closingPieces, String.empty_append, String.append_empty] at whole
    rw [listing, pieces_of_aligned, alignedText, if_pos sends, if_pos sends]
    simp only [Listing.ofPieces, Printed.ofPieces, List.foldl_append, List.foldl_cons,
      List.foldl_nil] at whole ⊢
    exact whole
  · have whole := (first.cell 64 closing).newline.text
    simp only [cell_closingPieces, String.empty_append, String.append_empty] at whole
    rw [listing, pieces_of_aligned, alignedText, if_neg sends, if_neg sends]
    simp only [lineOf, Listing.ofPieces, Printed.ofPieces, List.foldl_append, List.foldl_cons,
      List.foldl_nil] at whole ⊢
    exact whole

end Parts

end Instruction

namespace Program

theorem errors_foldl_eq_zero_iff (gen : Generation) (instructions : List Encoding)
    (done : Listing) :
    (instructions.foldl
      (fun done bits => done.append (Instruction.listing ⟨gen, bits⟩)) done).errors = 0 ↔
      done.errors = 0 ∧ ∀ bits ∈ instructions, (Instruction.listing ⟨gen, bits⟩).errors = 0 := by
  induction instructions generalizing done with
  | nil => simp
  | cons bits rest ih =>
      rw [List.foldl_cons, ih, List.forall_mem_cons, Listing.append, Nat.add_eq_zero_iff, and_assoc]

theorem text_aligned (gen : Generation) (program : Program)
    (clean : (program.listing gen).isClean = true) :
    (program.listing gen).text = String.join
      (program.instructions.map fun bits => Instruction.alignedText ⟨gen, bits⟩) := by
  have errors : (program.listing gen).errors = 0 := decide_eq_true_iff.mp clean
  obtain ⟨-, cleanEach⟩ := (errors_foldl_eq_zero_iff gen program.instructions .empty).mp errors
  have aligned : program.instructions.map (fun bits => (Instruction.listing ⟨gen, bits⟩).text) =
      program.instructions.map fun bits => Instruction.alignedText ⟨gen, bits⟩ :=
    List.map_congr_left fun bits member =>
      Instruction.text_aligned _ (decide_eq_true (cleanEach bits member))
  rw [← aligned]
  exact (text_foldl gen program.instructions .empty).trans String.empty_append

end Program

/-- The column of printing is that of the text at every point, so what is listed without reports is
in columns: everything behind padding begins at its own column, or a space behind the line where
that reaches the column. -/
theorem columns_of_listing (gen : Generation) :
    (∀ bits printed, Printed.Point (Instruction.pieces ⟨gen, bits⟩) printed →
      printed.column = columnOf printed.text) ∧
    (∀ bits, (Instruction.listing ⟨gen, bits⟩).isClean = true →
      (Instruction.listing ⟨gen, bits⟩).text = Instruction.alignedText ⟨gen, bits⟩) ∧
    ∀ program : Program, (program.listing gen).isClean = true →
      (program.listing gen).text = String.join
        (program.instructions.map fun bits => Instruction.alignedText ⟨gen, bits⟩) :=
  ⟨fun _ _ => Instruction.column_of_point _, fun _ => Instruction.text_aligned _,
    fun program => program.text_aligned gen⟩

/-- A SEND whose predicate takes the mnemonic beyond the column of the destination. -/
def predicatedSend : Instruction :=
  (⟨.gen8, 0⟩ : Instruction)
    |> Instruction.set Layout.gen8.header.opcode (code Opcode.send)
    |> Instruction.set Layout.gen8.header.predicateControl (code PredicateControl.all16H)
    |> Instruction.set Layout.gen8.header.execSize (code ExecSize.e16)
    |> Instruction.set Layout.gen8.dst.file (code RegisterFile.general)
    |> Instruction.set Layout.gen8.src0.file (code RegisterFile.general)

theorem columns_of_listing_predicated :
    predicatedSend.listing.text =
      lineOf "(+f0.all16h) send(16)" [⟨16, "g0<0>UD"⟩, ⟨32, "g0<0,1,0>UD"⟩] ++ "\n" ++
        lineOf "" [⟨16, "null unsupported shared function ID (0) mlen 0 rlen 0"⟩,
          ⟨64, "\x7b align1 WE_normal 1H \x7d;"⟩] ++ "\n" ∧
      columnOf "(-f1.1*** invalid predicate control align16 value 15 ) *** invalid opcode value 127 "
        = 37 := by
  obtain ⟨columns, aligned, -⟩ := columns_of_listing .gen8
  have clean : predicatedSend.listing.isClean = true := by decide
  have whole : predicatedSend.listing.text = predicatedSend.alignedText :=
    aligned predicatedSend.bits clean
  have sends : predicatedSend.isSend = true := by decide
  have opening : ink (predicatedSend.openingPieces ++ predicatedSend.targetPieces) =
      "(+f0.all16h) send(16)" := by decide
  have operands : predicatedSend.operandCells = [⟨16, "g0<0>UD"⟩, ⟨32, "g0<0,1,0>UD"⟩] := by decide
  have message : predicatedSend.messageCell =
      ⟨16, "null unsupported shared function ID (0) mlen 0 rlen 0"⟩ := by decide
  have closing : predicatedSend.closingCell = ⟨64, "\x7b align1 WE_normal 1H \x7d;"⟩ := by decide
  rw [Instruction.alignedText, if_pos sends, opening, operands, message, closing] at whole
  refine ⟨whole, ?_⟩
  let reported : Instruction := ⟨.gen8, BitVec.allOnes 128⟩
  have point : Printed.Point reported.pieces (.ofPieces (reported.pieces.take 7)) :=
    .between _ (reported.pieces.drop 7) (List.take_append_drop 7 reported.pieces).symm
  have text : (Printed.ofPieces (reported.pieces.take 7)).text =
      "(-f1.1*** invalid predicate control align16 value 15 ) *** invalid opcode value 127 " := by
    decide
  have column : (Printed.ofPieces (reported.pieces.take 7)).column = 37 := by
    decide
  rw [← text, ← columns _ _ point, column]

end ExecUnit
