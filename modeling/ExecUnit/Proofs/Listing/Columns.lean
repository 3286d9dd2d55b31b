import ExecUnit.Proofs.Listing.Vocabulary
import ExecUnit.Proofs.Text.Cutting
import Mathlib.Data.List.DropRight

/-!
The column that printing keeps. Reports of fields do not move it, but everything else does, the
report of an opcode included. So the text alone tells the column at every point of printing: it
is the number of characters of the last line that belong to no report of a field
(`Instruction.column_of_point`).
-/

namespace ExecUnit

section Outside

/-- The fields whose reports do not count. -/
def fieldNames : List String :=
  vocabulary.filter (· ≠ "opcode")

/-- How long the report of a field is that the text begins with, up to the space behind its
value; 0 without such a report. -/
def reportLength (chars : List Char) : Nat :=
  match fieldNames.find? fun name => (reportOf name).toList.isPrefixOf chars with
  | none => 0
  | some name =>
      let opening := (reportOf name).length
      opening + ((chars.drop opening).takeWhile Char.isDigit).length + 1

/-- How many characters belong to no report of a field, without those that are skipped. -/
def outsideReports : Nat → List Char → Nat
  | _, [] => 0
  | skipped + 1, _ :: rest => outsideReports skipped rest
  | 0, first :: rest =>
      match reportLength (first :: rest) with
      | 0 => outsideReports 0 rest + 1
      | skipped + 1 => outsideReports skipped rest

def columnOf (text : String) : Nat :=
  outsideReports 0 (text.toList.rtakeWhile (· ≠ '\n'))

theorem mem_fieldNames {what : String} :
    what ∈ fieldNames ↔ what ∈ vocabulary ∧ what ≠ "opcode" := by
  rw [fieldNames, List.mem_filter, decide_eq_true_iff]

theorem opcode_mem_vocabulary : "opcode" ∈ vocabulary := by
  simp [vocabulary, headerNames]

-- Where no report begins, a character counts.
theorem outsideReports_cons {first : Char} {rest : List Char}
    (none : ∀ name ∈ fieldNames, ¬(reportOf name).toList <+: first :: rest) :
    outsideReports 0 (first :: rest) = outsideReports 0 rest + 1 := by
  have missing : fieldNames.find? (fun name => (reportOf name).toList.isPrefixOf (first :: rest)) =
      .none := by
    rw [List.find?_eq_none]
    exact fun name member begins => none name member (List.isPrefixOf_iff_prefix.mp begins)
  have nothing : reportLength (first :: rest) = 0 := by
    rw [reportLength, missing]
  rw [outsideReports, nothing]

theorem outsideReports_skipped (chars rest : List Char) :
    outsideReports chars.length (chars ++ rest) = outsideReports 0 rest := by
  induction chars with
  | nil => rfl
  | cons first more ih => exact ih

-- A report that begins the text does not count.
theorem outsideReports_of_report {first : Char} {more rest : List Char}
    (length : reportLength (first :: (more ++ rest)) = more.length + 1) :
    outsideReports 0 (first :: (more ++ rest)) = outsideReports 0 rest := by
  rw [outsideReports, length]
  exact outsideReports_skipped more rest

theorem outsideReports_of_starless {chars : List Char} (starless : ∀ char ∈ chars, char ≠ '*')
    (rest : List Char) :
    outsideReports 0 (chars ++ rest) = chars.length + outsideReports 0 rest := by
  -- Reports begin with a star.
  induction chars with
  | nil => exact (Nat.zero_add _).symm
  | cons first more ih =>
      rw [List.forall_mem_cons] at starless
      rw [List.cons_append, outsideReports_cons, ih starless.2, List.length_cons]
      · omega
      · intro name _ begins
        rw [toList_reportOf, List.cons_append, List.cons_prefix_cons] at begins
        exact starless.1 begins.1.symm

end Outside

/-- A part of a line that has a number of characters outside of reports, whatever follows it. -/
structure Measured (text : String) (count : Nat) : Prop where
  line : '\n' ∉ text.toList
  count : ∀ rest, outsideReports 0 (text.toList ++ rest) = count + outsideReports 0 rest

theorem length_spaces (count : Nat) : (Piece.spaces count).length = count := by
  simp [Piece.spaces]

namespace Measured

theorem append {first second : String} {count count' : Nat} (before : Measured first count)
    (after : Measured second count') : Measured (first ++ second) (count + count') where
  line := by
    rw [String.toList_append, List.mem_append]
    exact not_or.mpr ⟨before.line, after.line⟩
  count rest := by
    rw [String.toList_append, List.append_assoc, before.count, after.count, Nat.add_assoc]

theorem of_plain {text : String} (plain : Plain text) : Measured text text.length where
  line member := (plain _ member).2 rfl
  count := outsideReports_of_starless fun char member => (plain char member).1

theorem spaces (count : Nat) : Measured (Piece.spaces count) count := by
  have measured := of_plain (.spaces count)
  rwa [length_spaces] at measured

end Measured

section Notices

theorem not_mem_notice {what : String} (plain : Plain what) (value : Nat) :
    '\n' ∉ (Piece.notice what value).toList :=
  List.count_eq_zero.mp (Stretch.notice plain value).lines

-- The digits of a value end at the space behind it.
theorem takeWhile_isDigit (value : Nat) (rest : List Char) :
    ((toString value).toList ++ ' ' :: rest).takeWhile Char.isDigit = (toString value).toList := by
  have digits : Avoids (!Char.isDigit ·) (toString value) := Avoids.digits (by decide) value
  have halts : Halts (!Char.isDigit ·) (.ofList (' ' :: rest)) := .literal rfl
  have cut := takeWhile_cut digits halts
  simpa only [Bool.not_not, String.toList_append, String.toList_ofList] using cut

theorem reportLength_notice {what : String} (member : what ∈ fieldNames) (value : Nat)
    (rest : List Char) : reportLength ((Piece.notice what value).toList ++ rest) =
      (Piece.notice what value).toList.length := by
  have begins : ∀ name ∈ fieldNames, (reportOf name).toList.isPrefixOf
      ((Piece.notice what value).toList ++ rest) = true ↔ name = what := by
    intro name inNames
    rw [List.isPrefixOf_iff_prefix]
    exact (toldApart_of_mem (mem_fieldNames.mp inNames).1
      (mem_fieldNames.mp member).1).prefix_notice_iff value rest
  obtain ⟨name, found⟩ : ∃ name, fieldNames.find? (fun name =>
      (reportOf name).toList.isPrefixOf ((Piece.notice what value).toList ++ rest)) = some name :=
    Option.isSome_iff_exists.mp (List.find?_isSome.mpr ⟨what, member, (begins what member).mpr rfl⟩)
  -- Whatever name is found, its report begins the text, so it is the name of this one.
  have chosen := List.find?_some found
  obtain rfl := (begins name (List.mem_of_find?_eq_some found)).mp chosen
  have behind : ((Piece.notice name value).toList ++ rest).drop (reportOf name).length =
      (toString value).toList ++ ' ' :: rest := by
    rw [toList_notice, List.append_assoc, ← String.length_toList, List.drop_left,
      List.append_assoc]
    rfl
  rw [reportLength, found]
  simp only [behind, takeWhile_isDigit]
  simp only [toList_notice, List.length_append, List.length_singleton, String.length_toList]
  omega

namespace Measured

theorem field {what : String} (member : what ∈ fieldNames) (plain : Plain what) (value : Nat) :
    Measured (Piece.notice what value) 0 where
  line := not_mem_notice plain value
  count rest := by
    have length := reportLength_notice member value rest
    obtain ⟨first, more, chars⟩ : ∃ first more, (Piece.notice what value).toList = first :: more :=
      List.exists_cons_of_ne_nil (by simp [toList_notice])
    rw [chars] at length ⊢
    exact (outsideReports_of_report length).trans (Nat.zero_add _).symm

theorem opcode (value : Nat) :
    Measured (Piece.notice "opcode" value) (Piece.notice "opcode" value).length where
  line := not_mem_notice (.literal rfl) value
  count rest := by
    obtain ⟨body, chars, starless⟩ := notice_starred "opcode" (.literal rfl) value
    -- None of the three stars begins the report of a field.
    have first : ∀ name ∈ fieldNames, ¬(reportOf name).toList <+:
        (Piece.notice "opcode" value).toList ++ rest := by
      intro name member begins
      obtain ⟨inNames, other⟩ := mem_fieldNames.mp member
      have apart := toldApart_of_mem inNames opcode_mem_vocabulary
      exact other ((apart.prefix_notice_iff value rest).mp begins)
    have second : ∀ name ∈ fieldNames, ¬(reportOf name).toList <+:
        '*' :: '*' :: ' ' :: (body ++ rest) :=
      fun name _ => (not_prefix_stars name _).1
    have third : ∀ name ∈ fieldNames, ¬(reportOf name).toList <+: '*' :: ' ' :: (body ++ rest) :=
      fun name _ => (not_prefix_stars name _).2
    have others := outsideReports_of_starless starless rest
    rw [← String.length_toList]
    rw [chars] at first ⊢
    simp only [List.cons_append, List.length_cons] at first others ⊢
    rw [outsideReports_cons first, outsideReports_cons second, outsideReports_cons third, others]
    omega

end Measured

end Notices

/-- A line begins behind the text: it is empty, or a line end is its last character. -/
def LineStart (text : String) : Prop :=
  ∀ char ∈ text.toList.getLast?, char = '\n'

theorem columnOf_append {earlier line : String} {column : Nat} (starts : LineStart earlier)
    (measured : Measured line column) : columnOf (earlier ++ line) = column := by
  have earlierEnds : earlier.toList.reverse.takeWhile (· ≠ '\n') = [] := by
    rw [LineStart, ← List.head?_reverse] at starts
    cases reversed : earlier.toList.reverse with
    | nil => rfl
    | cons last more =>
        obtain rfl := starts last (by rw [reversed]; rfl)
        rfl
  have inLine : ∀ char ∈ line.toList.reverse, decide (char ≠ '\n') = true := by
    intro char member
    rw [decide_eq_true_iff]
    rintro rfl
    exact measured.line (List.mem_reverse.mp member)
  have isLine : (earlier ++ line).toList.rtakeWhile (· ≠ '\n') = line.toList := by
    rw [List.rtakeWhile, String.toList_append, List.reverse_append,
      List.takeWhile_append_of_pos inLine, earlierEnds, List.append_nil, List.reverse_reverse]
  have count := measured.count []
  rw [List.append_nil] at count
  rw [columnOf, isLine, count]
  rfl

namespace Printed

def AtColumn (printed : Printed) : Prop :=
  ∃ earlier line, printed.text = earlier ++ line ∧ LineStart earlier ∧
    Measured line printed.column

namespace AtColumn

theorem start : AtColumn .start :=
  ⟨"", "", rfl, by simp [LineStart], .of_plain (.literal rfl)⟩

variable {printed : Printed}

theorem columnOf_text (atColumn : printed.AtColumn) : printed.column = columnOf printed.text := by
  obtain ⟨earlier, line, text, starts, measured⟩ := atColumn
  rw [text, columnOf_append starts measured]

theorem append {added : String} {count : Nat} (atColumn : printed.AtColumn)
    (measured : Measured added count) (errors : Nat) :
    AtColumn ⟨printed.text ++ added, printed.column + count, errors⟩ := by
  obtain ⟨earlier, line, text, starts, before⟩ := atColumn
  exact ⟨earlier, line ++ added, by rw [text, String.append_assoc], starts,
    before.append measured⟩

theorem newline : (printed.add .newline).AtColumn := by
  refine ⟨printed.text ++ "\n", "", String.append_empty.symm, ?_, .of_plain (.literal rfl)⟩
  have lineEnd : "\n".toList = ['\n'] := String.toList_ofList
  simp [LineStart, lineEnd]

-- Every piece moves the column by what it adds outside of reports.
theorem add (atColumn : printed.AtColumn) {piece : Piece}
    (listed : piece.Inline ∨ piece = .newline)
    (field : ∀ what value, piece = .malformed what value → what ∈ fieldNames) :
    (printed.add piece).AtColumn := by
  cases piece with
  | text content => exact atColumn.append (.of_plain (listed.resolve_right (by simp))) _
  | pad target => exact atColumn.append (.spaces _) _
  | newline => exact newline
  | malformed what value =>
      exact atColumn.append (.field (field what value rfl) (listed.resolve_right (by simp)) value) _
  | unknownOpcode number => exact atColumn.append (.opcode number) _

theorem foldl {pieces : List Piece} (atColumn : printed.AtColumn)
    (listed : ∀ piece ∈ pieces, piece.Inline ∨ piece = .newline)
    (field : ∀ what value, .malformed what value ∈ pieces → what ∈ fieldNames) :
    (pieces.foldl Printed.add printed).AtColumn := by
  induction pieces generalizing printed with
  | nil => exact atColumn
  | cons piece rest ih =>
      rw [List.forall_mem_cons] at listed
      have step := atColumn.add listed.1 fun what value isPiece =>
        field what value (isPiece ▸ List.mem_cons_self)
      exact ih step listed.2 fun what value member => field what value (List.mem_cons_of_mem _ member)

end AtColumn

/-- The points of printing the pieces: behind some of them, and within the text or the padding
that comes next. -/
inductive Point (pieces : List Piece) : Printed → Prop where
  | between (before after : List Piece) (split : pieces = before ++ after) :
      Point pieces (ofPieces before)
  | inText (before after : List Piece) (part rest : String)
      (split : pieces = before ++ .text (part ++ rest) :: after) :
      Point pieces ((ofPieces before).add (.text part))
  | inPadding (before after : List Piece) (target count : Nat)
      (split : pieces = before ++ .pad target :: after)
      (within : count ≤ Piece.gap (ofPieces before).column target) :
      Point pieces ((ofPieces before).add (.text (Piece.spaces count)))

end Printed

namespace Instruction

variable (instr : Instruction)

theorem mem_fieldNames_of_malformed {what : String} {value : Nat}
    (member : .malformed what value ∈ instr.pieces) : what ∈ fieldNames := by
  have among {names : List String} {pieces : List Piece} (subset : names ⊆ fieldNames)
      (named : NamesAmong names pieces) (inPieces : .malformed what value ∈ pieces) :
      what ∈ fieldNames :=
    subset (named _ inPieces what rfl)
  have operands : operandNames ⊆ fieldNames := by
    simp [fieldNames, vocabulary, operandNames]
  have controls : controlNames ⊆ fieldNames := by
    simp [fieldNames, vocabulary, controlNames, headerNames]
  have conditions : conditionNames ⊆ fieldNames := by
    simp [fieldNames, vocabulary, conditionNames, headerNames]
  have payloads : "SFID" :: payloadNames ⊆ fieldNames := by
    simp [fieldNames, vocabulary, payloadNames, headerNames]
  have message : NamesAmong ("SFID" :: payloadNames)
      (if instr.isSend then instr.messagePieces else []) :=
    .ite instr.namesAmong_messagePieces .nil
  rcases (instr.mem_pieces_iff _).mp member with around | ⟨kind, -, shown⟩
  · simp only [aroundOperands, List.mem_append] at around
    rcases around with ((((((inPredicate | inMnemonic) | inModifier) | inSize) | inTargets) |
      inMessage) | inTail) | atEnd
    · exact among controls instr.namesAmong_predicatePieces inPredicate
    · unfold mnemonicPieces at inMnemonic
      dsimp only at inMnemonic
      split at inMnemonic <;> simp at inMnemonic
    · exact among conditions instr.namesAmong_modifierPieces inModifier
    · exact among controls instr.namesAmong_execSizePieces inSize
    · exact among operands (instr.namesAmong_targetPieces _) inTargets
    · exact among payloads message inMessage
    · exact among controls instr.namesAmong_tailPieces inTail
    · simp at atEnd
  · rcases List.mem_cons.mp shown with isPad | inOperand
    · cases isPad
    · exact among operands (instr.namesAmong_shownOperand kind) inOperand

/-- At every point of printing an instruction the column is the number of characters behind the
last line end that belong to no report of a field. -/
theorem column_of_point {printed : Printed} (point : Printed.Point instr.pieces printed) :
    printed.column = columnOf printed.text := by
  have listed := instr.lines_pieces.listed
  have field : ∀ what value, .malformed what value ∈ instr.pieces → what ∈ fieldNames :=
    fun _ _ => instr.mem_fieldNames_of_malformed
  have behind {before after : List Piece} (split : instr.pieces = before ++ after) :
      (Printed.ofPieces before).AtColumn :=
    .foldl .start (fun piece member => listed piece (split ▸ List.mem_append_left _ member))
      fun what value member => field what value (split ▸ List.mem_append_left _ member)
  cases point with
  | between before after split => exact (behind split).columnOf_text
  | inText before after part rest split =>
      have whole : Plain (part ++ rest) :=
        (listed (.text (part ++ rest)) (split ▸ by simp)).resolve_right (by simp)
      have plain : Plain part := ((Plain.append_iff _ _).mp whole).1
      exact ((behind split).append (.of_plain plain) _).columnOf_text
  | inPadding before after target count split within =>
      exact ((behind split).append (.of_plain (.spaces count)) _).columnOf_text

end Instruction

end ExecUnit
