import ExecUnit.Program.Basic
import ExecUnit.Proofs.Listing.Inline
import ExecUnit.Proofs.Listing.Reports
import ExecUnit.Proofs.Operand.Acceptance

/-!
The errors of a listing are the reports in its text: `Program.listing_accounted`. A report
begins where its opening stands, and the pieces that are no report are too plain to hold
one, also across their ends. So the openings of a text are counted piece by piece, and its
lines with them.
-/

namespace ExecUnit

/-- At how many places of a text the pattern begins. -/
def occurrencesIn (pattern : List Char) : List Char → Nat
  | [] => 0
  | first :: rest =>
      (if pattern.isPrefixOf (first :: rest) then 1 else 0) + occurrencesIn pattern rest

def occurrences (pattern text : String) : Nat :=
  occurrencesIn pattern.toList text.toList

def reportOpening : String := "*** invalid "

def reportCount (text : String) : Nat :=
  occurrences reportOpening text

/-- The lines of a text that ends with its last line. -/
def lineCount (text : String) : Nat :=
  text.toList.count '\n'

theorem toList_reportOpening :
    reportOpening.toList = ['*', '*', '*', ' ', 'i', 'n', 'v', 'a', 'l', 'i', 'd', ' '] :=
  String.toList_ofList

-- Reports do not begin in plain text.
theorem occurrencesIn_plain_append {chars : List Char} (plain : ∀ char ∈ chars, PlainChar char)
    (rest : List Char) : occurrencesIn reportOpening.toList (chars ++ rest) =
      occurrencesIn reportOpening.toList rest := by
  induction chars with
  | nil => rfl
  | cons first more ih =>
      rw [List.forall_mem_cons] at plain
      -- The opening starts with a star, and this character is none.
      have other : reportOpening.toList.isPrefixOf (first :: (more ++ rest)) = false := by
        rw [toList_reportOpening, List.isPrefixOf_cons_cons, beq_eq_false_iff_ne.mpr plain.1.1.symm,
          Bool.false_and]
      rw [List.cons_append, occurrencesIn, other, ih plain.2]
      exact Nat.zero_add _

theorem occurrencesIn_opening_append (rest : List Char) :
    occurrencesIn reportOpening.toList (reportOpening.toList ++ rest) =
      1 + occurrencesIn reportOpening.toList rest := by
  -- An opening is not the beginning of a second report within itself.
  simp [toList_reportOpening, occurrencesIn]

/-- A stretch of text with a number of reports and line ends. What follows it does not
matter, so no report begins in the stretch and ends behind it. -/
structure Stretch (text : String) (reports lines : Nat) : Prop where
  reports : ∀ rest, occurrencesIn reportOpening.toList (text.toList ++ rest) =
    reports + occurrencesIn reportOpening.toList rest
  lines : lineCount text = lines

namespace Stretch

theorem append {first second : String} {reports reports' lines lines' : Nat}
    (before : Stretch first reports lines) (after : Stretch second reports' lines') :
    Stretch (first ++ second) (reports + reports') (lines + lines') where
  reports rest := by
    rw [String.toList_append, List.append_assoc, before.reports, after.reports, Nat.add_assoc]
  lines := by
    rw [lineCount, String.toList_append, List.count_append]
    exact congr (congrArg _ before.lines) after.lines

theorem reportCount_eq {text : String} {reports lines : Nat}
    (stretch : Stretch text reports lines) : reportCount text = reports := by
  have whole := stretch.reports []
  rwa [List.append_nil] at whole

theorem of_plain {text : String} (plain : Plain text) : Stretch text 0 0 where
  reports rest := (occurrencesIn_plain_append plain rest).trans (Nat.zero_add _).symm
  lines := List.count_eq_zero.mpr fun member => (plain _ member).2 rfl

theorem lineEnd : Stretch "\n" 0 1 where
  reports rest := by simp [toList_reportOpening, occurrencesIn]
  lines := rfl

theorem opening : Stretch reportOpening 1 0 where
  reports := occurrencesIn_opening_append
  lines := by
    rw [lineCount, toList_reportOpening]
    decide

theorem notice {what : String} (plain : Plain what) (value : Nat) :
    Stretch (Piece.notice what value) 1 0 := by
  have between : Plain " value " := .literal rfl
  have space : Plain " " := .literal rfl
  exact (((opening.append (of_plain plain)).append (of_plain between)).append
    (of_plain (plain_nat value))).append (of_plain space)

theorem spaces (count : Nat) : Stretch (Piece.spaces count) 0 0 :=
  of_plain (.spaces count)

end Stretch

structure Lines (pieces : List Piece) (lines : Nat) : Prop where
  listed : ∀ piece ∈ pieces, piece.Inline ∨ piece = .newline
  lines : pieces.count .newline = lines

namespace Lines

theorem of_inline {pieces : List Piece} (inline : Inline pieces) : Lines pieces 0 where
  listed piece member := Or.inl (inline piece member)
  lines := List.count_eq_zero.mpr fun member => inline .newline member

theorem newline {rest : List Piece} {lines : Nat} (after : Lines rest lines) :
    Lines (.newline :: rest) (lines + 1) where
  listed := List.forall_mem_cons.mpr ⟨Or.inr rfl, after.listed⟩
  lines := by rw [List.count_cons_self, after.lines]

theorem append {first second : List Piece} {lines lines' : Nat} (before : Lines first lines)
    (after : Lines second lines') : Lines (first ++ second) (lines + lines') where
  listed := List.forall_mem_append.mpr ⟨before.listed, after.listed⟩
  lines := by rw [List.count_append, before.lines, after.lines]

end Lines

namespace Printed

theorem stretch_add (printed : Printed) {piece : Piece}
    (listed : piece.Inline ∨ piece = .newline) :
    ∃ added, (printed.add piece).text = printed.text ++ added ∧
      Stretch added (if piece.isReport then 1 else 0) (if piece == .newline then 1 else 0) := by
  cases piece with
  | text content => exact ⟨_, rfl, .of_plain (listed.resolve_right (by simp))⟩
  | pad column => exact ⟨_, rfl, .spaces _⟩
  | newline => exact ⟨_, rfl, .lineEnd⟩
  | malformed what value => exact ⟨_, rfl, .notice (listed.resolve_right (by simp)) value⟩
  | unknownOpcode number => exact ⟨_, rfl, .notice (.literal rfl) number⟩

theorem stretch_foldl {pieces : List Piece}
    (listed : ∀ piece ∈ pieces, piece.Inline ∨ piece = .newline) (printed : Printed) :
    ∃ added, (pieces.foldl add printed).text = printed.text ++ added ∧
      Stretch added (pieces.countP Piece.isReport) (pieces.count .newline) := by
  induction pieces generalizing printed with
  | nil => exact ⟨"", String.append_empty.symm, .of_plain (.literal rfl)⟩
  | cons piece rest ih =>
      rw [List.forall_mem_cons] at listed
      obtain ⟨first, isFirst, firstStretch⟩ := printed.stretch_add listed.1
      obtain ⟨more, isMore, moreStretch⟩ := ih listed.2 (printed.add piece)
      -- No report reaches from one stretch into the next, so the counts add up.
      refine ⟨first ++ more, ?_, ?_⟩
      · rw [List.foldl_cons, isMore, isFirst, String.append_assoc]
      · rw [List.countP_cons, List.count_cons, Nat.add_comm, Nat.add_comm (rest.count _)]
        exact firstStretch.append moreStretch

end Printed

theorem Listing.stretch_ofPieces {pieces : List Piece} {lines : Nat} (shape : Lines pieces lines) :
    Stretch (ofPieces pieces).text (ofPieces pieces).errors lines := by
  obtain ⟨added, isText, stretch⟩ := Printed.stretch_foldl shape.listed .start
  have text : (ofPieces pieces).text = added := isText.trans String.empty_append
  rwa [text, Listing.errors_ofPieces, ← shape.lines]

theorem LayoutKind.offset_width (kind : LayoutKind) (slot : Slot) :
    (kind.layout.address slot).offset.width = 10 := by
  cases kind <;> rcases slot with _ | _ | _ <;> rfl

namespace Instruction

variable (instr : Instruction)

/-- What a listing begins with: everything before the message. -/
def headPieces : List Piece :=
  instr.predicatePieces ++ instr.mnemonicPieces ++ instr.modifierPieces ++
    instr.execSizePieces ++ instr.operandPieces

def tailPieces : List Piece :=
  .pad 64 :: if instr.isNop then [] else instr.settingPieces

theorem pieces_eq : instr.pieces = instr.headPieces ++
    (if instr.isSend then instr.messagePieces else []) ++ instr.tailPieces ++
      [.text ";", .newline] := by
  simp [pieces, headPieces, tailPieces]

theorem inline_headPieces : Inline instr.headPieces := by
  simp only [headPieces, Inline.append_iff]
  exact ⟨⟨⟨⟨instr.inline_predicatePieces, instr.inline_mnemonicPieces⟩,
    instr.inline_modifierPieces⟩, instr.inline_execSizePieces⟩, instr.inline_operandPieces⟩

theorem inline_tailPieces : Inline instr.tailPieces :=
  (Inline.cons_iff _ _).mpr ⟨trivial, .ite .nil instr.inline_settingPieces⟩

theorem lines_pieces : Lines instr.pieces (if instr.isSend then 2 else 1) := by
  have message : Lines (if instr.isSend then instr.messagePieces else [])
      (if instr.isSend then 1 else 0) := by
    split
    · obtain ⟨line, isLine, inline⟩ := instr.messagePieces_eq
      exact isLine ▸ (Lines.of_inline inline).newline
    · exact .of_inline .nil
  have last : Lines [.text ";", .newline] 1 :=
    (Lines.of_inline (.text (.literal rfl))).append (Lines.of_inline .nil).newline
  have whole := (((Lines.of_inline instr.inline_headPieces).append message).append
    (.of_inline instr.inline_tailPieces)).append last
  have total : 0 + (if instr.isSend then 1 else 0) + 0 + 1 = if instr.isSend then 2 else 1 := by
    split <;> rfl
  rw [pieces_eq, ← total]
  exact whole

theorem isSend_iff : instr.isSend = true ↔
    instr.get instr.layout.header.opcode = code Opcode.send ∨
      instr.get instr.layout.header.opcode = code Opcode.sendc := by
  constructor
  · intro sends
    cases known : instr.knownOpcode? with
    | none => simp [isSend, known] at sends
    | some opcode =>
        have number := Coded.code_of_ofCode? (Option.filter_eq_some_iff.mp known).1
        have isSend : opcode.isSend = true := by simpa [isSend, known] using sends
        -- Only two opcodes send, and all generations have both.
        cases opcode <;> first
          | exact Or.inl number.symm
          | exact Or.inr number.symm
          | cases isSend
  · rintro (number | number) <;> rw [isSend, knownOpcode?, opcode?, number, Coded.ofCode?_code] <;>
      rfl

-- A listing ends its last line, of which SEND has two and all others one.
theorem lineCount_listing : lineCount instr.listing.text =
    if instr.get instr.layout.header.opcode = code Opcode.send ∨
      instr.get instr.layout.header.opcode = code Opcode.sendc then 2 else 1 := by
  have lines := (Listing.stretch_ofPieces instr.lines_pieces).lines
  simp only [isSend_iff] at lines
  exact lines

theorem listing_ends : ∃ body, instr.listing.text = body ++ ";\n" := by
  refine ⟨(Printed.ofPieces (instr.headPieces ++
    (if instr.isSend then instr.messagePieces else []) ++ instr.tailPieces)).text, ?_⟩
  have ending : ";\n" = ";" ++ "\n" := by decide
  rw [ending, ← String.append_assoc, listing, pieces_eq]
  simp only [Listing.ofPieces, Printed.ofPieces, List.foldl_append]
  rfl

/-- What printing takes for granted wherever an operation has an argument that it could
not take: the layout of the generation, the words and shifts of bit ranges, the sign bits of
offsets, the range of an immediate, the index of a source, and the divisor of byte offsets. -/
structure Printable : Prop where
  layout : ofLayout instr.gen.layoutKind instr.gen instr.bits = .ok instr
  ranges : ∀ range : BitRange, range.low / 32 < 4 ∧ 0 < range.width ∧
    range.low % 32 + range.width ≤ 32
  offsets : ∀ slot, 0 < (instr.layout.address slot).offset.width ∧
    (instr.layout.address slot).offset.width ≤ 32
  immediate : instr.getBits 127 96 = .ok (immediateRange.get instr.bits)
  sources : ∀ index : Fin 3, sourceIndex index.val = .ok index
  elements : ∀ file type, 0 < elementSize file type

theorem printable : instr.Printable where
  layout := by
    have covered : instr.gen.layoutKind.covers instr.gen = true :=
      (Generation.covers_iff _ _).mpr rfl
    exact (bind_eq_ok_iff _ _ _).mpr ⟨(), (demand_eq_ok_iff _ _ _).mpr covered, rfl⟩
  ranges range := by
    obtain ⟨high, low, ordered, inside, one_word⟩ := range
    simp only [BitRange.width]
    omega
  offsets slot := by
    have width := instr.gen.layoutKind.offset_width slot
    constructor
    · exact Nat.lt_of_lt_of_eq (by decide) width.symm
    · exact Nat.le_trans (Nat.le_of_eq width) (by decide)
  immediate := rfl
  sources index := dif_pos index.isLt
  elements file type := by
    unfold elementSize
    split
    · next found _ => cases found <;> decide
    · exact Nat.one_pos

end Instruction

namespace Program

theorem text_foldl (gen : Generation) (instructions : List Encoding) (done : Listing) :
    (instructions.foldl
      (fun done bits => done.append (Instruction.listing ⟨gen, bits⟩)) done).text =
      done.text ++
        String.join (instructions.map fun bits => (Instruction.listing ⟨gen, bits⟩).text) := by
  induction instructions generalizing done with
  | nil => simp
  | cons bits rest ih =>
      rw [List.foldl_cons, ih, List.map_cons, String.join_cons, ← String.append_assoc]
      rfl

-- Some line is listed as soon as there is an instruction.
theorem text_listing_ne_empty (gen : Generation) {program : Program} (some_line : 0 < program.size) :
    (program.listing gen).text ≠ "" := by
  obtain ⟨instructions⟩ := program
  obtain ⟨bits, rest, rfl⟩ := List.exists_cons_of_length_pos some_line
  obtain ⟨body, line⟩ := Instruction.listing_ends ⟨gen, bits⟩
  rw [listing, text_foldl, List.map_cons, String.join_cons, line]
  simp [Listing.empty]

-- Every instruction adds its reports to the text and to the errors alike.
theorem stretch_foldl (gen : Generation) (instructions : List Encoding) (done : Listing)
    {lines : Nat} (stretch : Stretch done.text done.errors lines) :
    let listed := instructions.foldl
      (fun done bits => done.append (Instruction.listing ⟨gen, bits⟩)) done
    ∃ lines', Stretch listed.text listed.errors lines' := by
  induction instructions generalizing done lines with
  | nil => exact ⟨lines, stretch⟩
  | cons bits rest ih =>
      have added := Listing.stretch_ofPieces (Instruction.lines_pieces ⟨gen, bits⟩)
      exact ih _ (stretch.append added)

/-- A program is listed instruction by instruction, and its errors are the reports that its
text holds. -/
theorem listing_accounted (gen : Generation) (program : Program) :
    (program.listing gen).text =
        String.join (program.instructions.map fun bits =>
          (Instruction.listing ⟨gen, bits⟩).text) ∧
      (∀ bits ∈ program.instructions, Instruction.Printable ⟨gen, bits⟩ ∧
        (∃ body, (Instruction.listing ⟨gen, bits⟩).text = body ++ ";\n") ∧
        lineCount (Instruction.listing ⟨gen, bits⟩).text =
          if gen.layout.header.opcode.get bits = code Opcode.send ∨
            gen.layout.header.opcode.get bits = code Opcode.sendc then 2 else 1) ∧
      (program.listing gen).errors = reportCount (program.listing gen).text ∧
      ((program.listing gen).isClean = true ↔ reportCount (program.listing gen).text = 0) := by
  have text := text_foldl gen program.instructions .empty
  obtain ⟨lines, stretch⟩ := stretch_foldl gen program.instructions .empty
    (.of_plain (.literal rfl))
  have errors : (program.listing gen).errors = reportCount (program.listing gen).text :=
    stretch.reportCount_eq.symm
  refine ⟨text.trans String.empty_append, fun bits _ => ⟨Instruction.printable _,
    Instruction.listing_ends _, Instruction.lineCount_listing _⟩, errors, ?_⟩
  rw [← errors, Listing.isClean]
  exact decide_eq_true_iff

end Program

end ExecUnit
