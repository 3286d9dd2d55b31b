import ExecUnit.Proofs.Listing.Accounting

/-!
What the reports of a listing are about. Every piece that reports a field gives it a name of
a fixed vocabulary, those of operands apart from the others (`namesAmong_shownOperand`,
`namesAmong_aroundOperands`). No name is the beginning of another, so a text has a report
of a field exactly if there is a piece for it (`reported_iff`).
-/

namespace ExecUnit

section Names

def Piece.name? : Piece → Option String
  | .malformed what _ => some what
  | .unknownOpcode _ => some "opcode"
  | .text _ | .pad _ | .newline => none

def reportedNames (pieces : List Piece) : List String :=
  pieces.filterMap Piece.name?

theorem mem_reportedNames {what : String} {pieces : List Piece} :
    what ∈ reportedNames pieces ↔ ∃ piece ∈ pieces, piece.name? = some what :=
  List.mem_filterMap

theorem reportedNames_append (first second : List Piece) :
    reportedNames (first ++ second) = reportedNames first ++ reportedNames second :=
  List.filterMap_append

theorem reportedNames_text (content : String) (rest : List Piece) :
    reportedNames (.text content :: rest) = reportedNames rest :=
  rfl

theorem reportedNames_nil : reportedNames [] = [] :=
  rfl

theorem reportedNames_entry (what : String) (words : Mnemonics) (value : Nat) :
    reportedNames (entry what words value) = if (words value).isSome then [] else [what] := by
  unfold entry
  cases words value <;> rfl

def operandNames : List String :=
  ["src reg file", "src reg encoding", "src da16 reg type", "dest reg encoding", "immediate type",
    "vert stride", "width", "horiz stride", "horiz_stride"]

/-- The names under which all other fields are reported. -/
def headerNames : List String :=
  ["opcode", "predicate control align1", "predicate control align16", "conditional modifier",
    "function", "execution size", "SFID", "urb opcode", "mask control", "dependency control",
    "compression control", "thread control"]

/-- The names of header fields whose reports do not depend on the kind of opcode. -/
def settingNames : List String :=
  ["opcode", "predicate control align1", "predicate control align16", "execution size",
    "mask control", "dependency control", "compression control", "thread control"]

def controlNames : List String :=
  ["predicate control align1", "predicate control align16", "execution size", "mask control",
    "dependency control", "compression control", "thread control"]

def conditionNames : List String :=
  ["conditional modifier", "function"]

def payloadNames : List String :=
  ["urb opcode", "function"]

theorem settingNames_subset : settingNames ⊆ headerNames := by
  simp [settingNames, headerNames]

theorem controlNames_subset : controlNames ⊆ settingNames := by
  simp [controlNames, settingNames]

theorem conditionNames_subset : conditionNames ⊆ headerNames := by
  simp [conditionNames, headerNames]

theorem payloadNames_subset : "SFID" :: payloadNames ⊆ headerNames := by
  simp [payloadNames, headerNames]

def NamesAmong (names : List String) (pieces : List Piece) : Prop :=
  ∀ piece ∈ pieces, ∀ what ∈ piece.name?, what ∈ names

namespace NamesAmong

variable {names : List String}

@[simp]
theorem nil : NamesAmong names [] :=
  List.forall_mem_nil _

@[simp]
theorem cons_iff (piece : Piece) (rest : List Piece) :
    NamesAmong names (piece :: rest) ↔
      (∀ what ∈ piece.name?, what ∈ names) ∧ NamesAmong names rest :=
  List.forall_mem_cons

@[simp]
theorem append_iff (first second : List Piece) :
    NamesAmong names (first ++ second) ↔ NamesAmong names first ∧ NamesAmong names second :=
  List.forall_mem_append

theorem ite {condition : Prop} [Decidable condition] {first second : List Piece}
    (inFirst : NamesAmong names first) (inSecond : NamesAmong names second) :
    NamesAmong names (if condition then first else second) := by
  split <;> assumption

theorem entry {what : String} (words : Mnemonics) (value : Nat) (member : what ∈ names) :
    NamesAmong names (entry what words value) := by
  unfold ExecUnit.entry
  split <;> simp [Piece.name?, member]

theorem spaced {what : String} (words : Mnemonics) (value : Nat) (member : what ∈ names) :
    NamesAmong names (spaced what words value) := by
  unfold ExecUnit.spaced
  split
  · exact ite nil (by simp [Piece.name?])
  · simp [Piece.name?, member]

theorem flatMap {α : Type} {elements : List α} {pieces : α → List Piece}
    (among : ∀ element ∈ elements, NamesAmong names (pieces element)) :
    NamesAmong names (elements.flatMap pieces) := by
  intro piece member
  obtain ⟨element, inElements, inPieces⟩ := List.mem_flatMap.mp member
  exact among element inElements piece inPieces

theorem mono {names' : List String} {pieces : List Piece} (among : NamesAmong names pieces)
    (more : names ⊆ names') : NamesAmong names' pieces :=
  fun piece member what named => more (among piece member what named)

theorem not_mem {what : String} {pieces : List Piece} (among : NamesAmong names pieces)
    (other : what ∉ names) : what ∉ reportedNames pieces := by
  intro reported
  obtain ⟨piece, member, named⟩ := mem_reportedNames.mp reported
  exact other (among piece member what named)

end NamesAmong

end Names

section Operands

theorem namesAmong_typePieces {what : String} (file type : Nat) (member : what ∈ operandNames) :
    NamesAmong operandNames (typePieces what file type) := by
  unfold typePieces
  split <;> simp [Piece.name?, member]

theorem namesAmong_subregPieces (names : List String) (subreg : Nat) :
    NamesAmong names (subregPieces subreg) :=
  .ite .nil (by simp [Piece.name?])

theorem namesAmong_offsetPieces (file type offset : Nat) :
    NamesAmong operandNames (offsetPieces file type offset) :=
  .ite .nil (by simp [Piece.name?])

theorem namesAmong_filePieces (gen : Generation) (file : Nat) :
    NamesAmong operandNames (filePieces gen file) :=
  .entry _ _ (by simp [operandNames])

theorem namesAmong_registerPieces (gen : Generation) (file number : Nat) :
    NamesAmong operandNames (registerPieces gen file number) :=
  .ite (by simp [Piece.name?])
    ((NamesAmong.append_iff _ _).mpr ⟨namesAmong_filePieces gen file, by simp [Piece.name?]⟩)

theorem namesAmong_addressPieces (gen : Generation) (file : Nat) (address : Address) :
    NamesAmong operandNames (addressPieces gen file address) := by
  simp only [addressPieces, NamesAmong.append_iff]
  exact ⟨⟨⟨⟨namesAmong_filePieces _ _, by simp [Piece.name?]⟩, namesAmong_subregPieces _ _⟩,
    .ite .nil (by simp [Piece.name?])⟩, by simp [Piece.name?]⟩

theorem namesAmong_destination (gen : Generation) (codes : DestinationCodes) :
    NamesAmong operandNames (codes.pieces gen) := by
  have type := namesAmong_typePieces codes.file codes.type
    (show "dest reg encoding" ∈ operandNames by simp [operandNames])
  have stride : ∀ hstride, NamesAmong operandNames (DestinationCodes.stridePieces hstride) := by
    intro hstride
    simp [DestinationCodes.stridePieces, NamesAmong.entry, operandNames, Piece.name?]
  unfold DestinationCodes.pieces
  dsimp only
  split
  · simp [namesAmong_addressPieces, stride, type]
  · exact (NamesAmong.append_iff _ _).mpr ⟨namesAmong_registerPieces _ _ _,
      .ite .nil (by simp [namesAmong_offsetPieces, stride, type])⟩
  · exact (NamesAmong.append_iff _ _).mpr ⟨namesAmong_registerPieces _ _ _,
      .ite .nil (by simp [namesAmong_offsetPieces, type, Piece.name?])⟩

theorem namesAmong_region (region : RegionCodes) : NamesAmong operandNames region.pieces := by
  simp [RegionCodes.pieces, NamesAmong.entry, operandNames, Piece.name?]

theorem namesAmong_immediate (type : Nat) (value : Word) :
    NamesAmong operandNames (immediatePieces type value) := by
  unfold immediatePieces
  split <;> simp [Piece.name?, operandNames]

theorem namesAmong_source (gen : Generation) (codes : SourceCodes) :
    NamesAmong operandNames (codes.pieces gen) := by
  have type := namesAmong_typePieces codes.file codes.type
    (show "src reg encoding" ∈ operandNames by simp [operandNames])
  have align16Type := namesAmong_typePieces codes.file codes.type
    (show "src da16 reg type" ∈ operandNames by simp [operandNames])
  have sign : NamesAmong operandNames (signPieces codes.negate codes.abs) := by
    simp [signPieces, Piece.name?]
  have vstride : ∀ number, NamesAmong operandNames (entry "vert stride" .verticalStride number) :=
    fun number => .entry _ _ (by simp [operandNames])
  unfold SourceCodes.pieces
  split
  · exact namesAmong_immediate _ _
  · simp [sign, namesAmong_addressPieces, namesAmong_region, type]
  · refine (NamesAmong.append_iff _ _).mpr ⟨?_, .ite .nil ?_⟩
    · simp [sign, namesAmong_registerPieces]
    · simp [namesAmong_offsetPieces, namesAmong_region, type]
  · refine (NamesAmong.append_iff _ _).mpr ⟨?_, .ite .nil ?_⟩
    · simp [sign, namesAmong_registerPieces]
    · simp [namesAmong_offsetPieces, vstride, align16Type, Piece.name?]

theorem namesAmong_tripleTypePieces {what : String} (type? : Option Nat)
    (member : what ∈ operandNames) : NamesAmong operandNames (tripleTypePieces what type?) := by
  unfold tripleTypePieces
  split
  · simp [Piece.name?]
  · split <;> simp [Piece.name?, member]

theorem Instruction.namesAmong_shownOperand (kind : OperandKind) (instr : Instruction) :
    NamesAmong operandNames (instr.shownOperand kind) := by
  match kind with
  | .plain .dst => exact namesAmong_destination _ _
  | .plain (.source _) => exact namesAmong_source _ _
  | .tripleDestination =>
      have type := namesAmong_tripleTypePieces (instr.tripleTypeNumber? instr.layout.triple.type)
        (show "dest reg encoding" ∈ operandNames by simp [operandNames])
      simp [shownOperand, TripleFields.DestinationCodes.pieces, namesAmong_registerPieces,
        namesAmong_subregPieces, type, Piece.name?]
  | .tripleSource index =>
      have type := namesAmong_tripleTypePieces
        (instr.tripleTypeNumber? instr.layout.triple.sourceType)
        (show "src da16 reg type" ∈ operandNames by simp [operandNames])
      simp [shownOperand, TripleSourceCodes.pieces, namesAmong_registerPieces, signPieces,
        namesAmong_subregPieces, type, Piece.name?]

end Operands

namespace Instruction

variable (instr : Instruction)

theorem namesAmong_operands : NamesAmong operandNames
    (instr.operandKinds.flatMap fun kind => .pad kind.column :: instr.shownOperand kind) :=
  .flatMap fun kind _ => (NamesAmong.cons_iff _ _).mpr
    ⟨by simp [Piece.name?], instr.namesAmong_shownOperand kind⟩

theorem namesAmong_flagRegisterPieces (names : List String) :
    NamesAmong names instr.flagRegisterPieces := by
  simp [flagRegisterPieces, namesAmong_subregPieces, Piece.name?]

theorem namesAmong_predicatePieces : NamesAmong controlNames instr.predicatePieces := by
  refine .ite .nil ?_
  simp only [NamesAmong.append_iff]
  refine ⟨⟨⟨by simp [Piece.name?], instr.namesAmong_flagRegisterPieces _⟩, .entry _ _ ?_⟩,
    by simp [Piece.name?]⟩
  split <;> simp [controlNames]

theorem namesAmong_mnemonicPieces : NamesAmong settingNames instr.mnemonicPieces := by
  unfold mnemonicPieces
  dsimp only
  split <;> simp [Piece.name?, settingNames]

theorem namesAmong_modifierPieces : NamesAmong conditionNames instr.modifierPieces := by
  unfold modifierPieces
  dsimp only
  split
  · simp [NamesAmong.entry, Piece.name?, conditionNames]
  · exact .ite .nil (by simp [Piece.name?])
  · refine (NamesAmong.append_iff _ _).mpr ⟨.entry _ _ (by simp [conditionNames]), .ite .nil ?_⟩
    simp [namesAmong_flagRegisterPieces, Piece.name?]

theorem namesAmong_execSizePieces : NamesAmong controlNames instr.execSizePieces := by
  refine .ite .nil ?_
  simp [NamesAmong.entry, Piece.name?, controlNames]

theorem namesAmong_targetPieces (names : List String) : NamesAmong names instr.targetPieces := by
  refine .ite .nil ?_
  unfold jumpPieces
  dsimp only
  split <;> simp [Piece.name?]

theorem namesAmong_payloadPieces : NamesAmong payloadNames instr.payloadPieces := by
  have flag : ∀ word field?, NamesAmong payloadNames (instr.flagPieces word field?) :=
    fun word field? => .ite (by simp [Piece.name?]) .nil
  unfold payloadPieces
  split
  · simp [samplerPieces, Piece.name?]
  · simp only [urbPieces, NamesAmong.append_iff]
    exact ⟨⟨⟨.spaced _ _ (by simp [payloadNames]), flag _ _⟩, by simp [Piece.name?]⟩, flag _ _⟩
  · exact .spaced _ _ (by simp [payloadNames])
  · simp [dataportPieces, Piece.name?]
  · simp [Piece.name?]

theorem namesAmong_lengthPieces (names : List String) : NamesAmong names instr.lengthPieces := by
  simp [lengthPieces, Piece.name?]

theorem namesAmong_messagePieces :
    NamesAmong ("SFID" :: payloadNames) instr.messagePieces := by
  simp only [messagePieces, NamesAmong.append_iff]
  exact ⟨⟨⟨by simp [Piece.name?], .entry _ _ List.mem_cons_self⟩,
    instr.namesAmong_payloadPieces.mono (List.subset_cons_self _ _)⟩,
    instr.namesAmong_lengthPieces _⟩

theorem namesAmong_quarterPieces : NamesAmong controlNames instr.quarterPieces := by
  refine .ite ?_ (.spaced _ _ (by simp [controlNames]))
  split <;> simp [Piece.name?]

theorem namesAmong_settingPieces : NamesAmong controlNames instr.settingPieces := by
  simp only [settingPieces, endOfThreadPieces, NamesAmong.append_iff]
  exact ⟨⟨⟨⟨⟨⟨⟨by simp [Piece.name?], .spaced _ _ (by simp [controlNames])⟩,
    .spaced _ _ (by simp [controlNames])⟩, instr.namesAmong_quarterPieces⟩,
    .spaced _ _ (by simp [controlNames])⟩, .ite (by simp [Piece.name?]) .nil⟩,
    .ite (by simp [Piece.name?]) .nil⟩, by simp [Piece.name?]⟩

theorem namesAmong_tailPieces : NamesAmong controlNames instr.tailPieces :=
  (NamesAmong.cons_iff _ _).mpr ⟨by simp [Piece.name?], .ite .nil instr.namesAmong_settingPieces⟩

/-- Everything of a listing but its operands. -/
def aroundOperands : List Piece :=
  instr.predicatePieces ++ instr.mnemonicPieces ++ instr.modifierPieces ++
    instr.execSizePieces ++ instr.targetPieces ++
    (if instr.isSend then instr.messagePieces else []) ++ instr.tailPieces ++
    [.text ";", .newline]

theorem namesAmong_aroundOperands : NamesAmong headerNames instr.aroundOperands := by
  have message : NamesAmong headerNames (if instr.isSend then instr.messagePieces else []) :=
    .ite (instr.namesAmong_messagePieces.mono payloadNames_subset) .nil
  have controls : controlNames ⊆ headerNames :=
    List.Subset.trans controlNames_subset settingNames_subset
  simp only [aroundOperands, NamesAmong.append_iff]
  exact ⟨⟨⟨⟨⟨⟨⟨instr.namesAmong_predicatePieces.mono controls,
    instr.namesAmong_mnemonicPieces.mono settingNames_subset⟩,
    instr.namesAmong_modifierPieces.mono conditionNames_subset⟩,
    instr.namesAmong_execSizePieces.mono controls⟩,
    instr.namesAmong_targetPieces _⟩, message⟩,
    instr.namesAmong_tailPieces.mono controls⟩, by simp [Piece.name?]⟩

theorem mem_pieces_iff (piece : Piece) : piece ∈ instr.pieces ↔
    piece ∈ instr.aroundOperands ∨ ∃ kind ∈ instr.operandKinds,
      piece ∈ .pad kind.column :: instr.shownOperand kind := by
  rw [← List.mem_flatMap, pieces_eq, headPieces, operandPieces_eq, aroundOperands]
  simp only [List.mem_append]
  grind

end Instruction

section Texts

/-- How a report of a field begins, whatever the value is. -/
def reportOf (what : String) : String :=
  reportOpening ++ what ++ " value "

def Reported (what text : String) : Prop :=
  (reportOf what).toList <:+: text.toList

/-- Whether reports of the field begin in a text, which does not depend on what follows it. -/
def Settles (what text : String) (hit : Prop) : Prop :=
  ∀ rest, (reportOf what).toList <:+: text.toList ++ rest ↔
    hit ∨ (reportOf what).toList <:+: rest

theorem toList_reportOf (what : String) : (reportOf what).toList =
    ['*', '*', '*', ' ', 'i', 'n', 'v', 'a', 'l', 'i', 'd', ' '] ++
      (what ++ " value ").toList := by
  rw [reportOf, String.append_assoc, String.toList_append, toList_reportOpening]

-- Reports begin with a star.
theorem infix_append_of_starless {what : String} {chars : List Char}
    (starless : ∀ char ∈ chars, char ≠ '*') (rest : List Char) :
    (reportOf what).toList <:+: chars ++ rest ↔ (reportOf what).toList <:+: rest := by
  induction chars with
  | nil => rfl
  | cons first more ih =>
      rw [List.forall_mem_cons] at starless
      have other : ¬(reportOf what).toList <+: first :: (more ++ rest) := by
        rw [toList_reportOf, List.cons_append, List.cons_prefix_cons]
        exact fun starred => starless.1 starred.1.symm
      rw [List.cons_append, List.infix_cons_iff, ih starless.2]
      exact or_iff_right other

/-- A report of one field is not the beginning of a report of the other. -/
def ToldApart (what other : String) : Prop :=
  ∀ rest, (what ++ " value ").toList <+: (other ++ " value ").toList ++ rest → what = other

theorem toList_notice (what : String) (value : Nat) :
    (Piece.notice what value).toList =
      (reportOf what).toList ++ ((toString value).toList ++ [' ']) := by
  have space : " ".toList = [' '] := String.toList_ofList
  change (reportOpening ++ what ++ " value " ++ toString value ++ " ").toList = _
  rw [String.toList_append, String.toList_append, ← reportOf, space, List.append_assoc]

theorem ToldApart.prefix_notice_iff {what other : String} (apart : ToldApart what other)
    (value : Nat) (rest : List Char) :
    (reportOf what).toList <+: (Piece.notice other value).toList ++ rest ↔ what = other := by
  rw [toList_notice, List.append_assoc]
  constructor
  · intro begins
    rw [toList_reportOf, toList_reportOf, List.append_assoc] at begins
    exact apart _ ((List.prefix_append_right_inj _).mp begins)
  · rintro rfl
    exact List.prefix_append _ _

-- The only stars of a report are its first three characters.
theorem notice_starred (what : String) (plain : Plain what) (value : Nat) :
    ∃ body, (Piece.notice what value).toList = '*' :: '*' :: '*' :: ' ' :: body ∧
      ∀ char ∈ ' ' :: body, char ≠ '*' := by
  let body := "invalid " ++ what ++ " value " ++ toString value ++ " "
  have opening : Plain "invalid " := .literal rfl
  have between : Plain " value " := .literal rfl
  have space : Plain " " := .literal rfl
  have plainBody : Plain body := by
    simp only [body, Plain.append_iff]
    exact ⟨⟨⟨⟨opening, plain⟩, between⟩, plain_nat value⟩, space⟩
  have starless : ∀ char ∈ ' ' :: body.toList, char ≠ '*' :=
    List.forall_mem_cons.mpr ⟨by decide, fun char member => (plainBody char member).1⟩
  refine ⟨body.toList, ?_, starless⟩
  have starred : reportOpening = "*** " ++ "invalid " := by decide
  have stars : "*** ".toList = ['*', '*', '*', ' '] := String.toList_ofList
  change (reportOpening ++ what ++ " value " ++ toString value ++ " ").toList = _
  simp only [starred, body, String.toList_append, stars, List.append_assoc]
  rfl

theorem not_prefix_stars (what : String) (rest : List Char) :
    ¬(reportOf what).toList <+: '*' :: '*' :: ' ' :: rest ∧
      ¬(reportOf what).toList <+: '*' :: ' ' :: rest := by
  -- A report does not begin at the second star of another one, nor at the third.
  simp [toList_reportOf]

namespace Settles

variable {what : String}

theorem append {first second : String} {hit hit' : Prop} (before : Settles what first hit)
    (after : Settles what second hit') : Settles what (first ++ second) (hit ∨ hit') := by
  intro rest
  rw [String.toList_append, List.append_assoc, before, after, or_assoc]

theorem congr {text : String} {hit hit' : Prop} (settles : Settles what text hit)
    (same : hit ↔ hit') : Settles what text hit' :=
  fun rest => (settles rest).trans (or_congr_left same)

theorem of_starless {text : String} (starless : ∀ char ∈ text.toList, char ≠ '*') :
    Settles what text False :=
  fun rest => (infix_append_of_starless starless rest).trans (or_iff_right id).symm

theorem of_plain {text : String} (plain : Plain text) : Settles what text False :=
  of_starless fun char member => (plain char member).1

theorem lineEnd : Settles what "\n" False :=
  of_starless (by simp)

theorem spaces (count : Nat) : Settles what (Piece.spaces count) False :=
  of_plain (.spaces count)

theorem notice {other : String} (apart : ToldApart what other) (plain : Plain other)
    (value : Nat) : Settles what (Piece.notice other value) (what = other) := by
  intro rest
  obtain ⟨body, chars, starless⟩ := notice_starred other plain value
  obtain ⟨second, third⟩ := not_prefix_stars what (body ++ rest)
  have first := apart.prefix_notice_iff value rest
  have later : (reportOf what).toList <:+: (' ' :: body) ++ rest ↔
      (reportOf what).toList <:+: rest := infix_append_of_starless starless rest
  rw [chars] at first ⊢
  simp only [List.cons_append] at first later ⊢
  rw [List.infix_cons_iff, first, List.infix_cons_iff, or_iff_right second, List.infix_cons_iff,
    or_iff_right third, later]

theorem iff {text : String} {hit : Prop} (settles : Settles what text hit) :
    Reported what text ↔ hit := by
  have whole := settles []
  rw [List.append_nil] at whole
  refine whole.trans (or_iff_left fun none => ?_)
  rw [toList_reportOf, List.infix_nil] at none
  exact absurd none (by simp)

end Settles

def vocabulary : List String :=
  operandNames ++ headerNames

-- Of two different names neither is the beginning of the other.
theorem vocabulary_unlike : (vocabulary.map fun name => (name ++ " value ").toList).Pairwise
    fun left right => ¬(left.isPrefixOf right ∨ right.isPrefixOf left) := by
  simp only [vocabulary, operandNames, headerNames, List.map_cons, List.map_append, List.map_nil,
    String.toList_append, String.reduceToList]
  decide

theorem toldApart_of_mem {what other : String} (inNames : what ∈ vocabulary)
    (inNames' : other ∈ vocabulary) : ToldApart what other := by
  have unlike := List.pairwise_map.mp vocabulary_unlike
  simp only [List.isPrefixOf_iff_prefix] at unlike
  have forward : vocabulary.Pairwise ToldApart := unlike.imp fun neither rest begins =>
    absurd (List.prefix_or_prefix_of_prefix begins (List.prefix_append _ _)) neither
  have backward : vocabulary.Pairwise (flip ToldApart) := unlike.imp fun neither rest begins =>
    absurd (List.prefix_or_prefix_of_prefix begins (List.prefix_append _ _)).symm neither
  have reflexive : ∀ name ∈ vocabulary, ToldApart name name := fun _ _ _ _ => rfl
  exact List.Pairwise.forall_of_forall_of_flip reflexive forward backward inNames inNames'

-- Printing a piece adds a text that reports the fields that the piece reports.
theorem Printed.settles_add {what : String} (inNames : what ∈ vocabulary) (printed : Printed)
    {piece : Piece} (listed : piece.Inline ∨ piece = .newline)
    (named : ∀ other ∈ piece.name?, other ∈ vocabulary) :
    ∃ added, (printed.add piece).text = printed.text ++ added ∧
      Settles what added (piece.name? = some what) := by
  cases piece with
  | text content =>
      exact ⟨_, rfl, (Settles.of_plain (listed.resolve_right (by simp))).congr (by simp [Piece.name?])⟩
  | pad column => exact ⟨_, rfl, (Settles.spaces _).congr (by simp [Piece.name?])⟩
  | newline => exact ⟨_, rfl, Settles.lineEnd.congr (by simp [Piece.name?])⟩
  | malformed other value =>
      have apart := toldApart_of_mem inNames (named other rfl)
      exact ⟨_, rfl, (Settles.notice apart (listed.resolve_right (by simp)) value).congr
        (by simp [Piece.name?, eq_comm])⟩
  | unknownOpcode number =>
      have apart := toldApart_of_mem inNames (named "opcode" rfl)
      exact ⟨_, rfl, (Settles.notice apart (.literal rfl) number).congr
        (by simp [Piece.name?, eq_comm])⟩

theorem Printed.settles_foldl {what : String} (inNames : what ∈ vocabulary) {pieces : List Piece}
    (listed : ∀ piece ∈ pieces, piece.Inline ∨ piece = .newline)
    (named : NamesAmong vocabulary pieces) (printed : Printed) :
    ∃ added, (pieces.foldl add printed).text = printed.text ++ added ∧
      Settles what added (∃ piece ∈ pieces, piece.name? = some what) := by
  induction pieces generalizing printed with
  | nil =>
      exact ⟨"", String.append_empty.symm, (Settles.of_plain (.literal rfl)).congr (by simp)⟩
  | cons piece rest ih =>
      rw [List.forall_mem_cons] at listed
      rw [NamesAmong.cons_iff] at named
      obtain ⟨first, isFirst, firstSettles⟩ := printed.settles_add inNames listed.1 named.1
      obtain ⟨more, isMore, moreSettles⟩ := ih listed.2 named.2 (printed.add piece)
      refine ⟨first ++ more, ?_, (firstSettles.append moreSettles).congr (by simp)⟩
      rw [List.foldl_cons, isMore, isFirst, String.append_assoc]

theorem Listing.reported_ofPieces {what : String} (inNames : what ∈ vocabulary)
    {pieces : List Piece} (listed : ∀ piece ∈ pieces, piece.Inline ∨ piece = .newline)
    (named : NamesAmong vocabulary pieces) :
    Reported what (ofPieces pieces).text ↔ what ∈ reportedNames pieces := by
  obtain ⟨added, isText, settles⟩ := Printed.settles_foldl inNames listed named .start
  have text : (ofPieces pieces).text = added := isText.trans String.empty_append
  rw [text, settles.iff, mem_reportedNames]

namespace Instruction

variable (instr : Instruction)

theorem namesAmong_pieces : NamesAmong vocabulary instr.pieces := by
  intro piece member
  rcases (instr.mem_pieces_iff piece).mp member with around | ⟨kind, isKind, shown⟩
  · exact fun what named => List.mem_append_right _
      (instr.namesAmong_aroundOperands piece around what named)
  · exact fun what named => List.mem_append_left _ (instr.namesAmong_operands piece
      (List.mem_flatMap.mpr ⟨kind, isKind, shown⟩) what named)

theorem reported_iff {what : String} (inNames : what ∈ vocabulary) :
    Reported what instr.listing.text ↔ what ∈ reportedNames instr.pieces :=
  Listing.reported_ofPieces inNames instr.lines_pieces.listed instr.namesAmong_pieces

theorem not_mem_headerNames {what : String} (member : what ∈ operandNames) :
    what ∉ headerNames := by
  have apart : ∀ what ∈ operandNames, what ∉ headerNames := by
    simp [operandNames, headerNames]
  exact apart what member

/-- A part of an operand is reported exactly if an operand that is shown reports it. -/
theorem reported_operand_iff {what : String} (ofOperand : what ∈ operandNames) :
    Reported what instr.listing.text ↔
      ∃ kind ∈ instr.operandKinds, what ∈ reportedNames (instr.shownOperand kind) := by
  rw [instr.reported_iff (List.mem_append_left _ ofOperand)]
  simp only [mem_reportedNames, mem_pieces_iff]
  constructor
  · rintro ⟨piece, around | ⟨kind, isKind, shown⟩, named⟩
    · exact absurd (instr.namesAmong_aroundOperands piece around what named)
        (not_mem_headerNames ofOperand)
    · rcases List.mem_cons.mp shown with rfl | inOperand
      · cases named
      · exact ⟨kind, isKind, piece, inOperand, named⟩
  · rintro ⟨kind, isKind, piece, shown, named⟩
    exact ⟨piece, Or.inr ⟨kind, isKind, List.mem_cons_of_mem _ shown⟩, named⟩

end Instruction

end Texts

end ExecUnit
