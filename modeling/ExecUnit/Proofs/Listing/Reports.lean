import ExecUnit.Listing.Line

/-!
What a listing reports. The errors of a listing are the reports among its pieces
(`Listing.errors_ofPieces`), so a listing without errors has no report at any of its
places, and a value that is shown without one has a word.
-/

namespace ExecUnit

@[simp]
def Piece.isReport : Piece → Bool
  | .malformed _ _ | .unknownOpcode _ => true
  | .text _ | .pad _ | .newline => false

theorem Printed.errors_foldl (pieces : List Piece) (printed : Printed) :
    (pieces.foldl add printed).errors = printed.errors + pieces.countP Piece.isReport := by
  induction pieces generalizing printed with
  | nil => rfl
  | cons piece rest ih =>
      have step : (printed.add piece).errors =
          printed.errors + if piece.isReport then 1 else 0 := by
        cases piece <;> rfl
      rw [List.foldl_cons, ih, step, List.countP_cons]
      omega

theorem Listing.errors_ofPieces (pieces : List Piece) :
    (ofPieces pieces).errors = pieces.countP Piece.isReport :=
  (Printed.errors_foldl pieces .start).trans (Nat.zero_add _)

def Clean (pieces : List Piece) : Prop :=
  ∀ piece ∈ pieces, piece.isReport = false

theorem clean_iff_errors (pieces : List Piece) :
    Clean pieces ↔ (Listing.ofPieces pieces).errors = 0 := by
  simp [Clean, Listing.errors_ofPieces, List.countP_eq_zero]

namespace Clean

@[simp]
theorem nil : Clean [] :=
  List.forall_mem_nil _

@[simp]
theorem cons_iff (piece : Piece) (rest : List Piece) :
    Clean (piece :: rest) ↔ piece.isReport = false ∧ Clean rest :=
  List.forall_mem_cons

@[simp]
theorem append_iff (first second : List Piece) :
    Clean (first ++ second) ↔ Clean first ∧ Clean second :=
  List.forall_mem_append

theorem flatMap_iff {α : Type} (elements : List α) (pieces : α → List Piece) :
    Clean (elements.flatMap pieces) ↔ ∀ element ∈ elements, Clean (pieces element) := by
  simp only [Clean, List.mem_flatMap]
  grind

end Clean

theorem entry_clean_iff (what : String) (words : Mnemonics) (value : Nat) :
    Clean (entry what words value) ↔ (words value).isSome = true := by
  unfold entry
  cases words value <;> simp

-- A word of an enumeration belongs to one of its values.
theorem Mnemonics.known_of_ofCoded {α : Type} [Coded α] {word? : α → Option String}
    {number : Nat} (named : (ofCoded word? number).isSome = true) :
    ∃ value : α, Coded.ofCode? number = some value := by
  unfold ofCoded at named
  cases found : (Coded.ofCode? number : Option α) with
  | none => simp [found] at named
  | some value => exact ⟨value, rfl⟩

theorem known_of_entry {α : Type} [Coded α] {what : String} {word? : α → Option String}
    {number : Nat} (clean : Clean (entry what (.ofCoded word?) number)) :
    ∃ value : α, Coded.ofCode? number = some value :=
  Mnemonics.known_of_ofCoded ((entry_clean_iff _ _ _).mp clean)

theorem RegionCodes.known_of_pieces {codes : RegionCodes} (clean : Clean codes.pieces) :
    (∃ vstride : VerticalStride, Coded.ofCode? codes.vstride = some vstride) ∧
      (∃ width : Width, Coded.ofCode? codes.width = some width) ∧
      ∃ hstride : HorizontalStride, Coded.ofCode? codes.hstride = some hstride := by
  simp only [pieces, Clean.append_iff] at clean
  obtain ⟨⟨⟨⟨⟨⟨-, vstride⟩, -⟩, width⟩, -⟩, hstride⟩, -⟩ := clean
  exact ⟨known_of_entry vstride, known_of_entry width, known_of_entry hstride⟩

theorem Mnemonics.ofCoded_code {α : Type} [Coded α] (word? : α → Option String) (value : α) :
    ofCoded word? (code value) = word? value := by
  rw [ofCoded, Coded.ofCode?_code, Option.bind_some]

theorem decodedType?_code {file : RegisterFile} {type : DataType} {typeNumber : Nat}
    (typed : type.codeIn? file = some typeNumber) :
    decodedType? (code file) typeNumber = some type := by
  rw [decodedType?, Coded.ofCode?_code, Option.bind_some]
  exact (DataType.ofCodeIn?_eq_some_iff _ _ _).mpr typed

theorem typePieces_clean_iff (what : String) (file type : Nat) :
    Clean (typePieces what file type) ↔ (decodedType? file type).isSome = true := by
  unfold typePieces
  cases decodedType? file type <;> simp

theorem tripleTypePieces_clean_iff (what : String) (number : Nat) :
    Clean (tripleTypePieces what (some number)) ↔
      (DataType.ofThreeSourceCode? number).isSome = true := by
  cases found : DataType.ofThreeSourceCode? number <;>
    simp [tripleTypePieces, found]

end ExecUnit
