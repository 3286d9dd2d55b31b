/-!
What a listing is made of. A listing is planned as a list of pieces and then
printed; printing keeps the column, which padding needs, and counts the
malformed fields.
-/

namespace ExecUnit

/-- `malformed` reports a field without a meaning where its text would stand,
and `unknownOpcode` an opcode. -/
inductive Piece where
  | text (content : String)
  | pad (column : Nat)
  | newline
  | malformed (what : String) (value : Nat)
  | unknownOpcode (number : Nat)
  deriving DecidableEq, Repr

namespace Piece

def notice (what : String) (value : Nat) : String :=
  s!"*** invalid {what} value {value} "

/-- How many spaces lead from `column` to `target`; never none. -/
def gap (column target : Nat) : Nat :=
  max 1 (target - column)

def spaces (count : Nat) : String :=
  .ofList (.replicate count ' ')

end Piece

/-- The text so far, the column of its last line and the malformed fields
in it. -/
structure Printed where
  text : String
  column : Nat
  errors : Nat
  deriving DecidableEq, Repr

namespace Printed

def start : Printed := ⟨"", 0, 0⟩

/-- Reports of fields leave the column where it is, so they push the rest of
the line to the right; the report of an opcode counts as text. -/
def add (printed : Printed) : Piece → Printed
  | .text content =>
      { printed with
        text := printed.text ++ content
        column := printed.column + content.length }
  | .pad target =>
      let gap := Piece.gap printed.column target
      { printed with
        text := printed.text ++ Piece.spaces gap
        column := printed.column + gap }
  | .newline =>
      { printed with
        text := printed.text ++ "\n"
        column := 0 }
  | .malformed what value =>
      { printed with
        text := printed.text ++ Piece.notice what value
        errors := printed.errors + 1 }
  | .unknownOpcode number =>
      let notice := Piece.notice "opcode" number
      { text := printed.text ++ notice
        column := printed.column + notice.length
        errors := printed.errors + 1 }

def ofPieces (pieces : List Piece) : Printed :=
  pieces.foldl add start

end Printed

structure Listing where
  text : String
  errors : Nat
  deriving DecidableEq, Repr

namespace Listing

def empty : Listing := ⟨"", 0⟩

def isClean (listing : Listing) : Bool :=
  listing.errors = 0

def append (left right : Listing) : Listing :=
  ⟨left.text ++ right.text, left.errors + right.errors⟩

def ofPieces (pieces : List Piece) : Listing :=
  let printed := Printed.ofPieces pieces
  ⟨printed.text, printed.errors⟩

end Listing

end ExecUnit
