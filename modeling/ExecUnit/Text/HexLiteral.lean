/-!
Hexadecimal literals in a text: `0x` or `0X` and at least one digit. A literal
takes as many digits as follow, up to a limit; everything else is skipped one
character at a time.
-/

namespace ExecUnit.HexLiteral

def digit? (char : Char) : Option Nat :=
  if '0' ≤ char ∧ char ≤ '9' then some (char.toNat - '0'.toNat)
  else if 'a' ≤ char ∧ char ≤ 'f' then some (char.toNat - 'a'.toNat + 10)
  else if 'A' ≤ char ∧ char ≤ 'F' then some (char.toNat - 'A'.toNat + 10)
  else none

def leadingDigits : Nat → List Char → List Nat
  | limit + 1, char :: rest =>
      match digit? char with
      | some digit => digit :: leadingDigits limit rest
      | none => []
  | _, _ => []

/-- The digits of the literal that a text starts with; none if there is no
literal. -/
def digitsAt (limit : Nat) : List Char → List Nat
  | '0' :: 'x' :: rest | '0' :: 'X' :: rest => leadingDigits limit rest
  | _ => []

/-- The number that digits denote, the first being the highest. -/
def value (digits : List Nat) : Nat :=
  digits.foldl (fun number digit => 16 * number + digit) 0

/-- `skip` characters belong to the literal before. -/
def scan (limit : Nat) : Nat → List Char → List Nat
  | _, [] => []
  | skip + 1, _ :: rest => scan limit skip rest
  | 0, char :: rest =>
      match digitsAt limit (char :: rest) with
      | [] => scan limit 0 rest
      | digits => value digits :: scan limit (digits.length + 1) rest

def values (limit : Nat) (text : String) : List Nat :=
  scan limit 0 text.toList

end ExecUnit.HexLiteral
