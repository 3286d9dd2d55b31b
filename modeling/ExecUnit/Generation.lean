import ExecUnit.Coded

/-!
Hardware generations and what each of them has.
-/

namespace ExecUnit

inductive Generation where
  | gen4 | gen5 | gen6 | gen7 | gen8 | gen9
  deriving DecidableEq, Repr

namespace Generation

def number : Generation → Nat
  | .gen4 => 4
  | .gen5 => 5
  | .gen6 => 6
  | .gen7 => 7
  | .gen8 => 8
  | .gen9 => 9

def name (gen : Generation) : String :=
  s!"Gen{gen.number}"

instance : Coded Generation where
  title := "Generation"
  all := [.gen4, .gen5, .gen6, .gen7, .gen8, .gen9]
  code := number
  label := name
  complete value := by cases value <;> decide
  distinct := by decide

def hasMessageFile (gen : Generation) : Bool :=
  gen.number < 7

def messageRegisterCount : Generation → Nat
  | .gen6 => 24
  | _ => 16

def generalRegisterCount : Nat := 128

/-- First general register that stands in for a message register once the
message register file is gone. -/
def firstMessageAlias : Nat := 112

def hasThreeSource (gen : Generation) : Bool :=
  6 ≤ gen.number

def hasThreeSourceTypes (gen : Generation) : Bool :=
  7 ≤ gen.number

/-- Whether header bits 13:12 are quarter control rather than compression
control. -/
def hasQuarterControl (gen : Generation) : Bool :=
  6 ≤ gen.number

/-- Whether the shared function of a message shares the header bits of the
conditional modifier. -/
def hasHeaderSfid (gen : Generation) : Bool :=
  6 ≤ gen.number

def hasDoubleFloat (gen : Generation) : Bool :=
  7 ≤ gen.number

def hasSecondFlag (gen : Generation) : Bool :=
  7 ≤ gen.number

end Generation

end ExecUnit
