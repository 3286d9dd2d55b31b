import ExecUnit.Generation

/-!
Register files and operand types. Registers and immediates number their types
differently, and three-source operands have a numbering of their own.
-/

namespace ExecUnit

inductive RegisterFile where
  | architecture | general | message | immediate
  deriving DecidableEq, Repr

instance : Coded RegisterFile where
  title := "RegisterFile"
  all := [.architecture, .general, .message, .immediate]
  code
    | .architecture => 0
    | .general => 1
    | .message => 2
    | .immediate => 3
  label
    | .architecture => "Architecture"
    | .general => "General"
    | .message => "Message"
    | .immediate => "Immediate"
  complete value := by cases value <;> decide
  distinct := by decide

/-- `vf` packs four restricted floats and `v` eight signed 4-bit integers;
both exist for immediates only. -/
inductive DataType where
  | ud | d | uw | w | ub | b | df | f | vf | v
  deriving DecidableEq, Repr

namespace DataType

def all : List DataType :=
  [.ud, .d, .uw, .w, .ub, .b, .df, .f, .vf, .v]

def name : DataType → String
  | .ud => "UD"
  | .d => "D"
  | .uw => "UW"
  | .w => "W"
  | .ub => "UB"
  | .b => "B"
  | .df => "DF"
  | .f => "F"
  | .vf => "VF"
  | .v => "V"

def ofName? (name : String) : Option DataType :=
  all.find? (·.name == name)

/-- Size of one element in bytes. -/
def size : DataType → Nat
  | .ud | .d | .f | .vf => 4
  | .uw | .w | .v => 2
  | .ub | .b => 1
  | .df => 8

def codeIn? (file : RegisterFile) : DataType → Option Nat
  | .ud => some 0
  | .d => some 1
  | .uw => some 2
  | .w => some 3
  | .ub => some 4
  | .f => some 7
  | .b => if file = .immediate then none else some 5
  | .df => if file = .immediate then none else some 6
  | .vf => if file = .immediate then some 5 else none
  | .v => if file = .immediate then some 6 else none

def ofCodeIn? (file : RegisterFile) : Nat → Option DataType
  | 0 => some .ud
  | 1 => some .d
  | 2 => some .uw
  | 3 => some .w
  | 4 => some .ub
  | 5 => some (if file = .immediate then .vf else .b)
  | 6 => some (if file = .immediate then .v else .df)
  | 7 => some .f
  | _ => none

theorem ofCodeIn?_eq_some_iff (file : RegisterFile) (number : Nat) (type : DataType) :
    ofCodeIn? file number = some type ↔ type.codeIn? file = some number := by
  constructor
  · intro found
    unfold ofCodeIn? at found
    split at found <;> simp only [Option.some.injEq, reduceCtorEq] at found <;>
      subst found <;> cases file <;> rfl
  · intro found
    cases type <;> cases file <;> simp [codeIn?] at found <;> subst found <;> rfl

def threeSourceCode? : DataType → Option Nat
  | .f => some 0
  | .d => some 1
  | .ud => some 2
  | .df => some 3
  | _ => none

def ofThreeSourceCode? : Nat → Option DataType
  | 0 => some .f
  | 1 => some .d
  | 2 => some .ud
  | 3 => some .df
  | _ => none

theorem ofThreeSourceCode?_eq_some_iff (number : Nat) (type : DataType) :
    ofThreeSourceCode? number = some type ↔ type.threeSourceCode? = some number := by
  constructor
  · intro found
    unfold ofThreeSourceCode? at found
    split at found <;> simp only [Option.some.injEq, reduceCtorEq] at found <;>
      subst found <;> rfl
  · intro found
    cases type <;> simp [threeSourceCode?] at found <;> subst found <;> rfl

def availableOn (gen : Generation) (type : DataType) : Bool :=
  type ≠ .df || gen.hasDoubleFloat

end DataType

end ExecUnit
