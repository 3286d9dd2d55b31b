import ExecUnit.Coded

/-!
The settings of the instruction header, with their numbers.
-/

namespace ExecUnit

inductive AccessMode where
  | align1 | align16
  deriving DecidableEq, Repr

instance : Coded AccessMode where
  title := "AccessMode"
  all := [.align1, .align16]
  code
    | .align1 => 0
    | .align16 => 1
  label
    | .align1 => "Align1"
    | .align16 => "Align16"
  complete value := by cases value <;> decide
  distinct := by decide

inductive MaskControl where
  | enable | disable
  deriving DecidableEq, Repr

instance : Coded MaskControl where
  title := "MaskControl"
  all := [.enable, .disable]
  code
    | .enable => 0
    | .disable => 1
  label
    | .enable => "Enable"
    | .disable => "Disable"
  complete value := by cases value <;> decide
  distinct := by decide

inductive DependencyControl where
  | none | noDDClear | noDDCheck | noDDClearCheck
  deriving DecidableEq, Repr

instance : Coded DependencyControl where
  title := "DependencyControl"
  all := [.none, .noDDClear, .noDDCheck, .noDDClearCheck]
  code
    | .none => 0
    | .noDDClear => 1
    | .noDDCheck => 2
    | .noDDClearCheck => 3
  label
    | .none => "None"
    | .noDDClear => "NoDDClear"
    | .noDDCheck => "NoDDCheck"
    | .noDDClearCheck => "NoDDClearCheck"
  complete value := by cases value <;> decide
  distinct := by decide

inductive ThreadControl where
  | normal | atomic | switch
  deriving DecidableEq, Repr

instance : Coded ThreadControl where
  title := "ThreadControl"
  all := [.normal, .atomic, .switch]
  code
    | .normal => 0
    | .atomic => 1
    | .switch => 2
  label
    | .normal => "Normal"
    | .atomic => "Atomic"
    | .switch => "Switch"
  complete value := by cases value <;> decide
  distinct := by decide

/-- Predicate controls of Align1; Align16 uses the numbers up to 7 for channel selects. -/
inductive PredicateControl where
  | none | normal | anyV | allV | any2H | all2H | any4H | all4H | any8H | all8H | any16H
  | all16H | any32H | all32H
  deriving DecidableEq, Repr

instance : Coded PredicateControl where
  title := "PredicateControl"
  all := [.none, .normal, .anyV, .allV, .any2H, .all2H, .any4H, .all4H, .any8H, .all8H,
    .any16H, .all16H, .any32H, .all32H]
  code
    | .none => 0
    | .normal => 1
    | .anyV => 2
    | .allV => 3
    | .any2H => 4
    | .all2H => 5
    | .any4H => 6
    | .all4H => 7
    | .any8H => 8
    | .all8H => 9
    | .any16H => 10
    | .all16H => 11
    | .any32H => 12
    | .all32H => 13
  label
    | .none => "None"
    | .normal => "Normal"
    | .anyV => "AnyV"
    | .allV => "AllV"
    | .any2H => "Any2H"
    | .all2H => "All2H"
    | .any4H => "Any4H"
    | .all4H => "All4H"
    | .any8H => "Any8H"
    | .all8H => "All8H"
    | .any16H => "Any16H"
    | .all16H => "All16H"
    | .any32H => "Any32H"
    | .all32H => "All32H"
  complete value := by cases value <;> decide
  distinct := by decide

/-- `round` exists on the first two generations only. -/
inductive ConditionalModifier where
  | none | zero | notZero | greater | greaterEqual | less | lessEqual | round | overflow
  | unordered
  deriving DecidableEq, Repr

instance : Coded ConditionalModifier where
  title := "ConditionalModifier"
  all := [.none, .zero, .notZero, .greater, .greaterEqual, .less, .lessEqual, .round,
    .overflow, .unordered]
  code
    | .none => 0
    | .zero => 1
    | .notZero => 2
    | .greater => 3
    | .greaterEqual => 4
    | .less => 5
    | .lessEqual => 6
    | .round => 7
    | .overflow => 8
    | .unordered => 9
  label
    | .none => "None"
    | .zero => "Zero"
    | .notZero => "NotZero"
    | .greater => "Greater"
    | .greaterEqual => "GreaterEqual"
    | .less => "Less"
    | .lessEqual => "LessEqual"
    | .round => "Round"
    | .overflow => "Overflow"
    | .unordered => "Unordered"
  complete value := by cases value <;> decide
  distinct := by decide

inductive MathFunction where
  | inv | log | exp | sqrt | rsq | sin | cos | fdiv | pow | intDivQuotientAndRemainder
  | intDivQuotient | intDivRemainder | invm | rsqrtm
  deriving DecidableEq, Repr

instance : Coded MathFunction where
  title := "MathFunction"
  all := [.inv, .log, .exp, .sqrt, .rsq, .sin, .cos, .fdiv, .pow,
    .intDivQuotientAndRemainder, .intDivQuotient, .intDivRemainder, .invm, .rsqrtm]
  code
    | .inv => 1
    | .log => 2
    | .exp => 3
    | .sqrt => 4
    | .rsq => 5
    | .sin => 6
    | .cos => 7
    | .fdiv => 9
    | .pow => 10
    | .intDivQuotientAndRemainder => 11
    | .intDivQuotient => 12
    | .intDivRemainder => 13
    | .invm => 14
    | .rsqrtm => 15
  label
    | .inv => "Inv"
    | .log => "Log"
    | .exp => "Exp"
    | .sqrt => "Sqrt"
    | .rsq => "Rsq"
    | .sin => "Sin"
    | .cos => "Cos"
    | .fdiv => "Fdiv"
    | .pow => "Pow"
    | .intDivQuotientAndRemainder => "IntDivQuotientAndRemainder"
    | .intDivQuotient => "IntDivQuotient"
    | .intDivRemainder => "IntDivRemainder"
    | .invm => "Invm"
    | .rsqrtm => "Rsqrtm"
  complete value := by cases value <;> decide
  distinct := by decide

end ExecUnit
