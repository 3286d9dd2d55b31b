import ExecUnit.BitRange

/-!
Named bit ranges, and numbers stored in several of them.
-/

namespace ExecUnit

structure Field extends BitRange where
  name : String
  deriving DecidableEq, Repr

namespace Field

def span (name : String) (high low : Nat)
    (valid : BitRange.isValid high low = true := by exact Eq.refl true) : Field :=
  ⟨.span high low valid, name⟩

def bit (name : String) (index : Nat)
    (valid : BitRange.isValid index index = true := by exact Eq.refl true) : Field :=
  span name index index valid

def ofBounds (name : String) (high low : Nat) : Except RangeFault Field :=
  (BitRange.ofBounds high low).map (⟨·, name⟩)

def faultMessage : RangeFault → String
  | .inverted => "field high bit is below its low bit"
  | .outside => "field lies outside of the instruction"
  | .crossesWord => "field crosses a word boundary"

def describe (field : Field) : String :=
  if field.high = field.low then s!"{field.name} [{field.high}]"
  else s!"{field.name} [{field.high}:{field.low}]"

end Field

/-- A number kept in several fields, its low part in the first. -/
structure SplitField where
  parts : List Field

namespace SplitField

def partsWidth : List Field → Nat
  | [] => 0
  | part :: rest => part.width + partsWidth rest

def getParts : List Field → Encoding → Nat
  | [], _ => 0
  | part :: rest, bits => part.get bits + (getParts rest bits <<< part.width)

def setParts : List Field → Nat → Encoding → Encoding
  | [], _, bits => bits
  | part :: rest, value, bits => setParts rest (value >>> part.width) (part.set value bits)

def width (split : SplitField) : Nat :=
  partsWidth split.parts

def capacity (split : SplitField) : Nat :=
  1 <<< split.width

def get (split : SplitField) (bits : Encoding) : Nat :=
  getParts split.parts bits

def set (split : SplitField) (value : Nat) (bits : Encoding) : Encoding :=
  setParts split.parts value bits

def getSigned (split : SplitField) (bits : Encoding) : Int :=
  (BitVec.ofNat split.width (split.get bits)).toInt

def setSigned (split : SplitField) (value : Int) (bits : Encoding) : Encoding :=
  split.set (BitVec.ofInt split.width value).toNat bits

theorem get_setParts_of_disjoint (parts : List Field) (other : Field)
    (apart : ∀ part ∈ parts, part.toBitRange.Disjoint other.toBitRange) (value : Nat)
    (bits : Encoding) : other.get (setParts parts value bits) = other.get bits := by
  induction parts generalizing value bits with
  | nil => rfl
  | cons part rest ih =>
      simp only [List.forall_mem_cons] at apart
      rw [setParts, ih apart.2, BitRange.get_set_of_disjoint apart.1.swap]

theorem capacity_eq (split : SplitField) : split.capacity = Nat.pow 2 split.width := by
  rw [capacity, Nat.one_shiftLeft, Nat.pow_eq]

theorem getParts_setParts (parts : List Field)
    (apart : parts.Pairwise (·.toBitRange.Disjoint ·.toBitRange)) (value : Nat)
    (bits : Encoding) :
    getParts parts (setParts parts value bits) = value % Nat.pow 2 (partsWidth parts) := by
  induction parts generalizing value bits with
  | nil => simp [getParts, partsWidth, Nat.mod_one]
  | cons part rest ih =>
      rw [List.pairwise_cons] at apart
      rw [getParts, setParts, ih apart.2, get_setParts_of_disjoint, BitRange.get_set,
        BitRange.capacity_eq, Nat.shiftLeft_eq, Nat.shiftRight_eq_div_pow, partsWidth]
      · simp only [Nat.pow_eq, Nat.pow_add, Nat.mod_mul]
        rw [Nat.mul_comm]
      · exact fun other member => (apart.1 other member).swap

-- Parts that do not overlap hold the value reduced to their joint width.
theorem get_set (split : SplitField)
    (apart : split.parts.Pairwise (·.toBitRange.Disjoint ·.toBitRange)) (value : Nat)
    (bits : Encoding) : split.get (split.set value bits) = value % split.capacity := by
  rw [capacity_eq]
  exact getParts_setParts split.parts apart value bits

theorem getSigned_setSigned (split : SplitField)
    (apart : split.parts.Pairwise (·.toBitRange.Disjoint ·.toBitRange)) (value : Int)
    (bits : Encoding) :
    split.getSigned (split.setSigned value bits) = value.bmod split.capacity := by
  rw [getSigned, setSigned, get_set split apart, capacity_eq, Nat.pow_eq, ← BitVec.toNat_ofNat,
    BitVec.ofNat_toNat, BitVec.ofNat_toNat, BitVec.setWidth_eq, BitVec.setWidth_eq,
    BitVec.toInt_ofInt]

end SplitField

end ExecUnit
