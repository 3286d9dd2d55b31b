import ExecUnit.Field

/-!
Several writes at once. Setters write a handful of ranges one after another.
As a list of assignments such a sequence can be compared with another one:
`agree_assign` says what it leaves alone, `stores_assign` what it leaves behind,
and `assign_perm` and `assign_comm` when the order does not matter.
-/

namespace ExecUnit

structure Assignment where
  range : BitRange
  value : Nat
  deriving DecidableEq, Repr

def Apart (left right : List BitRange) : Prop :=
  ∀ first ∈ left, ∀ second ∈ right, first.Disjoint second

instance (left right : List BitRange) : Decidable (Apart left right) :=
  inferInstanceAs (Decidable (∀ first ∈ left, ∀ second ∈ right, first.Disjoint second))

def Separate (ranges : List BitRange) : Prop :=
  ranges.Pairwise BitRange.Disjoint

instance (ranges : List BitRange) : Decidable (Separate ranges) :=
  inferInstanceAs (Decidable (ranges.Pairwise BitRange.Disjoint))

theorem BitRange.toNat_mod_capacity (range : BitRange) (flag : Bool) :
    flag.toNat % range.capacity = flag.toNat := by
  have room : 2 ≤ range.capacity := by
    have wide : 1 ≤ range.width := Nat.le_add_left 1 _
    rw [BitRange.capacity_eq, Nat.pow_eq]
    exact Nat.pow_le_pow_right Nat.two_pos wide
  exact Nat.mod_eq_of_lt (Nat.lt_of_lt_of_le flag.toNat_lt room)

theorem BitRange.one_mod_capacity (range : BitRange) : 1 % range.capacity = 1 :=
  range.toNat_mod_capacity true

/-- Whether a bit lies in the range. -/
def BitRange.Covers (range : BitRange) (index : Nat) : Prop :=
  range.low ≤ index ∧ index ≤ range.high

instance (range : BitRange) (index : Nat) : Decidable (range.Covers index) :=
  inferInstanceAs (Decidable (_ ∧ _))

def Assignment.Compatible (left right : Assignment) : Prop :=
  left = right ∨ left.range.Disjoint right.range

/-- Assignments may be repeated, but two different ones never overlap. -/
def Consistent (writes : List Assignment) : Prop :=
  ∀ left ∈ writes, ∀ right ∈ writes, left.Compatible right

theorem Apart.mono {left right left' right' : List BitRange} (apart : Apart left right)
    (fewer : left' ⊆ left) (fewer' : right' ⊆ right) : Apart left' right' :=
  fun first member second member' => apart first (fewer member) second (fewer' member')

theorem Apart.symm {left right : List BitRange} (apart : Apart left right) : Apart right left :=
  fun first member second member' => (apart second member' first member).swap

theorem Consistent.mono {writes writes' : List Assignment} (consistent : Consistent writes)
    (fewer : writes' ⊆ writes) : Consistent writes' :=
  fun left member right member' => consistent left (fewer member) right (fewer member')

theorem consistent_of_separate {writes : List Assignment}
    (separate : Separate (writes.map (·.range))) : Consistent writes := by
  intro left inLeft right inRight
  have pairs : writes.Pairwise fun left right => left.range.Disjoint right.range :=
    List.pairwise_map.mp separate
  have forward : writes.Pairwise Assignment.Compatible := pairs.imp Or.inr
  have backward : writes.Pairwise (flip Assignment.Compatible) :=
    pairs.imp fun apart => Or.inr apart.swap
  have reflexive : ∀ write ∈ writes, write.Compatible write := fun _ _ => Or.inl rfl
  exact List.Pairwise.forall_of_forall_of_flip reflexive forward backward inLeft inRight

namespace Encoding

def assign (writes : List Assignment) (bits : Encoding) : Encoding :=
  writes.foldl (fun bits write => write.range.set write.value bits) bits

def Agree (ranges : List BitRange) (left right : Encoding) : Prop :=
  ∀ range ∈ ranges, range.get left = range.get right

/-- Every assigned range holds its value, reduced to the room there is. -/
def Stores (writes : List Assignment) (bits : Encoding) : Prop :=
  ∀ write ∈ writes, write.range.get bits = write.value % write.range.capacity

@[simp]
theorem stores_cons (range : BitRange) (value : Nat) (rest : List Assignment) (bits : Encoding) :
    Stores (⟨range, value⟩ :: rest) bits ↔
      range.get bits = value % range.capacity ∧ Stores rest bits :=
  List.forall_mem_cons

@[simp]
theorem stores_append (first second : List Assignment) (bits : Encoding) :
    Stores (first ++ second) bits ↔ Stores first bits ∧ Stores second bits :=
  List.forall_mem_append

theorem Stores.mono {writes writes' : List Assignment} {bits : Encoding}
    (stored : Stores writes bits) (fewer : writes' ⊆ writes) : Stores writes' bits :=
  fun write member => stored write (fewer member)

theorem assign_append (first second : List Assignment) (bits : Encoding) :
    bits.assign (first ++ second) = (bits.assign first).assign second :=
  List.foldl_append

theorem get_assign_of_disjoint (range : BitRange) (writes : List Assignment)
    (apart : ∀ write ∈ writes, range.Disjoint write.range) (bits : Encoding) :
    range.get (bits.assign writes) = range.get bits := by
  induction writes generalizing bits with
  | nil => rfl
  | cons write rest ih =>
      rw [List.forall_mem_cons] at apart
      exact (ih apart.2 _).trans (BitRange.get_set_of_disjoint apart.1 _ _)

theorem getLsbD_assign_of_uncovered {writes : List Assignment} {index : Nat}
    (uncovered : ∀ range ∈ writes.map (·.range), ¬range.Covers index) (bits : Encoding) :
    (bits.assign writes).getLsbD index = bits.getLsbD index := by
  induction writes generalizing bits with
  | nil => rfl
  | cons write rest ih =>
      rw [List.map_cons, List.forall_mem_cons] at uncovered
      exact (ih uncovered.2 _).trans
        ((BitRange.getLsbD_set _ _ _ _).trans (if_neg uncovered.1))

-- What becomes of a bit depends on the writes and on that bit alone.
theorem getLsbD_assign_congr (writes : List Assignment) {left right : Encoding} {index : Nat}
    (same : left.getLsbD index = right.getLsbD index) :
    (left.assign writes).getLsbD index = (right.assign writes).getLsbD index := by
  induction writes generalizing left right with
  | nil => exact same
  | cons write rest ih =>
      apply ih
      rw [BitRange.getLsbD_set, BitRange.getLsbD_set, same]

-- A bit inside of a written range does not show what was there before.
theorem getLsbD_assign_of_covered {writes : List Assignment} {index : Nat}
    (covered : ∃ range ∈ writes.map (·.range), range.Covers index) (left right : Encoding) :
    (left.assign writes).getLsbD index = (right.assign writes).getLsbD index := by
  induction writes generalizing left right with
  | nil => simp at covered
  | cons write rest ih =>
      by_cases later : ∃ range ∈ rest.map (·.range), range.Covers index
      · exact ih later _ _
      · obtain ⟨range, member, covers⟩ := covered
        rcases List.mem_cons.mp member with rfl | inRest
        · have inside : write.range.low ≤ index ∧ index ≤ write.range.high := covers
          apply getLsbD_assign_congr rest
          rw [BitRange.getLsbD_set, BitRange.getLsbD_set, if_pos inside, if_pos inside]
        · exact absurd ⟨range, inRest, covers⟩ later

theorem agree_assign {ranges : List BitRange} {writes : List Assignment}
    (apart : Apart ranges (writes.map (·.range))) (bits : Encoding) :
    Agree ranges (bits.assign writes) bits :=
  fun range member => get_assign_of_disjoint range writes
    (fun _ written => apart range member _ (List.mem_map_of_mem written)) bits

/-- Consistent assignments all hold in the end, however often they are repeated. -/
theorem stores_assign {writes : List Assignment} (consistent : Consistent writes)
    (bits : Encoding) : Stores writes (bits.assign writes) := by
  induction writes generalizing bits with
  | nil => nofun
  | cons first rest ih =>
      intro write member
      have later :=
        ih (consistent.mono (List.subset_cons_self _ _)) (first.range.set first.value bits)
      -- A repeated assignment holds because of its later copy. Otherwise everything that
      -- follows is disjoint from it.
      by_cases again : write ∈ rest
      · exact later write again
      · obtain rfl := (List.mem_cons.mp member).resolve_right again
        have apart : ∀ other ∈ rest, write.range.Disjoint other.range := by
          intro other inRest
          rcases consistent write member other (List.mem_cons_of_mem _ inRest) with same | apart
          · exact absurd (same ▸ inRest) again
          · exact apart
        exact (get_assign_of_disjoint _ _ apart _).trans (BitRange.get_set _ _ _)

theorem set_assign_comm (range : BitRange) (value : Nat) (writes : List Assignment)
    (apart : ∀ write ∈ writes, range.Disjoint write.range) (bits : Encoding) :
    range.set value (bits.assign writes) = assign writes (range.set value bits) := by
  induction writes generalizing bits with
  | nil => rfl
  | cons write rest ih =>
      rw [List.forall_mem_cons] at apart
      exact (ih apart.2 _).trans (congrArg (assign rest) (BitRange.set_comm apart.1 _ _ _))

theorem assign_comm {left right : List Assignment}
    (apart : Apart (left.map (·.range)) (right.map (·.range))) (bits : Encoding) :
    (bits.assign right).assign left = (bits.assign left).assign right := by
  induction left generalizing bits with
  | nil => rfl
  | cons write rest ih =>
      have head : ∀ other ∈ right, write.range.Disjoint other.range :=
        fun other member => apart _ List.mem_cons_self _ (List.mem_map_of_mem member)
      have tail := apart.mono (List.subset_cons_self _ _) (List.Subset.refl _)
      calc (bits.assign right).assign (write :: rest)
          = assign rest (write.range.set write.value (bits.assign right)) := rfl
        _ = assign rest (assign right (write.range.set write.value bits)) := by
            rw [set_assign_comm _ _ _ head]
        _ = assign right (assign rest (write.range.set write.value bits)) := ih tail _

theorem assign_perm {left right : List Assignment} (order : left.Perm right)
    (consistent : Consistent left) (bits : Encoding) :
    bits.assign left = bits.assign right := by
  apply order.foldl_eq'
  intro first inFirst second inSecond current
  rcases consistent second inSecond first inFirst with rfl | apart
  · rfl
  · exact BitRange.set_comm apart _ _ _

end Encoding

namespace SplitField

def partAssignments : List Field → Nat → List Assignment
  | [], _ => []
  | part :: rest, value => ⟨part.toBitRange, value⟩ :: partAssignments rest (value >>> part.width)

def assignments (split : SplitField) (value : Nat) : List Assignment :=
  partAssignments split.parts value

def ranges (split : SplitField) : List BitRange :=
  split.parts.map (·.toBitRange)

theorem map_range_partAssignments (parts : List Field) (value : Nat) :
    (partAssignments parts value).map (·.range) = parts.map (·.toBitRange) := by
  induction parts generalizing value with
  | nil => rfl
  | cons part rest ih => exact congrArg (part.toBitRange :: ·) (ih _)

theorem map_range_assignments (split : SplitField) (value : Nat) :
    (split.assignments value).map (·.range) = split.ranges :=
  map_range_partAssignments split.parts value

theorem setParts_eq_assign (parts : List Field) (value : Nat) (bits : Encoding) :
    setParts parts value bits = bits.assign (partAssignments parts value) := by
  induction parts generalizing value bits with
  | nil => rfl
  | cons part rest ih => exact ih _ _

theorem set_eq_assign (split : SplitField) (value : Nat) (bits : Encoding) :
    split.set value bits = bits.assign (split.assignments value) :=
  setParts_eq_assign split.parts value bits

theorem getParts_of_parts (parts : List Field) (value : Nat) (bits : Encoding)
    (stored : bits.Stores (partAssignments parts value)) :
    getParts parts bits = value % Nat.pow 2 (partsWidth parts) := by
  induction parts generalizing value with
  | nil => simp [getParts, partsWidth, Nat.mod_one]
  | cons part rest ih =>
      -- The first part holds the low digits, the others what is shifted out of it.
      obtain ⟨low, high⟩ := (Encoding.stores_cons _ _ _ _).mp stored
      rw [getParts, low, ih _ high, BitRange.capacity_eq, Nat.shiftLeft_eq,
        Nat.shiftRight_eq_div_pow, partsWidth]
      simp only [Nat.pow_eq, Nat.pow_add, Nat.mod_mul]
      rw [Nat.mul_comm]

-- A number is read back whole as soon as each of its parts is.
theorem get_of_parts (split : SplitField) (value : Nat) (bits : Encoding)
    (stored : bits.Stores (split.assignments value)) :
    split.get bits = value % split.capacity := by
  rw [capacity_eq]
  exact getParts_of_parts split.parts value bits stored

theorem getSigned_of_parts (split : SplitField) (value : Int) (bits : Encoding)
    (stored : bits.Stores (split.assignments (BitVec.ofInt split.width value).toNat)) :
    split.getSigned bits = value.bmod split.capacity := by
  rw [getSigned, get_of_parts split _ bits stored, capacity_eq, Nat.pow_eq, ← BitVec.toNat_ofNat,
    BitVec.ofNat_toNat, BitVec.ofNat_toNat, BitVec.setWidth_eq, BitVec.setWidth_eq,
    BitVec.toInt_ofInt]

end SplitField

end ExecUnit
