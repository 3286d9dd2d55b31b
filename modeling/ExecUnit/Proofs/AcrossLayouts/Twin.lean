import ExecUnit.Proofs.Operand.Frame

/-!
Two runs side by side. `Matched` relates two calls: both are accepted, with related results,
or both are refused. `Twin` relates two encodings whose paired ranges hold the same numbers;
paired writes keep it (`Twin.assign`), and so do writes elsewhere (`Twin.of_agree`).
-/

namespace ExecUnit

open Encoding (Agree)

/-- Two results that are accepted or refused together. The refusals may differ in wording. -/
inductive Matched {α β : Type} (related : α → β → Prop) :
    Except Refusal α → Except Refusal β → Prop where
  | accepted {left : α} {right : β} (same : related left right) :
      Matched related (.ok left) (.ok right)
  | refused (left right : Refusal) : Matched related (.error left) (.error right)

namespace Matched

variable {α β γ δ : Type} {related : α → β → Prop} {left : Except Refusal α}
  {right : Except Refusal β}

theorem bind {later : γ → δ → Prop} (matched : Matched related left right)
    {next : α → Except Refusal γ} {next' : β → Except Refusal δ}
    (step : ∀ first second, related first second → Matched later (next first) (next' second)) :
    Matched later (left >>= next) (right >>= next') := by
  cases matched with
  | accepted same => exact step _ _ same
  | refused one other => exact refused one other

theorem demand {condition condition' : Prop} [Decidable condition] [Decidable condition']
    (same : condition ↔ condition') (one other : Refusal) :
    Matched (fun _ _ => True) (demand condition one) (ExecUnit.demand condition' other) := by
  unfold ExecUnit.demand
  by_cases holds : condition
  · rw [if_pos holds, if_pos (same.mp holds)]
    exact accepted trivial
  · rw [if_neg holds, if_neg fun holds' => holds (same.mpr holds')]
    exact refused one other

theorem bind_same {later : γ → δ → Prop} (result : Except Refusal α)
    {next : α → Except Refusal γ} {next' : α → Except Refusal δ}
    (step : ∀ value, result = .ok value → Matched later (next value) (next' value)) :
    Matched later (result >>= next) (result >>= next') := by
  cases result with
  | ok value => exact step value rfl
  | error refusal => exact refused refusal refusal

theorem imp {weaker : α → β → Prop} (matched : Matched related left right)
    (implies : ∀ first second, related first second → weaker first second) :
    Matched weaker left right := by
  cases matched with
  | accepted same => exact accepted (implies _ _ same)
  | refused one other => exact refused one other

theorem of_ok_iff {condition : Prop} {first : α} {second : β}
    (inLeft : ∀ result, left = .ok result ↔ condition ∧ result = first)
    (inRight : ∀ result, right = .ok result ↔ condition ∧ result = second)
    (same : condition → related first second) : Matched related left right := by
  by_cases holds : condition
  · rw [(inLeft first).mpr ⟨holds, rfl⟩, (inRight second).mpr ⟨holds, rfl⟩]
    exact accepted (same holds)
  · cases left with
    | ok result => exact absurd ((inLeft result).mp rfl).1 holds
    | error one =>
        cases right with
        | ok result => exact absurd ((inRight result).mp rfl).1 holds
        | error other => exact refused one other

theorem foldlM {Call : Type} {run : α → Call → Except Refusal α} {run' : β → Call → Except Refusal β}
    (step : ∀ first second call, related first second →
      Matched related (run first call) (run' second call))
    (calls : List Call) {first : α} {second : β} (same : related first second) :
    Matched related (calls.foldlM run first) (calls.foldlM run' second) := by
  induction calls generalizing first second with
  | nil => exact accepted same
  | cons call rest ih =>
      rw [List.foldlM_cons, List.foldlM_cons]
      exact (step first second call same).bind fun _ _ later => ih later

theorem accepted_iff (matched : Matched related left right) :
    (∃ value, left = .ok value) ↔ ∃ value, right = .ok value := by
  cases matched with
  | accepted same => exact ⟨fun _ => ⟨_, rfl⟩, fun _ => ⟨_, rfl⟩⟩
  | refused one other =>
      constructor
      · rintro ⟨value, accepted⟩
        cases accepted
      · rintro ⟨value, accepted⟩
        cases accepted

theorem related_of_ok {value : α} {value' : β} (matched : Matched related (.ok value) (.ok value')) :
    related value value' := by
  cases matched with
  | accepted same => exact same

end Matched

structure RangePair where
  left : BitRange
  right : BitRange
  deriving DecidableEq, Repr

def pairUp (left right : List BitRange) : List RangePair :=
  List.zipWith RangePair.mk left right

structure PairedWrite where
  pair : RangePair
  value : Nat

namespace PairedWrite

def left (write : PairedWrite) : Assignment :=
  ⟨write.pair.left, write.value⟩

def right (write : PairedWrite) : Assignment :=
  ⟨write.pair.right, write.value⟩

def Fits (write : PairedWrite) : Prop :=
  write.value % write.pair.left.capacity = write.value % write.pair.right.capacity

end PairedWrite

/-- No two pairs of the list overlap on either side. -/
structure Aligned (pairs : List RangePair) : Prop where
  left : Separate (pairs.map (·.left))
  right : Separate (pairs.map (·.right))

instance (pairs : List RangePair) : Decidable (Aligned pairs) :=
  decidable_of_iff (Separate (pairs.map (·.left)) ∧ Separate (pairs.map (·.right)))
    ⟨fun both => ⟨both.1, both.2⟩, fun aligned => ⟨aligned.left, aligned.right⟩⟩

/-- The same pair, or two that overlap on neither side. -/
def RangePair.Compatible (first second : RangePair) : Prop :=
  first = second ∨ first.left.Disjoint second.left ∧ first.right.Disjoint second.right

theorem Aligned.compatible {pairs : List RangePair} (aligned : Aligned pairs) :
    ∀ first ∈ pairs, ∀ second ∈ pairs, first.Compatible second := by
  intro first inFirst second inSecond
  have apart := (List.pairwise_map.mp aligned.left).and (List.pairwise_map.mp aligned.right)
  have forward : pairs.Pairwise RangePair.Compatible := apart.imp Or.inr
  have backward : pairs.Pairwise (flip RangePair.Compatible) :=
    apart.imp fun both => Or.inr ⟨both.1.swap, both.2.swap⟩
  have reflexive : ∀ pair ∈ pairs, pair.Compatible pair := fun _ _ => Or.inl rfl
  exact List.Pairwise.forall_of_forall_of_flip reflexive forward backward inFirst inSecond

/-- Paired ranges hold the same numbers. -/
def Twin (pairs : List RangePair) (left right : Encoding) : Prop :=
  ∀ pair ∈ pairs, pair.left.get left = pair.right.get right

namespace Twin

variable {pairs : List RangePair} {left right left' right' : Encoding}

theorem zero (pairs : List RangePair) : Twin pairs 0 0 := by
  intro pair _
  have empty : ∀ range : BitRange, range.get 0 = 0 := by
    intro range
    simp [BitRange.get]
  rw [empty, empty]

theorem mono (twin : Twin pairs left right) {pairs' : List RangePair} (fewer : pairs' ⊆ pairs) :
    Twin pairs' left right :=
  fun pair member => twin pair (fewer member)

theorem of_agree (twin : Twin pairs left right)
    (inLeft : Agree (pairs.map (·.left)) left' left)
    (inRight : Agree (pairs.map (·.right)) right' right) : Twin pairs left' right' := by
  intro pair member
  rw [inLeft _ (List.mem_map_of_mem member), inRight _ (List.mem_map_of_mem member)]
  exact twin pair member

theorem set (twin : Twin pairs left right) (aligned : Aligned pairs) (write : PairedWrite)
    (member : write.pair ∈ pairs) (fits : write.Fits) :
    Twin pairs (write.pair.left.set write.value left) (write.pair.right.set write.value right) := by
  intro pair inPairs
  rcases aligned.compatible pair inPairs _ member with rfl | ⟨inLeft, inRight⟩
  · rw [BitRange.get_set, BitRange.get_set]
    exact fits
  · rw [BitRange.get_set_of_disjoint inLeft, BitRange.get_set_of_disjoint inRight]
    exact twin pair inPairs

theorem assign (aligned : Aligned pairs) {writes : List PairedWrite}
    (within : ∀ write ∈ writes, write.pair ∈ pairs ∧ write.Fits) (twin : Twin pairs left right) :
    Twin pairs (left.assign (writes.map (·.left))) (right.assign (writes.map (·.right))) := by
  induction writes generalizing left right with
  | nil => exact twin
  | cons write rest ih =>
      rw [List.forall_mem_cons] at within
      exact ih within.2 (twin.set aligned write within.1.1 within.1.2)

end Twin

end ExecUnit
