import ExecUnit.Proofs.Operand.Acceptance
import ExecUnit.Proofs.Operand.Frame
import ExecUnit.Proofs.Operand.TripleCodes

/-!
The operands of a three-source instruction and its flag register can be set in
any order. Each of the five calls is accepted or refused by the opcode and the
access mode, which none of them touches, and makes the same writes wherever it
stands in the order: `callTriple_of_agree` for one call, `callTriples_of_agree` for
a run of them, `callTriples_perm` for all orders.
-/

namespace ExecUnit

open Encoding (Agree)

structure TripleOperands where
  dst : Register
  source : Fin 3 → Register
  flagNumber : Nat
  flagSubreg : Nat

inductive TripleCall where
  | dst
  | source (index : Fin 3)
  | flag
  deriving DecidableEq, Repr

def TripleCall.all : List TripleCall :=
  .dst :: (List.finRange 3).map .source ++ [.flag]

theorem TripleCall.mem_all (call : TripleCall) : call ∈ all := by
  rcases call with - | index | -
  · exact List.mem_cons_self
  · have listed : TripleCall.source index ∈ (List.finRange 3).map .source :=
      List.mem_map_of_mem (List.mem_finRange index)
    exact List.mem_append_left _ (List.mem_cons_of_mem _ listed)
  · exact List.mem_append_right _ List.mem_cons_self

section Types

def Generation.HasTripleType (gen : Generation) (type : DataType) : Prop :=
  if gen.hasThreeSourceTypes then ∃ number, type.threeSourceCode? = some number else type = .f

def Generation.typeAssignments (gen : Generation) (field : Field) (type : DataType) :
    List Assignment :=
  match gen.hasThreeSourceTypes, type.threeSourceCode? with
  | true, some number => [⟨field.toBitRange, number⟩]
  | _, _ => []

theorem Generation.typeAssignments_sublist (gen : Generation) (field : Field)
    (type : DataType) :
    ((gen.typeAssignments field type).map (·.range)).Sublist [field.toBitRange] := by
  unfold typeAssignments
  split <;> simp

theorem Instruction.setTripleType_eq_ok_iff (field : Field) (type : DataType)
    (instr written : Instruction) :
    instr.setTripleType field type = .ok written ↔
      instr.gen.HasTripleType type ∧
        written = ⟨instr.gen, instr.bits.assign (instr.gen.typeAssignments field type)⟩ := by
  unfold setTripleType Generation.HasTripleType Generation.typeAssignments
  cases instr.gen.hasThreeSourceTypes with
  | true =>
      simp only [↓reduceIte, bind_eq_ok_iff, pure_eq_ok_iff, orRefuse_eq_ok_iff]
      constructor
      · rintro ⟨number, found, rfl⟩
        exact ⟨⟨number, found⟩, by rw [found]; rfl⟩
      · rintro ⟨⟨number, found⟩, rfl⟩
        exact ⟨number, found, by rw [found]; rfl⟩
  | false =>
      simp only [Bool.false_eq_true, ↓reduceIte, bind_eq_ok_iff, pure_eq_ok_iff, demand_eq_ok_iff]
      constructor
      · rintro ⟨-, float, rfl⟩
        exact ⟨float, rfl⟩
      · rintro ⟨float, rfl⟩
        exact ⟨(), float, rfl⟩

end Types

namespace Instruction

section Calls

theorem checkTriple_eq_ok_iff (register : Register) (instr : Instruction) :
    instr.checkTriple register = .ok () ↔
      instr.gen.hasThreeSource = true ∧ instr.accessMode = .align16 ∧ register.file = .general ∧
        register.addressing = .direct ∧ register.offset % 4 = 0 := by
  simp [checkTriple, bind_eq_ok_iff, demand_eq_ok_iff]

theorem setTripleDestination_eq_ok_iff (register : Register) (instr written : Instruction) :
    instr.setTripleDestination register = .ok written ↔
      ∃ placed, register.placed instr.gen = .ok placed ∧ instr.checkTriple placed = .ok () ∧
        instr.gen.HasTripleType placed.type ∧
        written = ⟨instr.gen, instr.bits.assign
          (instr.layout.triple.destinationAssignments placed.tripleDestinationCodes ++
            instr.gen.typeAssignments instr.layout.triple.type placed.type)⟩ := by
  simp only [setTripleDestination, bind_eq_ok_iff, setTripleType_eq_ok_iff,
    Encoding.assign_append, TripleFields.writeDestination_eq_assign]
  constructor
  · rintro ⟨placed, isPlaced, _, checked, typed, rfl⟩
    exact ⟨placed, isPlaced, checked, typed, rfl⟩
  · rintro ⟨placed, isPlaced, checked, typed, rfl⟩
    exact ⟨placed, isPlaced, (), checked, typed, rfl⟩

theorem setTripleSource_eq_ok_iff (index : Fin 3) (register : Register)
    (instr written : Instruction) :
    instr.setTripleSource index register = .ok written ↔
      ∃ placed, register.placed instr.gen = .ok placed ∧ instr.checkTriple placed = .ok () ∧
        instr.gen.HasTripleType placed.type ∧
        written = ⟨instr.gen, instr.bits.assign
          ((instr.layout.triple.source index).assignments placed.tripleSourceCodes ++
            instr.gen.typeAssignments instr.layout.triple.sourceType placed.type)⟩ := by
  have indexed : sourceIndex index = .ok index := dif_pos index.isLt
  simp only [setTripleSource, bind_eq_ok_iff, setTripleType_eq_ok_iff, indexed,
    Encoding.assign_append, TripleSourceFields.write_eq_assign]
  constructor
  · rintro ⟨placed, isPlaced, _, checked, found, same, typed, rfl⟩
    obtain rfl : index = found := Except.ok.inj same
    exact ⟨placed, isPlaced, checked, typed, rfl⟩
  · rintro ⟨placed, isPlaced, checked, typed, rfl⟩
    exact ⟨placed, isPlaced, (), checked, index, rfl, typed, rfl⟩

theorem setFlagRegister_eq_ok_iff (number subreg : Nat) (instr written : Instruction) :
    instr.setFlagRegister number subreg = .ok written ↔
      (number ≤ 1 ∧ subreg ≤ 1) ∧ (number = 0 ∨ instr.gen.hasSecondFlag = true) ∧
        written = ⟨instr.gen, instr.bits.assign [⟨instr.flagFields.number.toBitRange, number⟩,
          ⟨instr.flagFields.subreg.toBitRange, subreg⟩]⟩ := by
  simp only [setFlagRegister, bind_eq_ok_iff, pure_eq_ok_iff, demand_eq_ok_iff]
  constructor
  · rintro ⟨-, small, -, available, rfl⟩
    exact ⟨small, available, rfl⟩
  · rintro ⟨small, available, rfl⟩
    exact ⟨(), small, (), available, rfl⟩

def callTriple (operands : TripleOperands) (call : TripleCall) (instr : Instruction) :
    Except Refusal Instruction :=
  match call with
  | .dst => instr.setTripleDestination operands.dst
  | .source index => instr.setTripleSource index (operands.source index)
  | .flag => instr.setFlagRegister operands.flagNumber operands.flagSubreg

def callTriples (operands : TripleOperands) (calls : List TripleCall) (instr : Instruction) :
    Except Refusal Instruction :=
  calls.foldlM (fun instr call => instr.callTriple operands call) instr

end Calls

end Instruction

namespace TripleOperands

variable (operands : TripleOperands) (gen : Generation)

def placedDst : Register :=
  operands.dst.withoutMessageFile gen

def placedSource (index : Fin 3) : Register :=
  (operands.source index).withoutMessageFile gen

def sourceAssignments (index : Fin 3) : List Assignment :=
  (gen.layout.triple.source index).assignments (operands.placedSource gen index).tripleSourceCodes

def flagAssignments : List Assignment :=
  [⟨gen.layout.triple.flag.number.toBitRange, operands.flagNumber⟩,
    ⟨gen.layout.triple.flag.subreg.toBitRange, operands.flagSubreg⟩]

/-- What a call writes. Every source also writes the type of all sources. -/
def assignments : TripleCall → List Assignment
  | .dst =>
      gen.layout.triple.destinationAssignments (operands.placedDst gen).tripleDestinationCodes ++
        gen.typeAssignments gen.layout.triple.type (operands.placedDst gen).type
  | .source index =>
      operands.sourceAssignments gen index ++
        gen.typeAssignments gen.layout.triple.sourceType (operands.placedSource gen index).type
  | .flag => operands.flagAssignments gen

def allAssignments (type : DataType) : List Assignment :=
  operands.flagAssignments gen ++
    gen.layout.triple.destinationAssignments (operands.placedDst gen).tripleDestinationCodes ++
    gen.typeAssignments gen.layout.triple.type (operands.placedDst gen).type ++
    gen.typeAssignments gen.layout.triple.sourceType type ++
    (List.finRange 3).flatMap (operands.sourceAssignments gen)

theorem allAssignments_sublist (type : DataType) :
    ((operands.allAssignments gen type).map (·.range)).Sublist gen.layout.triple.ranges := by
  have whole : ∀ index, (operands.sourceAssignments gen index).map (·.range) =
      (gen.layout.triple.source index).ranges :=
    fun index => TripleSourceFields.map_range_assignments _ _
  simp only [allAssignments, List.map_append, List.map_flatMap, whole]
  -- Without type fields the list is shorter than the ranges.
  have dstType := gen.typeAssignments_sublist gen.layout.triple.type (operands.placedDst gen).type
  have sourceType := gen.typeAssignments_sublist gen.layout.triple.sourceType type
  exact ((List.Sublist.refl _).append dstType).append sourceType |>.append (List.Sublist.refl _)

theorem consistent_allAssignments (type : DataType) :
    Consistent (operands.allAssignments gen type) :=
  consistent_of_separate
    (gen.layoutKind.triple_separated.sublist (operands.allAssignments_sublist gen type))

variable {type : DataType}

theorem placedSource_type (shared : ∀ index, (operands.source index).type = type)
    (index : Fin 3) : (operands.placedSource gen index).type = type :=
  (Register.withoutMessageFile_type gen _).trans (shared index)

theorem mem_allAssignments_of_call (shared : ∀ index, (operands.source index).type = type)
    (call : TripleCall) {write : Assignment} (member : write ∈ operands.assignments gen call) :
    write ∈ operands.allAssignments gen type := by
  simp only [allAssignments, List.mem_append, List.mem_flatMap]
  rcases call with - | index | -
  · rcases List.mem_append.mp member with inDst | inType
    · exact Or.inl (Or.inl (Or.inl (Or.inr inDst)))
    · exact Or.inl (Or.inl (Or.inr inType))
  · rcases List.mem_append.mp member with inSource | inType
    · exact Or.inr ⟨index, List.mem_finRange index, inSource⟩
    · rw [operands.placedSource_type gen shared] at inType
      exact Or.inl (Or.inr inType)
  · exact Or.inl (Or.inl (Or.inl (Or.inl member)))

theorem exists_call_of_mem (shared : ∀ index, (operands.source index).type = type)
    {write : Assignment} (member : write ∈ operands.allAssignments gen type) :
    ∃ call, write ∈ operands.assignments gen call := by
  simp only [allAssignments, List.mem_append, List.mem_flatMap] at member
  rcases member with (((inFlag | inDst) | inType) | inType) | ⟨index, -, inSource⟩
  · exact ⟨.flag, inFlag⟩
  · exact ⟨.dst, List.mem_append_left _ inDst⟩
  · exact ⟨.dst, List.mem_append_right _ inType⟩
  · rw [← operands.placedSource_type gen shared ⟨0, by decide⟩] at inType
    exact ⟨.source ⟨0, by decide⟩, List.mem_append_right _ inType⟩
  · exact ⟨.source index, List.mem_append_left _ inSource⟩

-- Up to order and repetition, the calls together write `allAssignments`.
theorem mem_assignments_iff (shared : ∀ index, (operands.source index).type = type)
    (write : Assignment) :
    write ∈ TripleCall.all.flatMap (operands.assignments gen) ↔
      write ∈ operands.allAssignments gen type := by
  rw [List.mem_flatMap]
  constructor
  · rintro ⟨call, -, member⟩
    exact operands.mem_allAssignments_of_call gen shared call member
  · intro member
    obtain ⟨call, written⟩ := operands.exists_call_of_mem gen shared member
    exact ⟨call, call.mem_all, written⟩

theorem assignments_subset (shared : ∀ index, (operands.source index).type = type)
    (call : TripleCall) : operands.assignments gen call ⊆ operands.allAssignments gen type :=
  fun _ member => operands.mem_allAssignments_of_call gen shared call member

theorem form_agree {writes : List Assignment} (within : writes ⊆ operands.allAssignments gen type)
    (bits : Encoding) : Agree gen.layout.header.formRanges (bits.assign writes) bits := by
  have ranges := List.Subset.trans (List.map_subset (·.range) within)
    (operands.allAssignments_sublist gen type).subset
  exact Encoding.agree_assign (gen.layoutKind.form_apart_triple.mono (List.Subset.refl _) ranges)
    bits

end TripleOperands

namespace Instruction

section Runs

variable {gen : Generation} {operands : TripleOperands} {base : Encoding}

theorem flagFields_of_threeSource {instr : Instruction} (threeSource : instr.isThreeSource = true) :
    instr.flagFields = instr.layout.triple.flag :=
  if_pos threeSource

theorem checkTriple_of_agree {bits : Encoding} (register : Register)
    (agree : Agree gen.layout.header.formRanges bits base) :
    checkTriple register ⟨gen, bits⟩ = checkTriple register ⟨gen, base⟩ := by
  have mode : accessMode ⟨gen, bits⟩ = accessMode ⟨gen, base⟩ :=
    accessMode_of_agree (agree _ (List.mem_cons_of_mem _ List.mem_cons_self))
  unfold checkTriple
  rw [mode]

-- A call that is accepted once is accepted, with the same writes, on all bits with the same opcode
-- and access mode.
theorem callTriple_of_agree (threeSource : isThreeSource ⟨gen, base⟩ = true) {call : TripleCall}
    {written : Instruction} (accepted : callTriple operands call ⟨gen, base⟩ = .ok written)
    {bits : Encoding} (agree : Agree gen.layout.header.formRanges bits base) :
    callTriple operands call ⟨gen, bits⟩ =
      .ok ⟨gen, bits.assign (operands.assignments gen call)⟩ := by
  rcases call with - | index | -
  · obtain ⟨placed, isPlaced, checked, typed, -⟩ :=
      (setTripleDestination_eq_ok_iff _ _ _).mp accepted
    rw [← checkTriple_of_agree placed agree] at checked
    obtain ⟨rfl, -⟩ := (Register.placed_eq_ok_iff _ _ _).mp isPlaced
    exact (setTripleDestination_eq_ok_iff _ _ _).mpr ⟨_, isPlaced, checked, typed, rfl⟩
  · obtain ⟨placed, isPlaced, checked, typed, -⟩ :=
      (setTripleSource_eq_ok_iff _ _ _ _).mp accepted
    rw [← checkTriple_of_agree placed agree] at checked
    obtain ⟨rfl, -⟩ := (Register.placed_eq_ok_iff _ _ _).mp isPlaced
    exact (setTripleSource_eq_ok_iff _ _ _ _).mpr ⟨_, isPlaced, checked, typed, rfl⟩
  · -- The opcode also decides which fields are those of the flag register.
    obtain ⟨small, available, -⟩ := (setFlagRegister_eq_ok_iff _ _ _ _).mp accepted
    have opcode : isThreeSource ⟨gen, bits⟩ = isThreeSource ⟨gen, base⟩ :=
      isThreeSource_of_agree (agree _ List.mem_cons_self)
    have fields : flagFields ⟨gen, bits⟩ = gen.layout.triple.flag :=
      flagFields_of_threeSource (opcode.trans threeSource)
    refine (setFlagRegister_eq_ok_iff _ _ _ _).mpr ⟨small, available, ?_⟩
    rw [fields]
    rfl

theorem callTriples_of_agree {type : DataType}
    (shared : ∀ index, (operands.source index).type = type)
    (threeSource : isThreeSource ⟨gen, base⟩ = true)
    (accepted : ∀ call, ∃ written, callTriple operands call ⟨gen, base⟩ = .ok written)
    (calls : List TripleCall) {bits : Encoding}
    (agree : Agree gen.layout.header.formRanges bits base) :
    callTriples operands calls ⟨gen, bits⟩ =
      .ok ⟨gen, bits.assign (calls.flatMap (operands.assignments gen))⟩ := by
  induction calls generalizing bits with
  | nil => rfl
  | cons call rest ih =>
      obtain ⟨written, isWritten⟩ := accepted call
      have first := callTriple_of_agree threeSource isWritten agree
      -- The call leaves alone what the remaining calls are judged by.
      have untouched := operands.form_agree gen (operands.assignments_subset gen shared call) bits
      have later := ih fun range member => (untouched range member).trans (agree range member)
      rw [List.flatMap_cons, Encoding.assign_append, ← later]
      exact (congrArg (· >>= callTriples operands rest) first)

theorem callTriples_perm {type : DataType}
    (shared : ∀ index, (operands.source index).type = type)
    (threeSource : isThreeSource ⟨gen, base⟩ = true)
    (accepted : ∀ call, ∃ written, callTriple operands call ⟨gen, base⟩ = .ok written)
    {order : List TripleCall} (perm : order.Perm TripleCall.all) :
    callTriples operands order ⟨gen, base⟩ =
      .ok ⟨gen, base.assign (TripleCall.all.flatMap (operands.assignments gen))⟩ := by
  have consistent : Consistent (order.flatMap (operands.assignments gen)) :=
    (operands.consistent_allAssignments gen type).mono fun write member =>
      (operands.mem_assignments_iff gen shared write).mp ((perm.flatMap_right _).subset member)
  rw [callTriples_of_agree shared threeSource accepted order fun _ _ => rfl,
    Encoding.assign_perm (perm.flatMap_right _) consistent]

theorem stores_allAssignments (gen : Generation) {type : DataType}
    (shared : ∀ index, (operands.source index).type = type) (bits : Encoding) :
    (bits.assign (TripleCall.all.flatMap (operands.assignments gen))).Stores
      (operands.allAssignments gen type) := by
  have consistent : Consistent (TripleCall.all.flatMap (operands.assignments gen)) :=
    (operands.consistent_allAssignments gen type).mono fun write member =>
      (operands.mem_assignments_iff gen shared write).mp member
  exact (Encoding.stores_assign consistent bits).mono fun write member =>
    (operands.mem_assignments_iff gen shared write).mpr member

end Runs

end Instruction

end ExecUnit
