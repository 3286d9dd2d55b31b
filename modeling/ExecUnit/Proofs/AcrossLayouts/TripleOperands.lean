import ExecUnit.Proofs.AcrossLayouts.PlainOperands
import ExecUnit.Proofs.Operand.TripleRoundTrip

/-!
Operands of three-source instructions, set in both layouts. Their fields pair up, so the
layouts hold the same numbers, and an operand decodes as soon as its type does
(`setTripleDestination_matched`, `setTripleSource_matched`).
-/

namespace ExecUnit

section Readers

variable {left right : Encoding}

theorem SplitField.getParts_of_twin {parts parts' : List Field}
    (widths : parts.map (·.width) = parts'.map (·.width))
    (twin : Twin (pairUp (parts.map (·.toBitRange)) (parts'.map (·.toBitRange))) left right) :
    getParts parts left = getParts parts' right := by
  induction parts generalizing parts' with
  | nil =>
      obtain rfl := List.map_eq_nil_iff.mp widths.symm
      rfl
  | cons part rest ih =>
      cases parts' with
      | nil => cases widths
      | cons part' rest' =>
          obtain ⟨width, widths⟩ := List.cons_eq_cons.mp widths
          obtain ⟨first, later⟩ := List.forall_mem_cons.mp twin
          have width : part.width = part'.width := width
          have low : part.get left = part'.get right := first
          rw [getParts, getParts, low, ih widths later, width]

theorem TripleSourceFields.read_of_twin {fields fields' : TripleSourceFields}
    (widths : fields.subreg.parts.map (·.width) = fields'.subreg.parts.map (·.width))
    (twin : Twin (pairUp fields.ranges fields'.ranges) left right) :
    fields.read left = fields'.read right := by
  have parts : fields.subreg.ranges.length = fields'.subreg.ranges.length := by
    simpa [SplitField.ranges] using congrArg List.length widths
  have before : ([fields.number.toBitRange] ++ fields.subreg.ranges).length =
      ([fields'.number.toBitRange] ++ fields'.subreg.ranges).length := by
    simp [parts]
  rw [ranges, ranges, pairUp, List.zipWith_append before, List.singleton_append,
    List.singleton_append, List.zipWith_cons_cons, Twin, List.forall_mem_append,
    List.forall_mem_cons] at twin
  obtain ⟨⟨number, inSubreg⟩, rest⟩ := twin
  have subreg : fields.subreg.get left = fields'.subreg.get right :=
    SplitField.getParts_of_twin widths inSubreg
  simp only [List.zipWith_cons_cons, List.forall_mem_cons] at number rest
  obtain ⟨swizzle, replicate, negate, abs, -⟩ := rest
  rw [read, read, number, subreg, swizzle, replicate, negate, abs]

theorem TripleFields.readDestination_of_twin {fields fields' : TripleFields}
    (twin : Twin (pairUp fields.destinationRanges fields'.destinationRanges) left right) :
    fields.readDestination left = fields'.readDestination right := by
  simp only [Twin, pairUp, destinationRanges, List.zipWith_cons_cons, List.forall_mem_cons] at twin
  obtain ⟨number, subreg, writeMask, -⟩ := twin
  rw [readDestination, readDestination, number, subreg, writeMask]

end Readers

section Writes

def pairWrites (writes writes' : List Assignment) : List PairedWrite :=
  List.zipWith (fun write write' => ⟨⟨write.range, write'.range⟩, write.value⟩) writes writes'

theorem map_pairWrites {writes writes' : List Assignment}
    (values : writes.map (·.value) = writes'.map (·.value)) :
    (pairWrites writes writes').map (·.left) = writes ∧
      (pairWrites writes writes').map (·.right) = writes' := by
  induction writes generalizing writes' with
  | nil =>
      obtain rfl := List.map_eq_nil_iff.mp values.symm
      exact ⟨rfl, rfl⟩
  | cons write rest ih =>
      cases writes' with
      | nil => cases values
      | cons write' rest' =>
          obtain ⟨value, values⟩ := List.cons_eq_cons.mp values
          obtain ⟨inLeft, inRight⟩ := ih values
          have second : (⟨write'.range, write.value⟩ : Assignment) = write' := by
            rw [show write.value = write'.value from value]
          exact ⟨congrArg (write :: ·) inLeft, List.cons_eq_cons.mpr ⟨second, inRight⟩⟩

theorem map_pair_pairWrites (writes writes' : List Assignment) :
    (pairWrites writes writes').map (·.pair) =
      pairUp (writes.map (·.range)) (writes'.map (·.range)) := by
  rw [pairWrites, pairUp, List.map_zipWith, List.zipWith_map]

end Writes

namespace Twins

variable {opcode : Opcode} {left right : Encoding}

theorem assign_same (twins : Twins opcode left right) {writes writes' : List Assignment}
    (values : writes.map (·.value) = writes'.map (·.value))
    (ranges : ∀ pair ∈ pairUp (writes.map (·.range)) (writes'.map (·.range)),
      pair ∈ sharedPairs opcode.isThreeSource ∧ pair.left.capacity = pair.right.capacity) :
    Twins opcode (left.assign writes) (right.assign writes') := by
  obtain ⟨inLeft, inRight⟩ := map_pairWrites values
  rw [← map_pair_pairWrites, List.forall_mem_map] at ranges
  have both : ∀ write ∈ pairWrites writes writes',
      write.pair ∈ sharedPairs opcode.isThreeSource ∧ write.Fits := by
    intro write member
    obtain ⟨shared, room⟩ := ranges write member
    exact ⟨shared, congrArg (write.value % ·) room⟩
  have after := twins.assign both
  rwa [inLeft, inRight] at after

theorem tripleDestination (twins : Twins opcode left right)
    (threeSource : opcode.isThreeSource = true) (codes : TripleFields.DestinationCodes) :
    Twins opcode (left.assign (Layout.gen4.triple.destinationAssignments codes))
      (right.assign (Layout.gen8.triple.destinationAssignments codes)) := by
  have ranges : ∀ pair ∈ pairUp Layout.gen4.triple.destinationRanges
      Layout.gen8.triple.destinationRanges,
      pair ∈ sharedPairs true ∧ pair.left.capacity = pair.right.capacity := by
    decide
  rw [← threeSource] at ranges
  exact twins.assign_same rfl ranges

theorem tripleSource (twins : Twins opcode left right)
    (threeSource : opcode.isThreeSource = true) (index : Fin 3) (codes : TripleSourceCodes) :
    Twins opcode (left.assign ((Layout.gen4.triple.source index).assignments codes))
      (right.assign ((Layout.gen8.triple.source index).assignments codes)) := by
  have ranges : ∀ pair ∈ pairUp (Layout.gen4.triple.source index).ranges
      (Layout.gen8.triple.source index).ranges,
      pair ∈ sharedPairs true ∧ pair.left.capacity = pair.right.capacity := by
    revert index
    decide
  have values : ((Layout.gen4.triple.source index).assignments codes).map (·.value) =
      ((Layout.gen8.triple.source index).assignments codes).map (·.value) := by
    match index with
    | 0 | 1 | 2 => rfl
  rw [← threeSource] at ranges
  apply twins.assign_same values
  rwa [TripleSourceFields.map_range_assignments, TripleSourceFields.map_range_assignments]

theorem tripleType (twins : Twins opcode left right) (select : Layout → Field)
    (member : fieldPair select ∈ sharedPairs opcode.isThreeSource)
    (room : 4 ≤ (select .gen4).capacity) (room' : 4 ≤ (select .gen8).capacity) (type : DataType) :
    Twins opcode (left.assign (Generation.gen7.typeAssignments (select .gen4) type))
      (right.assign (Generation.gen8.typeAssignments (select .gen8) type)) := by
  -- Type fields differ in room, but all numbers of types fit both.
  cases found : type.threeSourceCode? with
  | none =>
      have nothing : ∀ gen field, Generation.typeAssignments gen field type = [] := by
        intro gen field
        simp [Generation.typeAssignments, found]
      rw [nothing, nothing]
      exact twins
  | some number =>
      have written : ∀ gen field, gen.hasThreeSourceTypes = true →
          Generation.typeAssignments gen field type = [⟨field.toBitRange, number⟩] := by
        intro gen field has
        simp [Generation.typeAssignments, found, has]
      have small := DataType.threeSourceCode?_lt found
      have fits : number % (select .gen4).capacity = number % (select .gen8).capacity := by
        rw [Nat.mod_eq_of_lt (Nat.lt_of_lt_of_le small room),
          Nat.mod_eq_of_lt (Nat.lt_of_lt_of_le small room')]
      rw [written _ _ rfl, written _ _ rfl]
      exact twins.set_field select member number fits

end Twins

namespace Instruction

variable {opcode : Opcode} {kinds : List OperandKind} {left right : Encoding}

theorem checkTriple_of_twins (twins : Twins opcode left right) (register : Register) :
    checkTriple register ⟨.gen7, left⟩ = checkTriple register ⟨.gen8, right⟩ := by
  unfold checkTriple
  rw [accessMode_of_twins twins]
  rfl

section Types

variable {gen : Generation} {field : Field} {type : DataType}

theorem tripleType_of_get (same : field.get left = field.get right) :
    tripleType field ⟨gen, left⟩ = tripleType field ⟨gen, right⟩ := by
  have same : get field ⟨gen, left⟩ = get field ⟨gen, right⟩ := same
  rw [tripleType, tripleType, same]

theorem tripleType_of_assign (room : 4 ≤ field.capacity) (typed : gen.HasTripleType type)
    (bits : Encoding) :
    tripleType field ⟨gen, bits.assign (gen.typeAssignments field type)⟩ = .ok type := by
  have single : Separate [field.toBitRange] := List.pairwise_singleton _ _
  have consistent :=
    consistent_of_separate (single.sublist (gen.typeAssignments_sublist field type))
  exact tripleType_of_stores room typed (Encoding.stores_assign consistent bits)

theorem tripleType_of_twins (twins : Twins opcode left right) (select : Layout → Field)
    (member : fieldPair select ∈ sharedPairs opcode.isThreeSource)
    (typed : tripleType (select .gen4) ⟨.gen7, left⟩ = .ok type) :
    tripleType (select .gen8) ⟨.gen8, right⟩ = .ok type := by
  have same := twins.get_eq select member
  have found : DataType.ofThreeSourceCode? ((select .gen4).get left) = some type :=
    (orFault_eq_ok_iff _ _ _ _).mp typed
  rw [same] at found
  exact (orFault_eq_ok_iff (select .gen8) _ _ _).mpr found

theorem setTripleType_matched (twins : Twins opcode left right) (select : Layout → Field)
    (member : fieldPair select ∈ sharedPairs opcode.isThreeSource)
    (room : 4 ≤ (select .gen4).capacity) (room' : 4 ≤ (select .gen8).capacity) (type : DataType) :
    Matched (SideBySide fun left' right' => Twins opcode left' right' ∧
        left' = left.assign (Generation.gen7.typeAssignments (select .gen4) type) ∧
        tripleType (select .gen4) ⟨.gen7, left'⟩ = .ok type)
      (setTripleType (select .gen4) type ⟨.gen7, left⟩)
      (setTripleType (select .gen8) type ⟨.gen8, right⟩) := by
  -- Both generations type their three-source operands, so they accept the same types.
  refine .of_ok_iff (setTripleType_eq_ok_iff _ type ⟨.gen7, left⟩)
    (setTripleType_eq_ok_iff _ type ⟨.gen8, right⟩) fun typed => ?_
  exact ⟨_, _, rfl, rfl, twins.tripleType select member room room' type, rfl,
    tripleType_of_assign room typed left⟩

end Types

theorem typePairs_mem (threeSource : opcode.isThreeSource = true) :
    fieldPair (·.triple.type) ∈ sharedPairs opcode.isThreeSource ∧
      fieldPair (·.triple.sourceType) ∈ sharedPairs opcode.isThreeSource := by
  rw [threeSource]
  decide

section Decoding

variable (twins : Twins opcode left right) (threeSource : opcode.isThreeSource = true)
  {type : DataType}
include twins threeSource

theorem tripleDestination_of_twins
    (typed : tripleType Layout.gen4.triple.type ⟨.gen7, left⟩ = .ok type) :
    ∃ register, operand .tripleDestination ⟨.gen7, left⟩ = .ok register ∧
      operand .tripleDestination ⟨.gen8, right⟩ = .ok register := by
  have typed' := tripleType_of_twins twins (·.triple.type) (typePairs_mem threeSource).1 typed
  have within : pairUp Layout.gen4.triple.destinationRanges Layout.gen8.triple.destinationRanges ⊆
      opcodePair :: sharedPairs true := by
    decide
  rw [← threeSource] at within
  have codes := TripleFields.readDestination_of_twin (twins.held.mono within)
  refine ⟨(Layout.gen4.triple.readDestination left).decode type, ?_, ?_⟩
  · exact congrArg (· >>= _) typed
  · rw [codes]
    exact congrArg (· >>= _) typed'

theorem tripleSource_of_twins (index : Fin 3)
    (typed : tripleType Layout.gen4.triple.sourceType ⟨.gen7, left⟩ = .ok type) :
    ∃ register, operand (.tripleSource index) ⟨.gen7, left⟩ = .ok register ∧
      operand (.tripleSource index) ⟨.gen8, right⟩ = .ok register := by
  have typed' :=
    tripleType_of_twins twins (·.triple.sourceType) (typePairs_mem threeSource).2 typed
  have within : pairUp (Layout.gen4.triple.source index).ranges
      (Layout.gen8.triple.source index).ranges ⊆ opcodePair :: sharedPairs true := by
    revert index
    decide
  have widths : (Layout.gen4.triple.source index).subreg.parts.map (·.width) =
      (Layout.gen8.triple.source index).subreg.parts.map (·.width) := by
    revert index
    decide
  rw [← threeSource] at within
  have codes := TripleSourceFields.read_of_twin widths (twins.held.mono within)
  refine ⟨((Layout.gen4.triple.source index).read left).decode type, ?_, ?_⟩
  · exact congrArg (· >>= _) typed
  · rw [codes]
    exact congrArg (· >>= _) typed'

end Decoding

theorem type_get_source (index : Fin 3) (codes : TripleSourceCodes) (type : DataType)
    (bits : Encoding) :
    Layout.gen4.triple.type.get ((bits.assign
        ((Layout.gen4.triple.source index).assignments codes)).assign
      (Generation.gen7.typeAssignments Layout.gen4.triple.sourceType type)) =
    Layout.gen4.triple.type.get bits := by
  have inSource : Apart [Layout.gen4.triple.type.toBitRange]
      (Layout.gen4.triple.source index).ranges := by
    revert index
    decide
  have inType : Apart [Layout.gen4.triple.type.toBitRange]
      [Layout.gen4.triple.sourceType.toBitRange] := by
    decide
  rw [← TripleSourceFields.map_range_assignments _ codes] at inSource
  have typeWrites := inType.mono (List.Subset.refl _)
    (Generation.gen7.typeAssignments_sublist Layout.gen4.triple.sourceType type).subset
  exact (Encoding.agree_assign typeWrites _ _ List.mem_cons_self).trans
    (Encoding.agree_assign inSource bits _ List.mem_cons_self)

section Calls

variable (threeSource : opcode.isThreeSource = true)
include threeSource

theorem setTripleDestination_matched (twins : Twins opcode left right) (register : Register) :
    Matched (SideBySide (Alike opcode [.tripleDestination]))
      (setTripleDestination register ⟨.gen7, left⟩)
      (setTripleDestination register ⟨.gen8, right⟩) := by
  unfold setTripleDestination
  simp only [Register.placed_gen7, checkTriple_of_twins twins]
  refine .bind_same _ fun placed _ => .bind_same _ fun _ _ => ?_
  have written := twins.tripleDestination threeSource placed.tripleDestinationCodes
  have typing := setTripleType_matched written (·.triple.type) (typePairs_mem threeSource).1
    (by decide) (by decide) placed.type
  apply typing.imp
  rintro _ _ ⟨left', right', rfl, rfl, after, -, typed⟩
  refine ⟨left', right', rfl, rfl, after, ?_⟩
  intro kind member
  obtain rfl := List.mem_singleton.mp member
  exact tripleDestination_of_twins after threeSource typed

theorem setTripleSource_matched (alike : Alike opcode kinds left right)
    (before : ∀ kind ∈ kinds, kind.threeSource = true) (index : Fin 3) (register : Register) :
    Matched (SideBySide (Alike opcode (.tripleSource index :: kinds)))
      (setTripleSource index register ⟨.gen7, left⟩)
      (setTripleSource index register ⟨.gen8, right⟩) := by
  obtain ⟨twins, decoded⟩ := alike
  unfold setTripleSource
  simp only [Register.placed_gen7, checkTriple_of_twins twins]
  refine .bind_same _ fun placed _ => .bind_same _ fun _ _ => .bind_same _ fun found same => ?_
  have indexed : sourceIndex index = .ok index := dif_pos index.isLt
  obtain rfl := Except.ok.inj (indexed.symm.trans same)
  have written := twins.tripleSource threeSource index placed.tripleSourceCodes
  rw [← TripleSourceFields.write_eq_assign, ← TripleSourceFields.write_eq_assign] at written
  have typing := setTripleType_matched written (·.triple.sourceType) (typePairs_mem threeSource).2
    (by decide) (by decide) placed.type
  apply typing.imp
  rintro _ _ ⟨left', right', rfl, rfl, after, isLeft, typed⟩
  refine ⟨left', right', rfl, rfl, after, ?_⟩
  have sources : ∀ index, ∃ register, operand (.tripleSource index) ⟨.gen7, left'⟩ = .ok register ∧
      operand (.tripleSource index) ⟨.gen8, right'⟩ = .ok register :=
    fun index => tripleSource_of_twins after threeSource index typed
  rw [List.forall_mem_cons]
  refine ⟨sources index, fun kind member => ?_⟩
  cases kind with
  | plain slot => cases before _ member
  | tripleSource index => exact sources index
  | tripleDestination =>
      -- Sources leave the type of the destination alone, so it still decodes.
      obtain ⟨_, atLeft, -⟩ := decoded _ member
      obtain ⟨type, typed', -⟩ := (bind_eq_ok_iff _ _ _).mp atLeft
      apply tripleDestination_of_twins after threeSource
      rw [← typed', isLeft, TripleSourceFields.write_eq_assign]
      exact tripleType_of_get (type_get_source index _ _ left)

end Calls

end Instruction

end ExecUnit
