import ExecUnit.Operand.Triple
import ExecUnit.Proofs.Operand.Codes

/-!
Operands of three-source instructions as assignments. All of them together still
write disjoint fields, apart from the type that the sources share.
-/

namespace ExecUnit

theorem Swizzle.pack_lt (swizzle : Swizzle) : swizzle.pack < 256 := by
  rw [← unpack_pack swizzle, pack_unpack]
  exact Nat.mod_lt _ (by decide)

theorem DataType.threeSourceCode?_lt {type : DataType} {number : Nat}
    (found : type.threeSourceCode? = some number) : number < 4 := by
  cases type <;> simp [threeSourceCode?] at found <;> omega

namespace TripleSourceFields

def assignments (fields : TripleSourceFields) (codes : TripleSourceCodes) : List Assignment :=
  [⟨fields.number.toBitRange, codes.number⟩] ++ fields.subreg.assignments codes.subreg ++
    [⟨fields.swizzle.toBitRange, codes.swizzle.pack⟩,
      ⟨fields.replicate.toBitRange, codes.replicate.toNat⟩,
      ⟨fields.negate.toBitRange, codes.negate.toNat⟩, ⟨fields.abs.toBitRange, codes.abs.toNat⟩]

theorem map_range_assignments (fields : TripleSourceFields) (codes : TripleSourceCodes) :
    (fields.assignments codes).map (·.range) = fields.ranges := by
  simp [assignments, ranges, SplitField.map_range_assignments]

theorem write_eq_assign (fields : TripleSourceFields) (codes : TripleSourceCodes)
    (bits : Encoding) : fields.write codes bits = bits.assign (fields.assignments codes) := by
  rw [write, SplitField.set_eq_assign, assignments, Encoding.assign_append,
    Encoding.assign_append]
  rfl

theorem read_of_stores {fields : TripleSourceFields} (sized : fields.Sized)
    {codes : TripleSourceCodes} {bits : Encoding}
    (stored : bits.Stores (fields.assignments codes)) :
    fields.read bits = { codes with
      number := codes.number % 256
      subreg := codes.subreg % 8 } := by
  simp only [assignments, Encoding.stores_append, Encoding.stores_cons,
    BitRange.toNat_mod_capacity] at stored
  obtain ⟨⟨⟨atNumber, -⟩, inSubreg⟩, atSwizzle, atReplicate, atNegate, atAbs, -⟩ := stored
  have atSubreg := fields.subreg.get_of_parts _ _ inSubreg
  rw [sized.number] at atNumber
  rw [sized.subreg] at atSubreg
  rw [sized.swizzle, Nat.mod_eq_of_lt codes.swizzle.pack_lt] at atSwizzle
  rw [read, atNumber, atSubreg, atSwizzle, atReplicate, atNegate, atAbs, Swizzle.unpack_pack]
  simp

end TripleSourceFields

namespace TripleFields

def destinationAssignments (fields : TripleFields) (codes : DestinationCodes) :
    List Assignment :=
  [⟨fields.number.toBitRange, codes.number⟩, ⟨fields.subreg.toBitRange, codes.subreg⟩,
    ⟨fields.writeMask.toBitRange, codes.writeMask.pack⟩]

theorem writeDestination_eq_assign (fields : TripleFields) (codes : DestinationCodes)
    (bits : Encoding) :
    fields.writeDestination codes bits = bits.assign (fields.destinationAssignments codes) :=
  rfl

theorem readDestination_of_stores {fields : TripleFields} (sized : fields.Sized)
    {codes : DestinationCodes} {bits : Encoding}
    (stored : bits.Stores (fields.destinationAssignments codes)) :
    fields.readDestination bits = { codes with
      number := codes.number % 256
      subreg := codes.subreg % 8 } := by
  simp only [destinationAssignments, Encoding.stores_cons] at stored
  obtain ⟨atNumber, atSubreg, atMask, -⟩ := stored
  rw [sized.number] at atNumber
  rw [sized.subreg] at atSubreg
  rw [sized.writeMask, Nat.mod_eq_of_lt codes.writeMask.pack_lt] at atMask
  rw [readDestination, atNumber, atSubreg, atMask, WriteMask.unpack_pack]

end TripleFields

end ExecUnit
