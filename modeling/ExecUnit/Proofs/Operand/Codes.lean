import ExecUnit.Proofs.Layout.Geometry

/-!
How large the numbers of operands are, and what indirect addresses keep of theirs.
-/

namespace ExecUnit

section Room

theorem RegisterFile.code_lt (file : RegisterFile) : code file < 4 := by
  cases file <;> decide

theorem RegisterFile.code_lt_immediate {file : RegisterFile} (register : file ≠ .immediate) :
    code file < code RegisterFile.immediate := by
  cases file with
  | immediate => exact absurd rfl register
  | _ => decide

theorem VerticalStride.code_lt (vstride : VerticalStride) : code vstride < 16 := by
  cases vstride <;> decide

theorem Width.code_lt (width : Width) : code width < 8 := by
  cases width <;> decide

theorem HorizontalStride.code_lt (hstride : HorizontalStride) : code hstride < 4 := by
  cases hstride <;> decide

theorem Channel.code_lt (channel : Channel) : code channel < 4 := by
  cases channel <;> decide

theorem WriteMask.pack_lt (mask : WriteMask) : mask.pack < 16 := by
  rw [← unpack_pack mask, pack_unpack]
  exact Nat.mod_lt _ (by decide)

theorem DataType.codeIn?_lt {file : RegisterFile} {type : DataType} {number : Nat}
    (found : type.codeIn? file = some number) : number < 8 := by
  cases type <;> cases file <;> simp [codeIn?] at found <;> omega

end Room

theorem decodeFileType_eq_ok {file : RegisterFile} {type : DataType} {number : Nat}
    (typed : type.codeIn? file = some number) (fileField typeField : Field) :
    decodeFileType fileField typeField (code file) number = .ok (file, type) := by
  have found : DataType.ofCodeIn? file number = some type :=
    (DataType.ofCodeIn?_eq_some_iff file number type).mpr typed
  simp [decodeFileType, decodeCode_code, found, orFault, bind, Except.bind, pure, Except.pure]

/-- What is left of an address in an operand that can name `registers` address
subregisters: the offset becomes the number in [-512, 511] congruent to it. -/
def Address.kept (registers : Nat) (address : Address) : Address :=
  ⟨address.subreg % registers, address.offset.bmod 1024⟩

namespace AddressFields

def assignments (fields : AddressFields) (address : Address) : List Assignment :=
  ⟨fields.subreg.toBitRange, address.subreg⟩ ::
    fields.offset.assignments (BitVec.ofInt fields.offset.width address.offset).toNat

theorem map_range_assignments (fields : AddressFields) (address : Address) :
    (fields.assignments address).map (·.range) = fields.ranges := by
  rw [assignments, List.map_cons, SplitField.map_range_assignments, ranges]

theorem write_eq_assign (fields : AddressFields) (address : Address) (bits : Encoding) :
    fields.write address bits = bits.assign (fields.assignments address) := by
  rw [write, SplitField.setSigned, SplitField.set_eq_assign]
  rfl

theorem read_of_stored {fields : AddressFields} {registers : Nat}
    (sized : fields.Sized registers) (address : Address) (bits : Encoding)
    (stored : bits.Stores (fields.assignments address)) :
    fields.read bits = address.kept registers := by
  obtain ⟨subreg, offset⟩ := (Encoding.stores_cons _ _ _ _).mp stored
  rw [read, subreg, fields.offset.getSigned_of_parts _ _ offset, sized.subreg, sized.offset,
    Address.kept]

end AddressFields

end ExecUnit
