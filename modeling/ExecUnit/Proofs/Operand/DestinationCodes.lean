import ExecUnit.Proofs.Operand.Codes

/-!
Destinations as assignments, read back like the sources.
-/

namespace ExecUnit

def DestinationPlace.InMode (mode : AccessMode) : DestinationPlace → Prop
  | .indirect _ hstride => hstride < 4
  | .align1 _ _ hstride => mode = .align1 ∧ hstride < 4
  | .align16 _ _ _ => mode = .align16

def DestinationPlace.kept (registers : Nat) : DestinationPlace → DestinationPlace
  | .indirect address hstride => .indirect (address.kept registers) hstride
  | .align1 number offset hstride => .align1 (number % 256) (offset % 32) hstride
  | .align16 number half writeMask => .align16 (number % 256) (half % 2) writeMask

def DestinationCodes.kept (registers : Nat) (codes : DestinationCodes) : DestinationCodes :=
  { codes with place := codes.place.kept registers }

namespace DestinationFields

def placeAssignments (fields : DestinationFields) : DestinationPlace → List Assignment
  | .indirect address hstride =>
      [⟨fields.addressMode.toBitRange, 1⟩, ⟨fields.hstride.toBitRange, hstride⟩] ++
        fields.address.assignments address
  | .align1 number offset hstride =>
      [⟨fields.addressMode.toBitRange, 0⟩, ⟨fields.number.toBitRange, number⟩,
        ⟨fields.byteOffset.toBitRange, offset⟩, ⟨fields.hstride.toBitRange, hstride⟩]
  | .align16 number half writeMask =>
      [⟨fields.addressMode.toBitRange, 0⟩, ⟨fields.number.toBitRange, number⟩,
        ⟨fields.halfOffset.toBitRange, half⟩, ⟨fields.writeMask.toBitRange, writeMask.pack⟩]

def assignments (fields : DestinationFields) (codes : DestinationCodes) : List Assignment :=
  [⟨fields.file.toBitRange, codes.file⟩, ⟨fields.type.toBitRange, codes.type⟩] ++
    fields.placeAssignments codes.place

theorem write_eq_assign (fields : DestinationFields) (codes : DestinationCodes)
    (bits : Encoding) : fields.write codes bits = bits.assign (fields.assignments codes) := by
  rw [assignments, Encoding.assign_append]
  cases place : codes.place with
  | align1 number offset hstride => rw [write, place]; rfl
  | align16 number half writeMask => rw [write, place]; rfl
  | indirect address hstride =>
      rw [write, place]
      exact AddressFields.write_eq_assign fields.address address _

theorem assignments_subset (fields : DestinationFields) (codes : DestinationCodes) :
    (fields.assignments codes).map (·.range) ⊆ fields.ranges := by
  rw [assignments]
  cases codes.place <;>
    simp only [placeAssignments, AddressFields.map_range_assignments, ranges, List.map_append,
      List.map_cons, List.map_nil, List.append_subset, List.cons_subset, List.nil_subset,
      List.mem_append, List.mem_cons, true_or, or_true, and_true, List.subset_append_left]

variable {fields : DestinationFields} {registers : Nat}

theorem consistent_assignments (separated : fields.Separated) (codes : DestinationCodes) :
    Consistent (fields.assignments codes) := by
  apply consistent_of_separate
  rw [assignments]
  cases codes.place with
  | align1 number offset hstride => exact separated.align1
  | align16 number half writeMask => exact separated.align16
  | indirect address hstride =>
      simp only [placeAssignments, List.map_append, AddressFields.map_range_assignments]
      exact separated.indirect

theorem readPlace_of_stores (sized : fields.Sized registers) {mode : AccessMode}
    {place : DestinationPlace} (fits : place.InMode mode) {bits : Encoding}
    (stored : bits.Stores (fields.placeAssignments place)) :
    fields.readPlace mode bits = place.kept registers := by
  unfold readPlace
  cases place with
  | align1 number offset hstride =>
      obtain ⟨rfl, fits⟩ := fits
      simp only [placeAssignments, Encoding.stores_cons] at stored
      obtain ⟨atMode, atNumber, atOffset, atHstride, -⟩ := stored
      have direct : ¬fields.addressMode.get bits ≠ 0 := by simp [atMode]
      rw [if_neg direct, atNumber, atOffset, atHstride, sized.number, sized.byteOffset,
        sized.hstride, Nat.mod_eq_of_lt fits, DestinationPlace.kept]
  | align16 number half writeMask =>
      obtain rfl := fits
      simp only [placeAssignments, Encoding.stores_cons] at stored
      obtain ⟨atMode, atNumber, atHalf, atMask, -⟩ := stored
      have direct : ¬fields.addressMode.get bits ≠ 0 := by simp [atMode]
      rw [if_neg direct, atNumber, atHalf, atMask, sized.number, sized.halfOffset,
        sized.writeMask, Nat.mod_eq_of_lt writeMask.pack_lt, WriteMask.unpack_pack,
        DestinationPlace.kept]
  | indirect address hstride =>
      simp only [placeAssignments, Encoding.stores_append, Encoding.stores_cons] at stored
      obtain ⟨⟨atMode, atHstride, -⟩, inAddress⟩ := stored
      have indirect : fields.addressMode.get bits ≠ 0 := by
        simp [atMode, BitRange.one_mod_capacity]
      rw [if_pos indirect, atHstride, sized.hstride, Nat.mod_eq_of_lt fits,
        AddressFields.read_of_stored sized.address address bits inAddress, DestinationPlace.kept]

theorem read_of_stores (sized : fields.Sized registers) {mode : AccessMode}
    {codes : DestinationCodes} (fits : codes.place.InMode mode) (file : codes.file < 4)
    (type : codes.type < 8) {bits : Encoding}
    (stored : bits.Stores (fields.assignments codes)) :
    fields.read mode bits = codes.kept registers := by
  rw [assignments, Encoding.stores_append, Encoding.stores_cons, Encoding.stores_cons] at stored
  obtain ⟨⟨atFile, atType, -⟩, inPlace⟩ := stored
  rw [sized.file, Nat.mod_eq_of_lt file] at atFile
  rw [Nat.mod_eq_of_lt (Nat.lt_of_lt_of_le type sized.type)] at atType
  rw [read, atFile, atType, readPlace_of_stores sized fits inPlace]
  rfl

end DestinationFields

end ExecUnit
