import ExecUnit.Proofs.Operand.Codes

/-!
Sources as assignments. The numbers of a source, once written, are read back
reduced to the room that their fields have, whatever the bits held before.
-/

namespace ExecUnit

namespace SourceFields

def typeAssignments (fields : SourceFields) (file type : Nat) : List Assignment :=
  [⟨fields.file.toBitRange, file⟩, ⟨fields.type.toBitRange, type⟩]

def signAssignments (fields : SourceFields) (abs negate : Bool) : List Assignment :=
  [⟨fields.abs.toBitRange, abs.toNat⟩, ⟨fields.negate.toBitRange, negate.toNat⟩]

def commonAssignments (fields : SourceFields) (codes : SourceCodes) : List Assignment :=
  fields.typeAssignments codes.file codes.type ++ fields.signAssignments codes.abs codes.negate

def regionAssignments (fields : SourceFields) (codes : RegionCodes) : List Assignment :=
  [⟨fields.vstride.toBitRange, codes.vstride⟩, ⟨fields.width.toBitRange, codes.width⟩,
    ⟨fields.hstride.toBitRange, codes.hstride⟩]

def placeAssignments (fields : SourceFields) : SourcePlace → List Assignment
  | .immediate value => [⟨immediateRange, value.toNat⟩]
  | .indirect address region =>
      ⟨fields.addressMode.toBitRange, 1⟩ :: fields.regionAssignments region ++
        fields.address.assignments address
  | .align1 number offset region =>
      [⟨fields.addressMode.toBitRange, 0⟩, ⟨fields.number.toBitRange, number⟩,
        ⟨fields.byteOffset.toBitRange, offset⟩] ++ fields.regionAssignments region
  | .align16 number half vstride swizzle =>
      [⟨fields.addressMode.toBitRange, 0⟩, ⟨fields.number.toBitRange, number⟩,
        ⟨fields.halfOffset.toBitRange, half⟩, ⟨fields.vstride.toBitRange, vstride⟩,
        ⟨fields.swizzleX.toBitRange, code swizzle.x⟩,
        ⟨fields.swizzleY.toBitRange, code swizzle.y⟩,
        ⟨fields.swizzleZ.toBitRange, code swizzle.z⟩,
        ⟨fields.swizzleW.toBitRange, code swizzle.w⟩]

def assignments (fields : SourceFields) (codes : SourceCodes) : List Assignment :=
  fields.commonAssignments codes ++ fields.placeAssignments codes.place

theorem write_eq_assign (fields : SourceFields) (codes : SourceCodes) (bits : Encoding) :
    fields.write codes bits = bits.assign (fields.assignments codes) := by
  rw [assignments, Encoding.assign_append]
  cases place : codes.place with
  | immediate value => rw [write, place]; rfl
  | align1 number offset region => rw [write, place]; rfl
  | align16 number half vstride swizzle => rw [write, place]; rfl
  | indirect address region =>
      rw [write, place]
      exact AddressFields.write_eq_assign fields.address address _

end SourceFields

def RegionCodes.InRoom (codes : RegionCodes) : Prop :=
  codes.vstride < 16 ∧ codes.width < 8 ∧ codes.hstride < 4

theorem Region.codes_inRoom (region : Region) : region.codes.InRoom :=
  ⟨region.vstride.code_lt, region.width.code_lt, region.hstride.code_lt⟩

def SourcePlace.OfRegister (mode : AccessMode) : SourcePlace → Prop
  | .immediate _ => False
  | .indirect _ region => region.InRoom
  | .align1 _ _ region => mode = .align1 ∧ region.InRoom
  | .align16 _ _ vstride _ => mode = .align16 ∧ vstride < 16

def SourcePlace.kept (registers : Nat) : SourcePlace → SourcePlace
  | .immediate value => .immediate value
  | .indirect address region => .indirect (address.kept registers) region
  | .align1 number offset region => .align1 (number % 256) (offset % 32) region
  | .align16 number half vstride swizzle => .align16 (number % 256) (half % 2) vstride swizzle

def SourceCodes.kept (registers : Nat) (codes : SourceCodes) : SourceCodes :=
  { codes with place := codes.place.kept registers }

namespace SourceFields

variable {fields : SourceFields} {registers : Nat}

theorem consistent_assignments (separated : fields.Separated) {mode : AccessMode}
    {codes : SourceCodes} (register : codes.place.OfRegister mode) :
    Consistent (fields.assignments codes) := by
  apply consistent_of_separate
  rw [assignments]
  -- Forms share bits with each other, so each has its own list of ranges.
  cases place : codes.place with
  | immediate value => exact (place ▸ register).elim
  | align1 number offset region => exact separated.align1
  | align16 number half vstride swizzle => exact separated.align16
  | indirect address region =>
      simp only [placeAssignments, List.map_append, AddressFields.map_range_assignments]
      exact separated.indirect

theorem fileType_of_stores (sized : fields.Sized registers) {file type : Nat}
    (fileFits : file < 4) (typeFits : type < 8) {bits : Encoding}
    (stored : bits.Stores (fields.typeAssignments file type)) :
    fields.file.get bits = file ∧ fields.type.get bits = type := by
  simp only [typeAssignments, Encoding.stores_cons] at stored
  obtain ⟨atFile, atType, -⟩ := stored
  rw [sized.file, Nat.mod_eq_of_lt fileFits] at atFile
  rw [Nat.mod_eq_of_lt (Nat.lt_of_lt_of_le typeFits sized.type)] at atType
  exact ⟨atFile, atType⟩

theorem common_of_stores (sized : fields.Sized registers) {codes : SourceCodes}
    (file : codes.file < 4) (type : codes.type < 8) {bits : Encoding}
    (stored : bits.Stores (fields.commonAssignments codes)) :
    fields.file.get bits = codes.file ∧ fields.type.get bits = codes.type ∧
      decide (fields.abs.get bits ≠ 0) = codes.abs ∧
      decide (fields.negate.get bits ≠ 0) = codes.negate := by
  simp only [commonAssignments, signAssignments, Encoding.stores_append, Encoding.stores_cons,
    BitRange.toNat_mod_capacity] at stored
  obtain ⟨typed, atAbs, atNegate, -⟩ := stored
  obtain ⟨atFile, atType⟩ := fileType_of_stores sized file type typed
  refine ⟨atFile, atType, ?_, ?_⟩
  · cases abs : codes.abs <;> simp [atAbs, abs]
  · cases negate : codes.negate <;> simp [atNegate, negate]

theorem readRegion_of_stores (sized : fields.Sized registers) {region : RegionCodes}
    (fits : region.InRoom) {bits : Encoding}
    (stored : bits.Stores (fields.regionAssignments region)) :
    fields.readRegion bits = region := by
  simp only [regionAssignments, Encoding.stores_cons] at stored
  obtain ⟨atVstride, atWidth, atHstride, -⟩ := stored
  rw [sized.vstride, Nat.mod_eq_of_lt fits.1] at atVstride
  rw [sized.width, Nat.mod_eq_of_lt fits.2.1] at atWidth
  rw [sized.hstride, Nat.mod_eq_of_lt fits.2.2] at atHstride
  rw [readRegion, atVstride, atWidth, atHstride]

theorem readSwizzle_of_stores (sized : fields.Sized registers) {swizzle : Swizzle}
    {bits : Encoding} (stored : bits.Stores
      [⟨fields.swizzleX.toBitRange, code swizzle.x⟩, ⟨fields.swizzleY.toBitRange, code swizzle.y⟩,
        ⟨fields.swizzleZ.toBitRange, code swizzle.z⟩,
        ⟨fields.swizzleW.toBitRange, code swizzle.w⟩]) :
    fields.readSwizzle bits = swizzle := by
  simp only [Encoding.stores_cons, sized.swizzleX, sized.swizzleY, sized.swizzleZ,
    sized.swizzleW, Nat.mod_eq_of_lt (Channel.code_lt _)] at stored
  obtain ⟨atX, atY, atZ, atW, -⟩ := stored
  simp only [readSwizzle, atX, atY, atZ, atW, Channel.ofNumber_code]

theorem readPlace_of_stores (sized : fields.Sized registers) {mode : AccessMode}
    {place : SourcePlace} (register : place.OfRegister mode) {bits : Encoding}
    (file : fields.file.get bits ≠ code RegisterFile.immediate)
    (stored : bits.Stores (fields.placeAssignments place)) :
    fields.readPlace mode bits = place.kept registers := by
  -- The place that is read is the place that was written: the file tells registers from immediates,
  -- the address mode and the access mode tell the forms of registers apart.
  unfold readPlace
  rw [if_neg file]
  -- What the other forms would read in these bits may be anything.
  cases place with
  | immediate value => exact register.elim
  | align1 number offset region =>
      obtain ⟨rfl, fits⟩ := register
      simp only [placeAssignments, Encoding.stores_append, Encoding.stores_cons] at stored
      obtain ⟨⟨atMode, atNumber, atOffset, -⟩, inRegion⟩ := stored
      have direct : ¬fields.addressMode.get bits ≠ 0 := by simp [atMode]
      rw [if_neg direct, atNumber, atOffset, readRegion_of_stores sized fits inRegion,
        sized.number, sized.byteOffset, SourcePlace.kept]
  | align16 number half vstride swizzle =>
      obtain ⟨rfl, fits⟩ := register
      simp only [placeAssignments, Encoding.stores_cons] at stored
      obtain ⟨atMode, atNumber, atHalf, atVstride, inSwizzle⟩ := stored
      have direct : ¬fields.addressMode.get bits ≠ 0 := by simp [atMode]
      have swizzled : fields.readSwizzle bits = swizzle :=
        readSwizzle_of_stores sized (by simpa only [Encoding.stores_cons] using inSwizzle)
      rw [if_neg direct, atNumber, atHalf, atVstride, swizzled, sized.number, sized.halfOffset,
        sized.vstride, Nat.mod_eq_of_lt fits, SourcePlace.kept]
  | indirect address region =>
      simp only [placeAssignments, List.cons_append, Encoding.stores_append,
        Encoding.stores_cons] at stored
      obtain ⟨atMode, inRegion, inAddress⟩ := stored
      have indirect : fields.addressMode.get bits ≠ 0 := by
        simp [atMode, BitRange.one_mod_capacity]
      rw [if_pos indirect, readRegion_of_stores sized register inRegion,
        AddressFields.read_of_stored sized.address address bits inAddress, SourcePlace.kept]

theorem read_of_stores (sized : fields.Sized registers) {mode : AccessMode}
    {codes : SourceCodes} (register : codes.place.OfRegister mode)
    (file : codes.file < code RegisterFile.immediate) (type : codes.type < 8) {bits : Encoding}
    (stored : bits.Stores (fields.assignments codes)) :
    fields.read mode bits = codes.kept registers := by
  rw [assignments, Encoding.stores_append] at stored
  obtain ⟨common, inPlace⟩ := stored
  have inRoom : codes.file < 4 := Nat.lt_trans file (RegisterFile.code_lt _)
  obtain ⟨atFile, atType, atAbs, atNegate⟩ := common_of_stores sized inRoom type common
  have notImmediate : fields.file.get bits ≠ code RegisterFile.immediate :=
    atFile ▸ Nat.ne_of_lt file
  rw [read, atFile, atType, atAbs, atNegate,
    readPlace_of_stores sized register notImmediate inPlace]
  rfl

-- Stale bits do not show through a register that was written.
theorem read_write (separated : fields.Separated) (sized : fields.Sized registers)
    {mode : AccessMode} {codes : SourceCodes} (register : codes.place.OfRegister mode)
    (file : codes.file < code RegisterFile.immediate) (type : codes.type < 8) (bits : Encoding) :
    fields.read mode (fields.write codes bits) = codes.kept registers := by
  rw [write_eq_assign]
  exact read_of_stores sized register file type
    (Encoding.stores_assign (consistent_assignments separated register) bits)

theorem immediateRange_capacity : immediateRange.capacity = 4294967296 := by
  decide

theorem read_write_immediate (separated : fields.Separated) (sized : fields.Sized registers)
    (mode : AccessMode) {codes : SourceCodes} {value : Word}
    (place : codes.place = .immediate value) (file : codes.file = code RegisterFile.immediate)
    (type : codes.type < 8) (bits : Encoding) :
    (fields.read mode (fields.write codes bits)).file = codes.file ∧
      (fields.read mode (fields.write codes bits)).type = codes.type ∧
      (fields.read mode (fields.write codes bits)).place = .immediate value := by
  -- The bits of an immediate may cover those of its negation, so only its file and its type are
  -- read besides the value.
  have written : fields.write codes bits =
      (bits.assign (fields.typeAssignments codes.file codes.type)).assign
        (fields.signAssignments codes.abs codes.negate ++ [⟨immediateRange, value.toNat⟩]) := by
    rw [write, place]
    rfl
  -- The file and the type are separate in every form, so any of them will do here.
  have apart : fields.file.Disjoint fields.type.toBitRange :=
    (List.pairwise_cons.mp separated.align1).1 _ List.mem_cons_self
  have consistent : Consistent (fields.typeAssignments codes.file codes.type) :=
    consistent_of_separate (List.pairwise_pair.mpr apart)
  -- The later writes leave the file and the type as they were.
  have typed := Encoding.stores_assign consistent bits
  have inRoom : codes.file < 4 := file ▸ RegisterFile.code_lt _
  obtain ⟨early, early'⟩ := fileType_of_stores sized inRoom type typed
  have agree : Encoding.Agree [fields.file.toBitRange, fields.type.toBitRange]
      (fields.write codes bits)
      (bits.assign (fields.typeAssignments codes.file codes.type)) :=
    written ▸ Encoding.agree_assign separated.immediate _
  have atFile : fields.file.get (fields.write codes bits) = codes.file :=
    (agree _ List.mem_cons_self).trans early
  have atType : fields.type.get (fields.write codes bits) = codes.type :=
    (agree _ (List.mem_cons_of_mem _ List.mem_cons_self)).trans early'
  have atValue : immediateRange.get (fields.write codes bits) = value.toNat := by
    rw [write, place]
    exact (BitRange.get_set _ _ _).trans (immediateRange_capacity ▸ Nat.mod_eq_of_lt value.isLt)
  refine ⟨atFile, atType, ?_⟩
  unfold read readPlace
  rw [if_pos (atFile.trans file), atValue, BitVec.ofNat_toNat, BitVec.setWidth_eq]

theorem commonAssignments_subset (fields : SourceFields) (codes : SourceCodes) :
    (fields.commonAssignments codes).map (·.range) ⊆ fields.ranges := by
  simp only [commonAssignments, typeAssignments, signAssignments, ranges, List.map_append,
    List.map_cons, List.map_nil, List.append_subset, List.cons_subset, List.nil_subset,
    List.mem_append, List.mem_cons, true_or, or_true, and_true]

-- Only immediates reach outside the fields of their slot.
theorem placeAssignments_subset (fields : SourceFields) {place : SourcePlace}
    (register : ∀ value, place ≠ .immediate value) :
    (fields.placeAssignments place).map (·.range) ⊆ fields.ranges := by
  cases place with
  | immediate value => exact absurd rfl (register value)
  | indirect address region =>
      simp only [placeAssignments, regionAssignments, AddressFields.map_range_assignments, ranges,
        List.map_append, List.map_cons, List.map_nil, List.append_subset, List.cons_subset,
        List.nil_subset, List.mem_append, List.mem_cons, true_or, or_true, and_true,
        List.subset_append_left]
  | _ =>
      simp only [placeAssignments, regionAssignments, ranges, List.map_append, List.map_cons,
        List.map_nil, List.append_subset, List.cons_subset, List.nil_subset, List.mem_append,
        List.mem_cons, true_or, or_true, and_true]

theorem assignments_subset_of_register (fields : SourceFields) {mode : AccessMode}
    {codes : SourceCodes} (register : codes.place.OfRegister mode) :
    (fields.assignments codes).map (·.range) ⊆ fields.ranges := by
  rw [assignments, List.map_append, List.append_subset]
  have notImmediate : ∀ value, codes.place ≠ .immediate value := by
    intro value place
    rw [place] at register
    exact register
  exact ⟨fields.commonAssignments_subset codes, fields.placeAssignments_subset notImmediate⟩

theorem assignments_subset (fields : SourceFields) (codes : SourceCodes) :
    (fields.assignments codes).map (·.range) ⊆ fields.ranges ++ [immediateRange] := by
  have inFields := List.subset_append_left fields.ranges [immediateRange]
  rw [assignments, List.map_append, List.append_subset]
  refine ⟨List.Subset.trans (fields.commonAssignments_subset codes) inFields, ?_⟩
  cases place : codes.place with
  | immediate value => exact List.subset_append_right _ _
  | _ =>
      apply List.Subset.trans (fields.placeAssignments_subset _) inFields
      nofun

end SourceFields

end ExecUnit
