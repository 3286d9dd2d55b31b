import ExecUnit.Proofs.Operand.Decoding

/-!
Writing what was read. The readers of an operand leave out none of the bits that its
writers touch, so what they read can be written again without changing a bit. The sign
bits of an immediate are the exception: `SourceCodes.used` forgets them, and writing the
rest clears them unless the value covers them.
-/

namespace ExecUnit

namespace BitRange

theorem set_of_held {range : BitRange} {value : Nat} {bits : Encoding}
    (held : range.get bits = value % range.capacity) : range.set value bits = bits := by
  rw [← set_mod, ← held, set_get]

-- A wider write hides what was written inside of its range.
theorem set_set_of_inside {outer inner : BitRange} (low : outer.low ≤ inner.low)
    (high : inner.high ≤ outer.high) (first last : Nat) (bits : Encoding) :
    outer.set last (inner.set first bits) = outer.set last bits := by
  apply BitVec.eq_of_getLsbD_eq
  intro index _
  simp only [getLsbD_set]
  by_cases covered : outer.low ≤ index ∧ index ≤ outer.high
  · rw [if_pos covered, if_pos covered]
  · have missed : ¬(inner.low ≤ index ∧ index ≤ inner.high) := by omega
    rw [if_neg covered, if_neg covered, if_neg missed]

section Flags

variable {range : BitRange} {bits : Encoding}

theorem set_one_of_ne_zero (single : range.capacity = 2) (held : range.get bits ≠ 0) :
    range.set 1 bits = bits := by
  have bound := range.get_lt bits
  rw [single] at bound
  have held_eq : range.get bits = 1 := by omega
  exact set_of_held (held_eq.trans range.one_mod_capacity.symm)

theorem set_zero_of_eq_zero (held : range.get bits = 0) : range.set 0 bits = bits :=
  set_of_held (by rw [held, Nat.zero_mod])

theorem set_toNat_get (single : range.capacity = 2) :
    range.set (decide (range.get bits ≠ 0)).toNat bits = bits := by
  by_cases held : range.get bits = 0
  · rw [decide_eq_false (not_not_intro held)]
    exact set_zero_of_eq_zero held
  · rw [decide_eq_true held]
    exact set_one_of_ne_zero single held

end Flags

end BitRange

namespace Encoding

theorem Stores.of_agree {ranges : List BitRange} {writes : List Assignment}
    {left right : Encoding} (agree : Agree ranges left right)
    (within : writes.map (·.range) ⊆ ranges) (stored : Stores writes right) :
    Stores writes left :=
  fun write member =>
    (agree _ (within (List.mem_map_of_mem member))).trans (stored write member)

theorem assign_of_stores {writes : List Assignment} {bits : Encoding}
    (stored : bits.Stores writes) : bits.assign writes = bits := by
  induction writes with
  | nil => rfl
  | cons write rest ih =>
      obtain ⟨held, later⟩ := List.forall_mem_cons.mp stored
      calc bits.assign (write :: rest)
          = assign rest (write.range.set write.value bits) := rfl
        _ = assign rest bits := by rw [BitRange.set_of_held held]
        _ = bits := ih later

theorem assign_eq_self_iff {writes : List Assignment} (consistent : Consistent writes)
    (bits : Encoding) : bits.assign writes = bits ↔ bits.Stores writes := by
  constructor
  · intro same
    exact same ▸ stores_assign consistent bits
  · exact assign_of_stores

end Encoding

namespace SplitField

theorem getParts_lt (parts : List Field) (bits : Encoding) :
    getParts parts bits < Nat.pow 2 (partsWidth parts) := by
  induction parts with
  | nil => exact Nat.one_pos
  | cons part rest ih =>
      have low := part.get_lt bits
      rw [BitRange.capacity_eq] at low
      rw [getParts, partsWidth, Nat.shiftLeft_eq]
      simp only [Nat.pow_eq, Nat.pow_add] at ih low ⊢
      refine Nat.lt_of_lt_of_le (Nat.add_lt_add_right low _) ?_
      rw [Nat.add_comm, ← Nat.succ_mul, Nat.mul_comm]
      exact Nat.mul_le_mul_left _ ih

theorem setParts_getParts (parts : List Field) (bits : Encoding) :
    setParts parts (getParts parts bits) bits = bits := by
  induction parts with
  | nil => rfl
  | cons part rest ih =>
      -- The first part takes its own digits out of the number, the others the digits above.
      have low := part.get_lt bits
      rw [BitRange.capacity_eq, Nat.pow_eq] at low
      have own : part.get bits = getParts (part :: rest) bits % part.capacity := by
        rw [getParts, Nat.shiftLeft_eq, BitRange.capacity_eq, Nat.pow_eq,
          Nat.add_mul_mod_self_right, Nat.mod_eq_of_lt low]
      have above : getParts (part :: rest) bits >>> part.width = getParts rest bits := by
        rw [getParts, Nat.shiftLeft_eq, Nat.shiftRight_eq_div_pow,
          Nat.add_mul_div_right _ _ (Nat.two_pow_pos _), Nat.div_eq_of_lt low, Nat.zero_add]
      rw [setParts, BitRange.set_of_held own, above, ih]

theorem setParts_mod (parts : List Field) (value : Nat) (bits : Encoding) :
    setParts parts (value % Nat.pow 2 (partsWidth parts)) bits = setParts parts value bits := by
  induction parts generalizing value bits with
  | nil => rfl
  | cons part rest ih =>
      simp only [partsWidth, Nat.pow_eq, Nat.pow_add, setParts] at ih ⊢
      have own : part.set (value % (2 ^ part.width * 2 ^ partsWidth rest)) bits =
          part.set value bits := by
        rw [← BitRange.set_mod, BitRange.capacity_eq, Nat.pow_eq, Nat.mod_mul_right_mod,
          ← Nat.pow_eq, ← BitRange.capacity_eq, BitRange.set_mod]
      have above : (value % (2 ^ part.width * 2 ^ partsWidth rest)) >>> part.width =
          value >>> part.width % 2 ^ partsWidth rest := by
        rw [Nat.shiftRight_eq_div_pow, Nat.shiftRight_eq_div_pow, Nat.mod_mul_right_div_self]
      rw [own, above, ih]

theorem set_of_held {split : SplitField} {value : Nat} {bits : Encoding}
    (held : split.get bits = value % split.capacity) : split.set value bits = bits := by
  rw [capacity_eq] at held
  calc split.set value bits
      = split.set (value % Nat.pow 2 split.width) bits := (setParts_mod _ _ _).symm
    _ = split.set (split.get bits) bits := by rw [held]
    _ = bits := setParts_getParts split.parts bits

theorem get_lt (split : SplitField) (bits : Encoding) : split.get bits < split.capacity := by
  rw [capacity_eq]
  exact getParts_lt split.parts bits

theorem setSigned_getSigned (split : SplitField) (bits : Encoding) :
    split.setSigned (split.getSigned bits) bits = bits := by
  have fits := split.get_lt bits
  rw [capacity_eq, Nat.pow_eq] at fits
  rw [setSigned, getSigned, BitVec.ofInt_toInt, BitVec.toNat_ofNat, Nat.mod_eq_of_lt fits]
  exact setParts_getParts split.parts bits

end SplitField

theorem AddressFields.write_read (fields : AddressFields) (bits : Encoding) :
    fields.write (fields.read bits) bits = bits := by
  simp only [write, read, BitRange.set_get, SplitField.setSigned_getSigned]

theorem LayoutKind.dst_addressMode_capacity (kind : LayoutKind) :
    kind.layout.dst.addressMode.capacity = 2 := by
  cases kind <;> decide

theorem DestinationFields.write_read {fields : DestinationFields} {registers : Nat}
    (sized : fields.Sized registers) (single : fields.addressMode.capacity = 2)
    (mode : AccessMode) (bits : Encoding) :
    fields.write (fields.read mode bits) bits = bits := by
  have place : fields.writePlace (fields.readPlace mode bits) bits = bits := by
    unfold readPlace
    by_cases held : fields.addressMode.get bits = 0
    · have direct := BitRange.set_zero_of_eq_zero held
      rw [if_neg (not_not_intro held)]
      cases mode with
      | align1 => simp only [writePlace, direct, BitRange.set_get]
      | align16 =>
          have mask : fields.writeMask.set
              (WriteMask.unpack (fields.writeMask.get bits)).pack bits = bits := by
            rw [WriteMask.pack_unpack, ← sized.writeMask, BitRange.set_mod, BitRange.set_get]
          simp only [writePlace, direct, BitRange.set_get, mask]
    · have indirect := BitRange.set_one_of_ne_zero single held
      rw [if_pos held]
      simp only [writePlace, indirect, BitRange.set_get, AddressFields.write_read]
  rw [write, read, BitRange.set_get, BitRange.set_get, place]

namespace SourceCodes

theorem used_place (codes : SourceCodes) : codes.used.place = codes.place := by
  unfold used
  split <;> rfl

theorem used_type (codes : SourceCodes) : codes.used.type = codes.type := by
  unfold used
  split <;> rfl

end SourceCodes

namespace SourceFields

structure SingleBits (fields : SourceFields) : Prop where
  abs : fields.abs.capacity = 2
  negate : fields.negate.capacity = 2
  addressMode : fields.addressMode.capacity = 2

theorem writeSwizzle_readSwizzle {fields : SourceFields} {registers : Nat}
    (sized : fields.Sized registers) (bits : Encoding) :
    fields.writeSwizzle (fields.readSwizzle bits) bits = bits := by
  have selector {range : BitRange} (size : range.capacity = 4) :
      range.set (code (Channel.ofNumber (range.get bits))) bits = bits := by
    rw [Channel.code_ofNumber, ← size, BitRange.set_mod, BitRange.set_get]
  simp only [writeSwizzle, readSwizzle, selector sized.swizzleX, selector sized.swizzleY,
    selector sized.swizzleZ, selector sized.swizzleW]

theorem setImmediate_ofNat (value : Nat) (bits : Encoding) :
    immediateRange.set (BitVec.ofNat 32 value).toNat bits = immediateRange.set value bits := by
  rw [BitVec.toNat_ofNat]
  exact BitRange.set_mod immediateRange value bits

theorem write_used_of_immediate (fields : SourceFields) (mode : AccessMode) {bits : Encoding}
    (immediate : fields.file.get bits = code RegisterFile.immediate) :
    fields.write (fields.read mode bits).used bits =
      immediateRange.set (immediateRange.get bits)
        (fields.negate.set 0 (fields.abs.set 0 bits)) := by
  have place : (fields.read mode bits).place =
      .immediate (BitVec.ofNat 32 (immediateRange.get bits)) := by
    unfold read readPlace
    exact if_pos immediate
  simp only [write, SourceCodes.used, place, writePlace, setImmediate_ofNat]
  simp only [read, BitRange.set_get, Bool.toNat_false]

theorem typeAssignments_subset (fields : SourceFields) (file type : Nat) :
    (fields.typeAssignments file type).map (·.range) ⊆ fields.ranges := by
  simp only [typeAssignments, ranges, List.map_cons, List.map_nil, List.cons_subset,
    List.nil_subset, List.mem_append, List.mem_cons, true_or, or_true, and_true]

theorem signAssignments_subset (fields : SourceFields) (abs negate : Bool) :
    (fields.signAssignments abs negate).map (·.range) ⊆ fields.ranges := by
  simp only [signAssignments, ranges, List.map_cons, List.map_nil, List.cons_subset,
    List.nil_subset, List.mem_append, List.mem_cons, true_or, or_true, and_true]

theorem consistent_signs {fields : SourceFields} (separated : fields.Separated)
    (abs negate : Bool) : Consistent (fields.signAssignments abs negate) := by
  obtain ⟨-, afterFile⟩ := List.pairwise_cons.mp separated.align1
  obtain ⟨-, afterType⟩ := List.pairwise_cons.mp afterFile
  have apart : fields.abs.Disjoint fields.negate.toBitRange :=
    (List.pairwise_cons.mp afterType).1 _ List.mem_cons_self
  exact consistent_of_separate (List.pairwise_pair.mpr apart)

theorem stores_clear_signs_iff {fields : SourceFields} {abs negate : Bool} {bits : Encoding}
    (stored : bits.Stores (fields.signAssignments abs negate)) :
    bits.Stores (fields.signAssignments false false) ↔ abs = false ∧ negate = false := by
  simp only [signAssignments, Encoding.stores_cons, BitRange.toNat_mod_capacity] at stored ⊢
  obtain ⟨atAbs, atNegate, nothing⟩ := stored
  simp only [atAbs, atNegate, nothing, and_true]
  cases abs <;> cases negate <;> decide

variable {fields : SourceFields} {registers : Nat} (sized : fields.Sized registers)
  (single : fields.SingleBits) (mode : AccessMode) (bits : Encoding)
include sized single

theorem writePlace_readPlace : fields.writePlace (fields.readPlace mode bits) bits = bits := by
  unfold readPlace
  -- The reader looks at the file and the address mode first, and writers set the latter.
  by_cases immediate : fields.file.get bits = code RegisterFile.immediate
  · rw [if_pos immediate]
    exact (setImmediate_ofNat _ bits).trans (BitRange.set_get _ _)
  · rw [if_neg immediate]
    by_cases held : fields.addressMode.get bits = 0
    · have direct := BitRange.set_zero_of_eq_zero held
      rw [if_neg (not_not_intro held)]
      cases mode with
      | align1 => simp only [writePlace, writeRegion, readRegion, direct, BitRange.set_get]
      | align16 =>
          simp only [writePlace, direct, BitRange.set_get, writeSwizzle_readSwizzle sized]
    · have indirect := BitRange.set_one_of_ne_zero single.addressMode held
      rw [if_pos held]
      simp only [writePlace, writeRegion, readRegion, indirect, BitRange.set_get,
        AddressFields.write_read]

theorem write_read : fields.write (fields.read mode bits) bits = bits := by
  simp only [write, read, BitRange.set_get, BitRange.set_toNat_get single.abs,
    BitRange.set_toNat_get single.negate, writePlace_readPlace sized single]

theorem write_used_of_register (register : fields.file.get bits ≠ code RegisterFile.immediate) :
    fields.write (fields.read mode bits).used bits = bits := by
  have used : (fields.read mode bits).used = fields.read mode bits := by
    unfold SourceCodes.used
    split
    · next value place =>
      rcases readPlace_cases sized mode bits with ⟨immediate, -⟩ | ⟨-, ofRegister⟩
      · exact absurd immediate register
      · exact (place ▸ ofRegister : (SourcePlace.immediate value).OfRegister mode).elim
    · rfl
  rw [used, write_read sized single]

end SourceFields

namespace LayoutKind

theorem source_singleBits (kind : LayoutKind) (slot : SourceSlot) :
    (kind.layout.source slot).SingleBits := by
  cases kind <;> cases slot <;> constructor <;> decide

theorem src1_signs_inside (kind : LayoutKind) :
    immediateRange.low ≤ kind.layout.src1.abs.low ∧
      immediateRange.low ≤ kind.layout.src1.negate.low := by
  -- The value of an immediate src1 covers its sign bits.
  cases kind <;> decide

theorem immediate_src0_separate (kind : LayoutKind) :
    Separate (kind.layout.src0.commonRanges ++ [immediateRange] ++
      [kind.layout.src1.file.toBitRange, kind.layout.src1.type.toBitRange]) := by
  cases kind <;> decide

end LayoutKind

end ExecUnit
