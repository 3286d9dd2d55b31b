import ExecUnit.Proofs.Layout.Words
import ExecUnit.Proofs.Operand.Frame

/-!
Indirect addresses. An address that is written to a slot is read back with its
numbers reduced to the room there is, and the rest of the instruction keeps what it
held: `address_after_write`.

Where the offset is split its sign lies among the fields of other operands. Which
ranges those are is a matter of the layout alone, so what a write leaves alone is
settled by separation and not by looking at values.
-/

namespace ExecUnit

open Encoding (Agree)

theorem eq_bmod_iff (value offset : Int) :
    value = offset.bmod 1024 ↔ -512 ≤ value ∧ value ≤ 511 ∧ value % 1024 = offset % 1024 := by
  rw [Int.bmod_def]
  split <;> omega

namespace Layout

/-- What the shape of an operand is read from: its file, its type, its address mode and
its region. -/
def shapeRanges (layout : Layout) : Slot → List BitRange
  | .dst =>
      [layout.dst.file.toBitRange, layout.dst.type.toBitRange, layout.dst.addressMode.toBitRange,
        layout.dst.hstride.toBitRange]
  | .source slot =>
      let fields := layout.source slot
      [fields.file.toBitRange, fields.type.toBitRange, fields.addressMode.toBitRange,
        fields.vstride.toBitRange, fields.width.toBitRange, fields.hstride.toBitRange]

theorem address_ranges_subset (layout : Layout) (slot : Slot) :
    (layout.address slot).ranges ⊆ layout.slotRanges slot := by
  rcases slot with - | slot
  · exact List.subset_append_left _ _
  · cases slot with
    | src0 => exact List.subset_append_left _ _
    | src1 => exact List.Subset.trans (List.subset_append_left _ _) (List.subset_append_left _ _)

theorem shapeRanges_subset (layout : Layout) (slot : Slot) :
    layout.shapeRanges slot ⊆ layout.slotRanges slot := by
  rcases slot with - | slot
  · simp only [shapeRanges, slotRanges, DestinationFields.ranges, List.cons_subset,
      List.nil_subset, List.mem_append, List.mem_cons, true_or, or_true, and_true]
  · cases slot <;>
      simp only [shapeRanges, slotRanges, source, SourceFields.ranges, List.cons_subset,
        List.nil_subset, List.mem_append, List.mem_cons, true_or, or_true, and_true]

end Layout

namespace AddressFields

theorem agree_write {fields : AddressFields} {ranges : List BitRange}
    (apart : Apart ranges fields.ranges) (address : Address) (bits : Encoding) :
    Agree ranges (fields.write address bits) bits := by
  rw [write_eq_assign]
  apply Encoding.agree_assign
  rwa [map_range_assignments]

theorem read_write {fields : AddressFields} {registers : Nat} (separate : Separate fields.ranges)
    (sized : fields.Sized registers) (address : Address) (bits : Encoding) :
    fields.read (fields.write address bits) = address.kept registers := by
  rw [write_eq_assign]
  apply read_of_stored sized
  apply Encoding.stores_assign
  apply consistent_of_separate
  rwa [map_range_assignments]

end AddressFields

namespace LayoutKind

theorem address_sized (kind : LayoutKind) (slot : Slot) :
    (kind.layout.address slot).Sized kind.addressRegisters := by
  cases slot with
  | dst => exact kind.dst_sized.address
  | source slot => exact (kind.source_sized slot).address

theorem address_separate (kind : LayoutKind) (slot : Slot) :
    Separate (kind.layout.address slot).ranges := by
  rcases slot with - | slot
  · cases kind <;> decide
  · cases kind <;> cases slot <;> decide

theorem address_past_header (kind : LayoutKind) (slot : Slot) :
    ∀ range ∈ (kind.layout.address slot).ranges, range.low / 32 ≠ 0 := by
  rcases slot with - | slot
  · cases kind <;> decide
  · cases kind <;> cases slot <;> decide

theorem shape_apart_address (kind : LayoutKind) (slot other : Slot) :
    Apart (kind.layout.shapeRanges other) (kind.layout.address slot).ranges := by
  -- The number of a direct register shares bits with the address, its shape does not.
  by_cases same : other = slot
  · subst same
    rcases other with - | slot
    · cases kind <;> decide
    · cases kind <;> cases slot <;> decide
  · exact (kind.slots_apart same).mono (kind.layout.shapeRanges_subset other)
      (kind.layout.address_ranges_subset slot)

/-- Over any bits, a slot gives back the subregister and the offset of an address as far as
there is room for them. The addresses of other slots, the first word and the shapes of all
operands stay as they were. -/
theorem address_after_write (kind : LayoutKind) (slot : Slot) (address : Address)
    (bits : Encoding) :
    let fields := kind.layout.address
    let written := (fields slot).write address bits
    ((fields slot).read written).subreg = address.subreg % kind.addressRegisters ∧
      (∀ value : Int, value = ((fields slot).read written).offset ↔
        -512 ≤ value ∧ value ≤ 511 ∧ value % 1024 = address.offset % 1024) ∧
      (∀ other, other ≠ slot → (fields other).read written = (fields other).read bits) ∧
      written.word 0 = bits.word 0 ∧
      ∀ other, Agree (kind.layout.shapeRanges other) written bits := by
  intro fields written
  have kept : (fields slot).read written = address.kept kind.addressRegisters :=
    AddressFields.read_write (kind.address_separate slot) (kind.address_sized slot) address bits
  have others : ∀ other, other ≠ slot → (fields other).read written = (fields other).read bits := by
    intro other different
    apply AddressFields.read_of_agree
    apply AddressFields.agree_write
    exact (kind.slots_apart different).mono (kind.layout.address_ranges_subset other)
      (kind.layout.address_ranges_subset slot)
  have header : written.word 0 = bits.word 0 := by
    simp only [written, AddressFields.write_eq_assign]
    apply Encoding.word_assign_of_elsewhere
    rw [AddressFields.map_range_assignments]
    exact kind.address_past_header slot
  have shapes : ∀ other, Agree (kind.layout.shapeRanges other) written bits :=
    fun other => AddressFields.agree_write (kind.shape_apart_address slot other) address bits
  rw [kept]
  exact ⟨rfl, fun value => eq_bmod_iff value address.offset, others, header, shapes⟩

/-- The offset -700 does not fit. Its sign goes to bit 121, next to the stride of src1. -/
theorem address_after_write_full :
    let written := (Layout.gen8.address (.source .src1)).write ⟨19, -700⟩ (BitVec.allOnes 128)
    Layout.gen8.src1.address.read written = ⟨3, 324⟩ ∧
      Layout.gen8.src0.address.read written = ⟨15, -1⟩ ∧
      written.word 0 = BitVec.allOnes 32 ∧
      Layout.gen8.src1.vstride.get written = 15 := by
  obtain ⟨subreg, offset, others, header, shapes⟩ :=
    address_after_write .gen8 (.source .src1) ⟨19, -700⟩ (BitVec.allOnes 128)
  have value := (offset 324).mpr (by decide)
  have vstride := shapes (.source .src1) Layout.gen8.src1.vstride.toBitRange (by decide)
  refine ⟨?_, others (.source .src0) (by decide), header, vstride⟩
  exact congr (congrArg Address.mk subreg) value.symm

end LayoutKind

end ExecUnit
