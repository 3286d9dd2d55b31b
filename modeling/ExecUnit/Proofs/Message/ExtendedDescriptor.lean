import ExecUnit.Proofs.Listing.Factoring
import ExecUnit.Proofs.Operand.WriteRead

/-!
The extended descriptor of Gen9. Of its four ranges only the last one is free in SEND.
The others are where src0 keeps its sub-register, its region and its swizzle, so src0 and
the listing survive just where those bits held the descriptor's already, or where src0
does not look at them: `extendedDescriptor_after_set`.
-/

namespace ExecUnit

open Encoding (Agree)

namespace Gen8Message

def sharedDescriptor : SplitField :=
  ⟨[extended3to0, extended7to4, extended11to8]⟩

theorem descriptor_in_word : ∀ range ∈ extendedDescriptor.ranges, range.low / 32 = 2 := by
  decide

theorem descriptor_separate : Separate extendedDescriptor.ranges := by
  decide

theorem shared_subset (value : Nat) :
    sharedDescriptor.assignments value ⊆ extendedDescriptor.assignments value :=
  List.subset_append_left (sharedDescriptor.assignments value)
    [⟨extended15to12.toBitRange, value >>> 4 >>> 4 >>> 4⟩]

theorem unshared_apart_src0 :
    Apart Layout.gen8.src0.ranges [extended15to12.toBitRange] := by
  -- The last range belongs to src1, which SEND has no use for.
  decide

theorem common_apart_descriptor :
    Apart Layout.gen8.src0.commonRanges extendedDescriptor.ranges := by
  decide

theorem dst_apart_descriptor : Apart Layout.gen8.dst.ranges extendedDescriptor.ranges := by
  decide

theorem message_apart_descriptor :
    Apart messageFields.descriptorRanges extendedDescriptor.ranges := by
  decide

-- Every form of a register in src0 takes all of the bits that the descriptor shares with it.
theorem shared_covered {mode : AccessMode} {codes : SourceCodes}
    (register : codes.place.OfRegister mode) :
    ∀ range ∈ sharedDescriptor.ranges, ∀ index < range.width,
      ∃ outer ∈ (Layout.gen8.src0.assignments codes).map (·.range),
        outer.Covers (range.low + index) := by
  have align1 : ∀ range ∈ sharedDescriptor.ranges, ∀ index < range.width,
      ∃ outer ∈ Layout.gen8.src0.align1Ranges, outer.Covers (range.low + index) := by
    decide
  have align16 : ∀ range ∈ sharedDescriptor.ranges, ∀ index < range.width,
      ∃ outer ∈ Layout.gen8.src0.align16Ranges, outer.Covers (range.low + index) := by
    decide
  have indirect : ∀ range ∈ sharedDescriptor.ranges, ∀ index < range.width,
      ∃ outer ∈ Layout.gen8.src0.indirectRanges, outer.Covers (range.low + index) := by
    decide
  rw [SourceFields.assignments]
  cases place : codes.place with
  | immediate value => exact (place ▸ register).elim
  | align1 number offset region => exact align1
  | align16 number half vstride swizzle => exact align16
  | indirect address region => exact indirect

end Gen8Message

theorem SourceFields.read_of_immediate (fields : SourceFields) (mode : AccessMode)
    {left right : Encoding} (agree : Agree fields.commonRanges left right)
    (value : immediateRange.get left = immediateRange.get right)
    (immediate : fields.file.get right = code RegisterFile.immediate) :
    fields.read mode left = fields.read mode right := by
  simp only [commonRanges, Agree.cons_iff] at agree
  obtain ⟨file, type, abs, negate, -⟩ := agree
  have place : fields.readPlace mode left = fields.readPlace mode right := by
    unfold readPlace
    rw [file, if_pos immediate, if_pos immediate, value]
  rw [read, read, place, file, type, abs, negate]

section Decoded

variable {fields : SourceFields} {registers : Nat} (sized : fields.Sized registers)
  (single : fields.SingleBits) {mode : AccessMode} {register : Register}
include sized single

-- The register in a slot says what all of its bits are.
theorem SourceFields.assign_heldSource {bits : Encoding}
    (decoded : fields.decode (fields.read mode bits) = .ok register)
    (notImmediate : register.file ≠ .immediate) :
    (register.heldSource mode).place.OfRegister mode ∧
      bits.assign (fields.assignments (register.heldSource mode)) = bits := by
  have held := held_of_decode sized decoded
  have file : fields.file.get bits ≠ code RegisterFile.immediate := by
    rw [file_of_decode sized decoded]
    exact fun same => notImmediate (Coded.code_injective same)
  have place : (fields.readPlace mode bits).OfRegister mode := by
    rcases readPlace_cases sized mode bits with ⟨immediate, -⟩ | ⟨-, ofRegister⟩
    · exact absurd immediate file
    · exact ofRegister
  constructor
  · rw [held, SourceCodes.used_place]
    exact place
  · rw [held, ← write_eq_assign]
    exact write_used_of_register sized single mode bits file

theorem SourceFields.getLsbD_of_decode {left right : Encoding}
    (atLeft : fields.decode (fields.read mode left) = .ok register)
    (atRight : fields.decode (fields.read mode right) = .ok register)
    (notImmediate : register.file ≠ .immediate) {index : Nat}
    (covered : ∃ range ∈ (fields.assignments (register.heldSource mode)).map (·.range),
      range.Covers index) : left.getLsbD index = right.getLsbD index := by
  obtain ⟨-, wholeLeft⟩ := assign_heldSource sized single atLeft notImmediate
  obtain ⟨-, wholeRight⟩ := assign_heldSource sized single atRight notImmediate
  have same := Encoding.getLsbD_assign_of_covered covered left right
  rwa [wholeLeft, wholeRight] at same

end Decoded

namespace Instruction

theorem operandKinds_of_send {instr : Instruction} (sends : instr.isSend = true) :
    0 < instr.opcodeInfo.destinations ∧
      instr.operandKinds = [.plain .dst, .plain (.source .src0)] := by
  obtain ⟨opcode, known, isSend⟩ := (Option.any_eq_true _ _).mp sends
  have info : instr.opcodeInfo = opcode.info := by
    rw [opcodeInfo, known]
    rfl
  rw [operandKinds, info]
  cases opcode <;> first | decide | exact absurd isSend (by decide)

/-- Whether src0 stands when the extended descriptor is set: it is an immediate, or the bits
that it shares with the descriptor hold what they are given. -/
def KeepsSrc0 (value : Nat) (instr : Instruction) : Prop :=
  instr.get instr.layout.src0.file = code RegisterFile.immediate ∨
    Gen8Message.sharedDescriptor.get instr.bits = (value >>> 16) % 0x1000

section Descriptor

open Gen8Message

variable {bits : Encoding}

def extended (value : Nat) (bits : Encoding) : Encoding :=
  bits.assign (extendedDescriptor.assignments (value >>> 16))

theorem setExtendedDescriptor_eq (value : Nat) (bits : Encoding) :
    setExtendedDescriptor value ⟨.gen9, bits⟩ = .ok ⟨.gen9, extended value bits⟩ := by
  rw [extended, ← SplitField.set_eq_assign]
  rfl

theorem word_extended (value : Nat) (bits : Encoding) {place : Nat} (other : place ≠ 2) :
    (extended value bits).word place = bits.word place := by
  apply Encoding.word_assign_of_elsewhere
  rw [SplitField.map_range_assignments]
  intro range member inWord
  exact other (inWord.symm.trans (descriptor_in_word range member))

theorem agree_extended {ranges : List BitRange} (apart : Apart ranges extendedDescriptor.ranges)
    (value : Nat) (bits : Encoding) : Agree ranges (extended value bits) bits := by
  apply Encoding.agree_assign
  rwa [SplitField.map_range_assignments]

theorem stores_extended (value : Nat) (bits : Encoding) :
    (extended value bits).Stores (extendedDescriptor.assignments (value >>> 16)) := by
  apply Encoding.stores_assign
  apply consistent_of_separate
  rw [SplitField.map_range_assignments]
  exact descriptor_separate

theorem get_extended (value : Word) (bits : Encoding) :
    extendedDescriptor.get (extended value.toNat bits) = value.toNat >>> 16 := by
  have fits : value.toNat >>> 16 < 0x10000 := by
    have bound := value.isLt
    omega
  rw [extendedDescriptor.get_of_parts _ _ (stores_extended value.toNat bits)]
  exact Nat.mod_eq_of_lt fits

theorem get_shared_extended (value : Nat) (bits : Encoding) :
    sharedDescriptor.get (extended value bits) = (value >>> 16) % 0x1000 :=
  sharedDescriptor.get_of_parts _ _ ((stores_extended value bits).mono (shared_subset _))

-- Where the shared bits stay as they are only the bits of src1 are written.
theorem agree_extended_of_shared {value : Nat}
    (held : sharedDescriptor.get bits = (value >>> 16) % 0x1000) :
    Agree Layout.gen8.src0.ranges (extended value bits) bits := by
  have split : extendedDescriptor.assignments (value >>> 16) =
      sharedDescriptor.assignments (value >>> 16) ++
        [⟨extended15to12.toBitRange, (value >>> 16) >>> 4 >>> 4 >>> 4⟩] := rfl
  have shared : bits.assign (sharedDescriptor.assignments (value >>> 16)) = bits := by
    rw [← SplitField.set_eq_assign]
    exact SplitField.set_of_held held
  rw [extended, split, Encoding.assign_append, shared]
  exact Encoding.agree_assign unshared_apart_src0 bits

theorem accessMode_extended (value : Nat) (bits : Encoding) :
    accessMode ⟨.gen9, extended value bits⟩ = accessMode ⟨.gen9, bits⟩ :=
  accessMode_of_header .gen9 (word_extended value bits (by decide))

theorem sourceCodes_extended {value : Nat} (keeps : KeepsSrc0 value ⟨.gen9, bits⟩) :
    sourceCodes .src0 ⟨.gen9, extended value bits⟩ = sourceCodes .src0 ⟨.gen9, bits⟩ := by
  have payload : immediateRange.get (extended value bits) = immediateRange.get bits :=
    immediateRange.get_of_word (word_extended value bits (by decide))
  rw [sourceCodes, sourceCodes, accessMode_extended]
  rcases keeps with immediate | held
  · exact Layout.gen8.src0.read_of_immediate _ (agree_extended common_apart_descriptor value bits)
      payload immediate
  · exact Layout.gen8.src0.read_of_agree _ (agree_extended_of_shared held) fun _ => payload

theorem destinationCodes_extended (value : Nat) (bits : Encoding) :
    destinationCodes ⟨.gen9, extended value bits⟩ = destinationCodes ⟨.gen9, bits⟩ := by
  rw [destinationCodes, destinationCodes, accessMode_extended]
  exact Layout.gen8.dst.read_of_agree _ (agree_extended dst_apart_descriptor value bits)

-- A register that is still read has all of its bits, the shared ones among them.
theorem keepsSrc0_of_src0 {value : Nat} {register : Register}
    (before : src0 ⟨.gen9, bits⟩ = .ok register)
    (after : src0 ⟨.gen9, extended value bits⟩ = .ok register) :
    KeepsSrc0 value ⟨.gen9, bits⟩ := by
  have sized := LayoutKind.gen8.source_sized .src0
  have single := LayoutKind.gen8.source_singleBits .src0
  rw [src0, source, sourceCodes] at before after
  rw [accessMode_extended] at after
  by_cases immediate : register.file = .immediate
  · exact Or.inl ((SourceFields.file_of_decode sized before).trans (congrArg code immediate))
  · obtain ⟨ofRegister, -⟩ := SourceFields.assign_heldSource sized single before immediate
    have shared : Agree sharedDescriptor.ranges bits (extended value bits) := by
      intro range member
      apply Nat.eq_of_testBit_eq
      intro index
      rw [BitRange.testBit_get, BitRange.testBit_get]
      by_cases fits : index < range.width
      · have covered := shared_covered ofRegister range member index fits
        rw [SourceFields.getLsbD_of_decode sized single before after immediate covered]
      · simp [fits]
    refine Or.inr ?_
    rw [← get_shared_extended value bits]
    exact SplitField.getParts_of_agree sharedDescriptor.parts shared

theorem listing_extended {value : Nat} (sends : isSend ⟨.gen9, bits⟩ = true)
    (keeps : KeepsSrc0 value ⟨.gen9, bits⟩) :
    listing ⟨.gen9, extended value bits⟩ = listing ⟨.gen9, bits⟩ := by
  have header : (extended value bits).word 0 = bits.word 0 := word_extended _ _ (by decide)
  have inWordOne : ∀ range ∈ Generation.gen9.wanderingRanges, range.low / 32 = 1 := by decide
  have wandering : Agree Generation.gen9.wanderingRanges (extended value bits) bits := by
    intro range member
    apply range.get_of_word
    rw [inWordOne range member]
    exact word_extended _ _ (by decide)
  have sends' := (isSend_of_header .gen9 header).trans sends
  obtain ⟨hasDestination, kinds⟩ := operandKinds_of_send sends
  obtain ⟨hasDestination', kinds'⟩ := operandKinds_of_send sends'
  have targets : targetPieces ⟨.gen9, extended value bits⟩ = targetPieces ⟨.gen9, bits⟩ := by
    rw [targetPieces, targetPieces, if_pos (Or.inr hasDestination),
      if_pos (Or.inr hasDestination')]
  have operands : operandPieces ⟨.gen9, extended value bits⟩ = operandPieces ⟨.gen9, bits⟩ := by
    apply operandPieces_of_shown targets (kinds'.trans kinds.symm)
    intro kind member
    rw [kinds, List.mem_cons, List.mem_singleton] at member
    rcases member with rfl | rfl
    · exact congrArg (DestinationCodes.pieces .gen9) (destinationCodes_extended value bits)
    · exact congrArg (SourceCodes.pieces .gen9) (sourceCodes_extended keeps)
  have sfid : sfidNumber ⟨.gen9, extended value bits⟩ = sfidNumber ⟨.gen9, bits⟩ :=
    headerSfid.get_of_word header
  exact listing_of_operandPieces header (wandering _ List.mem_cons_self)
    (flagRegister_of_wandering .gen9 header wandering)
    (fun _ => ⟨word_extended _ _ (by decide), sfid⟩) operands

end Descriptor

/-- Gen9 keeps the upper half of an extended descriptor next to the destination and the
message, but not next to src0. A register in src0 is read back only if the bits that both
of them use were equal before; then the listing is the same as well. -/
theorem extendedDescriptor_after_set (instr : Instruction) (gen9 : instr.gen = .gen9)
    (sends : instr.isSend = true) (value : Word) :
    ∃ written, instr.setExtendedDescriptor value.toNat = .ok written ∧
      Gen8Message.extendedDescriptor.get written.bits = value.toNat >>> 16 ∧
      written.destination = instr.destination ∧
      written.messageDescriptor = instr.messageDescriptor ∧
      (instr.KeepsSrc0 value.toNat →
        written.src0 = instr.src0 ∧ written.listing = instr.listing) ∧
      ∀ register, instr.src0 = .ok register → written.src0 = .ok register →
        instr.KeepsSrc0 value.toNat := by
  obtain ⟨gen, bits⟩ := instr
  obtain rfl : gen = .gen9 := gen9
  refine ⟨_, setExtendedDescriptor_eq value.toNat bits, get_extended value bits, ?_, ?_, ?_, ?_⟩
  · exact congrArg Layout.gen8.dst.decode (destinationCodes_extended value.toNat bits)
  · exact messageDescriptor_of_agree
      (agree_extended Gen8Message.message_apart_descriptor value.toNat bits)
  · intro keeps
    exact ⟨congrArg Layout.gen8.src0.decode (sourceCodes_extended keeps),
      listing_extended sends keeps⟩
  · intro register before after
    exact keepsSrc0_of_src0 before after

/-- This is `send(8) g1<1>F g2<8,8,1>F`, without a message. -/
def plainSend : Instruction :=
  ⟨.gen9, .ofWords 0x00600031 0x20203ae8 0x008d0040 0x00000000⟩

theorem extendedDescriptor_after_set_plain :
    ∃ written, plainSend.setExtendedDescriptor 0x84d00000 = .ok written ∧
      written.src0 = plainSend.src0 ∧ written.listing = plainSend.listing ∧
      Gen8Message.extendedDescriptor.get written.bits = 0x84d0 := by
  obtain ⟨written, accepted, held, -, -, kept, -⟩ :=
    extendedDescriptor_after_set plainSend rfl (by decide) 0x84d00000
  obtain ⟨src0, listing⟩ := kept (Or.inr (by decide))
  exact ⟨written, accepted, src0, listing, held⟩

/-- Even an extended descriptor of zero takes away the region of src0. -/
theorem extendedDescriptor_changes_src0 :
    ∃ written, plainSend.isSend = true ∧ plainSend.setExtendedDescriptor 0 = .ok written ∧
      plainSend.src0 = .ok (Register.general 2 0) ∧
      written.src0 = .ok ((Register.general 2 0).withRegion ⟨.s0, .w1, .s0⟩) ∧
      written.listing ≠ plainSend.listing := by
  refine ⟨_, by decide, rfl, rfl, rfl, by decide⟩

end Instruction

end ExecUnit
