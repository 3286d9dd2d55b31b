import ExecUnit.Proofs.Layout.Geometry
import ExecUnit.Proofs.Listing.Operands
import ExecUnit.Proofs.Listing.Reports

/-!
What a clean listing shows can be decoded: `decodable_of_clean`. The words of a listing
and the enumerations of the operand model are compared place by place: a word exists only
for numbers that have a meaning. The null register and the instruction pointer are shown
by name alone, so the fields that they hide may hold anything.
-/

namespace ExecUnit

/-- A result that is a value, or the fault of one of the fields for what it holds. -/
def BlamesOnly {α : Type} (fields : List Field) (bits : Encoding)
    (result : Except DecodeFault α) : Prop :=
  (∃ value, result = .ok value) ∨
    ∃ field ∈ fields, result = .error ⟨field.name, field.get bits⟩

namespace BlamesOnly

variable {α β : Type} {hidden : List Field} {bits : Encoding}

theorem pure (value : α) : BlamesOnly hidden bits (Pure.pure value) :=
  Or.inl ⟨value, rfl⟩

theorem bind {first : Except DecodeFault α} {next : α → Except DecodeFault β}
    (blames : BlamesOnly hidden bits first)
    (continues : ∀ value, BlamesOnly hidden bits (next value)) :
    BlamesOnly hidden bits (first >>= next) := by
  rcases blames with ⟨value, rfl⟩ | ⟨field, member, rfl⟩
  · exact continues value
  · exact Or.inr ⟨field, member, rfl⟩

theorem orFault {field : Field} {found : Option α} (shown : field ∈ hidden ∨ found.isSome = true) :
    BlamesOnly hidden bits (ExecUnit.orFault field (field.get bits) found) := by
  cases found with
  | some value => exact Or.inl ⟨value, rfl⟩
  | none => exact Or.inr ⟨field, shown.resolve_right (by simp), rfl⟩

theorem decodeCode [Coded α] {field : Field}
    (shown : field ∈ hidden ∨ ∃ value : α, Coded.ofCode? (field.get bits) = some value) :
    BlamesOnly hidden bits (ExecUnit.decodeCode field (field.get bits) : Except _ α) :=
  orFault (shown.imp_right fun ⟨_, found⟩ => by simp [found])

theorem decodeFileType {file type : Field}
    (known : ∃ found : RegisterFile, Coded.ofCode? (file.get bits) = some found)
    (shown : type ∈ hidden ∨ (decodedType? (file.get bits) (type.get bits)).isSome = true) :
    BlamesOnly hidden bits
      (ExecUnit.decodeFileType file type (file.get bits) (type.get bits)) := by
  obtain ⟨found, isFile⟩ := known
  have decoded : ExecUnit.decodeCode file (file.get bits) = .ok found :=
    (decodeCode_eq_ok_iff _ _ _).mpr ((Coded.ofCode?_eq_some_iff _ _).mp isFile)
  have shownInFile : type ∈ hidden ∨ (DataType.ofCodeIn? found (type.get bits)).isSome = true :=
    shown.imp_right fun isType => by simpa [decodedType?, isFile] using isType
  rw [ExecUnit.decodeFileType, decoded]
  change BlamesOnly hidden bits
    (ExecUnit.orFault type (type.get bits) (DataType.ofCodeIn? found (type.get bits)) >>= _)
  exact bind (orFault shownInFile) fun meaning => pure (found, meaning)

theorem decodeFileType_of_pieces {what : String} {file type : Field}
    (known : ∃ found : RegisterFile, Coded.ofCode? (file.get bits) = some found)
    (shown : type ∈ hidden ∨ Clean (typePieces what (file.get bits) (type.get bits))) :
    BlamesOnly hidden bits
      (ExecUnit.decodeFileType file type (file.get bits) (type.get bits)) :=
  decodeFileType known (shown.imp_right (typePieces_clean_iff _ _ _).mp)

theorem decodeRegion {fields : SourceFields}
    (shown : [fields.vstride, fields.width, fields.hstride] ⊆ hidden ∨
      Clean (fields.readRegion bits).pieces) :
    BlamesOnly hidden bits (fields.decodeRegion (fields.readRegion bits)) := by
  rw [List.cons_subset, List.cons_subset, List.cons_subset] at shown
  have known := shown.imp_right RegionCodes.known_of_pieces
  refine bind (decodeCode ?_) fun vstride => bind (decodeCode ?_) fun width =>
    bind (decodeCode ?_) fun hstride => pure _
  · exact known.imp And.left And.left
  · exact known.imp (·.2.1) (·.2.1)
  · exact known.imp (·.2.2.1) (·.2.2)

end BlamesOnly

/-- The fields hold the null register or the instruction pointer, addressed directly. -/
structure NameOnly (file addressMode number : Field) (bits : Encoding) : Prop where
  file : file.get bits = code RegisterFile.architecture
  direct : addressMode.get bits = 0
  number : number.get bits / 16 = 0x0 ∨ number.get bits / 16 = 0xa

theorem ArchKind.base_of_ofNumber? {number : Nat} {kind : ArchKind}
    (found : ofNumber? number = some kind) : kind.base = number / 16 % 16 * 16 := by
  simpa using List.find?_some found

theorem NameOnly.of_isBare {file addressMode number : Field} {bits : Encoding}
    (direct : addressMode.get bits = 0) (room : number.capacity = 256)
    (bare : isBare (file.get bits) (number.get bits) = true) :
    NameOnly file addressMode number bits := by
  have small : number.get bits < 256 := room ▸ number.get_lt bits
  have kinds : archKind? (file.get bits) (number.get bits) = some .null ∨
      archKind? (file.get bits) (number.get bits) = some .ip := of_decide_eq_true bare
  have found : ∀ kind, archKind? (file.get bits) (number.get bits) = some kind →
      file.get bits = code RegisterFile.architecture ∧ kind.base = number.get bits / 16 * 16 := by
    intro kind isKind
    unfold archKind? at isKind
    split at isKind
    · next architecture =>
      have base := ArchKind.base_of_ofNumber? isKind
      exact ⟨architecture, by omega⟩
    · exact absurd isKind (by simp)
  rcases kinds with isNull | isIp
  · obtain ⟨architecture, base⟩ := found _ isNull
    exact ⟨architecture, direct, Or.inl (by simp only [ArchKind.base] at base; omega)⟩
  · obtain ⟨architecture, base⟩ := found _ isIp
    exact ⟨architecture, direct, Or.inr (by simp only [ArchKind.base] at base; omega)⟩

theorem hidden_or_shown (names : List Field) {file addressMode number : Field} {bits : Encoding}
    (direct : addressMode.get bits = 0) (room : number.capacity = 256) {rest : List Piece}
    (clean : Clean (if isBare (file.get bits) (number.get bits) then [] else rest)) :
    ∃ hidden, (hidden = [] ∨ hidden = names ∧ NameOnly file addressMode number bits) ∧
      (names ⊆ hidden ∨ Clean rest) := by
  cases bare : isBare (file.get bits) (number.get bits) with
  | true =>
      exact ⟨names, Or.inr ⟨rfl, .of_isBare direct room bare⟩, Or.inl (List.Subset.refl _)⟩
  | false =>
      rw [bare] at clean
      exact ⟨[], Or.inl rfl, Or.inr clean⟩

theorem file_of_registerPieces {gen : Generation} {file number : Nat}
    (clean : Clean (registerPieces gen file number)) :
    ∃ found : RegisterFile, Coded.ofCode? file = some found := by
  unfold registerPieces at clean
  split at clean
  · next architecture => exact ⟨.architecture, architecture ▸ Coded.ofCode?_code _⟩
  · exact known_of_entry ((Clean.append_iff _ _).mp clean).1

theorem file_of_addressPieces {gen : Generation} {file : Nat} {address : Address}
    (clean : Clean (addressPieces gen file address)) :
    ∃ found : RegisterFile, Coded.ofCode? file = some found := by
  simp only [addressPieces, Clean.append_iff] at clean
  exact known_of_entry clean.1.1.1.1

namespace DestinationFields

/-- What a listing does not show of a register that it shows by name alone. -/
def hiddenFields (fields : DestinationFields) : List Field :=
  [fields.type, fields.hstride]

theorem blamesOnly_of_clean {fields : DestinationFields} {registers : Nat}
    (sized : fields.Sized registers) {gen : Generation} {mode : AccessMode} {bits : Encoding}
    (clean : Clean ((fields.read mode bits).pieces gen)) :
    ∃ hidden, (hidden = [] ∨ hidden = fields.hiddenFields ∧
        NameOnly fields.file fields.addressMode fields.number bits) ∧
      BlamesOnly hidden bits (fields.decode (fields.read mode bits)) := by
  unfold read readPlace at clean ⊢
  split at clean
  · next indirect =>
    simp only [DestinationCodes.pieces, DestinationCodes.stridePieces, Clean.append_iff] at clean
    obtain ⟨⟨address, ⟨-, stride⟩, -⟩, type⟩ := clean
    have types : BlamesOnly [] bits (decodeFileType fields.file fields.type _ _) :=
      .decodeFileType_of_pieces (file_of_addressPieces address) (Or.inr type)
    simp only [if_pos indirect]
    refine ⟨[], Or.inl rfl, types.bind fun _ => ?_⟩
    exact .bind (.decodeCode (Or.inr (known_of_entry stride))) fun _ => .pure _
  · next notIndirect =>
    have direct : fields.addressMode.get bits = 0 := by simpa using notIndirect
    simp only [if_neg notIndirect]
    cases mode with
    | align1 =>
        obtain ⟨register, rest⟩ := (Clean.append_iff _ _).mp clean
        obtain ⟨hidden, cases, shown⟩ :=
          hidden_or_shown fields.hiddenFields direct sized.number rest
        simp only [hiddenFields, List.cons_subset, Clean.append_iff,
          DestinationCodes.stridePieces] at shown
        have types : BlamesOnly hidden bits (decodeFileType fields.file fields.type _ _) :=
          .decodeFileType_of_pieces (file_of_registerPieces register)
            (shown.imp And.left And.right)
        have stride : fields.hstride ∈ hidden ∨ ∃ hstride : HorizontalStride,
            Coded.ofCode? (fields.hstride.get bits) = some hstride :=
          shown.imp (·.2.1) fun clean => known_of_entry clean.1.2.1.2
        refine ⟨hidden, cases, types.bind fun _ => ?_⟩
        exact .bind (.decodeCode stride) fun _ => .pure _
    | align16 =>
        obtain ⟨register, rest⟩ := (Clean.append_iff _ _).mp clean
        obtain ⟨hidden, cases, shown⟩ :=
          hidden_or_shown fields.hiddenFields direct sized.number rest
        simp only [hiddenFields, List.cons_subset, Clean.append_iff] at shown
        have types : BlamesOnly hidden bits (decodeFileType fields.file fields.type _ _) :=
          .decodeFileType_of_pieces (file_of_registerPieces register)
            (shown.imp And.left And.right)
        exact ⟨hidden, cases, types.bind fun _ => .pure _⟩

end DestinationFields

theorem type_of_immediatePieces {type : Nat} {value : Word}
    (clean : Clean (immediatePieces type value)) :
    (decodedType? (code RegisterFile.immediate) type).isSome = true := by
  rw [decodedType?, Coded.ofCode?_code, Option.bind_some]
  cases found : DataType.ofCodeIn? .immediate type with
  | some _ => rfl
  | none => simp [immediatePieces, found] at clean

namespace SourceFields

def hiddenFields (fields : SourceFields) : List Field :=
  [fields.type, fields.vstride, fields.width, fields.hstride]

theorem blamesOnly_of_clean {fields : SourceFields} {registers : Nat}
    (sized : fields.Sized registers) {gen : Generation} {mode : AccessMode} {bits : Encoding}
    (clean : Clean ((fields.read mode bits).pieces gen)) :
    ∃ hidden, (hidden = [] ∨ hidden = fields.hiddenFields ∧
        NameOnly fields.file fields.addressMode fields.number bits) ∧
      BlamesOnly hidden bits (fields.decode (fields.read mode bits)) := by
  unfold read readPlace at clean ⊢
  split at clean
  · next immediate =>
    have types : BlamesOnly [] bits (decodeFileType fields.file fields.type _ _) :=
      .decodeFileType ⟨.immediate, immediate ▸ Coded.ofCode?_code _⟩
        (Or.inr (immediate ▸ type_of_immediatePieces clean))
    simp only [if_pos immediate]
    exact ⟨[], Or.inl rfl, types.bind fun _ => .pure _⟩
  · next register =>
    simp only [if_neg register]
    split at clean
    · next indirect =>
      simp only [SourceCodes.pieces, Clean.append_iff] at clean
      obtain ⟨⟨⟨-, address⟩, region⟩, type⟩ := clean
      have types : BlamesOnly [] bits (decodeFileType fields.file fields.type _ _) :=
        .decodeFileType_of_pieces (file_of_addressPieces address) (Or.inr type)
      simp only [if_pos indirect]
      refine ⟨[], Or.inl rfl, types.bind fun _ => ?_⟩
      exact .bind (.decodeRegion (Or.inr region)) fun _ => .pure _
    · next notIndirect =>
      have direct : fields.addressMode.get bits = 0 := by simpa using notIndirect
      simp only [if_neg notIndirect]
      cases mode with
      | align1 =>
          obtain ⟨name, rest⟩ := (Clean.append_iff _ _).mp clean
          obtain ⟨hidden, cases, shown⟩ :=
            hidden_or_shown fields.hiddenFields direct sized.number rest
          simp only [hiddenFields, List.cons_subset, Clean.append_iff] at shown
          have types : BlamesOnly hidden bits (decodeFileType fields.file fields.type _ _) :=
            .decodeFileType_of_pieces (file_of_registerPieces ((Clean.append_iff _ _).mp name).2)
              (shown.imp And.left And.right)
          have region : BlamesOnly hidden bits (fields.decodeRegion (fields.readRegion bits)) :=
            .decodeRegion (shown.imp
              (fun member => by simpa only [List.cons_subset] using member.2)
              fun clean => clean.1.2)
          exact ⟨hidden, cases, types.bind fun _ => region.bind fun _ => .pure _⟩
      | align16 =>
          obtain ⟨name, rest⟩ := (Clean.append_iff _ _).mp clean
          obtain ⟨hidden, cases, shown⟩ :=
            hidden_or_shown fields.hiddenFields direct sized.number rest
          simp only [hiddenFields, List.cons_subset, Clean.append_iff] at shown
          have types : BlamesOnly hidden bits (decodeFileType fields.file fields.type _ _) :=
            .decodeFileType_of_pieces (file_of_registerPieces ((Clean.append_iff _ _).mp name).2)
              (shown.imp And.left And.right)
          have stride : fields.vstride ∈ hidden ∨ ∃ vstride : VerticalStride,
              Coded.ofCode? (fields.vstride.get bits) = some vstride :=
            shown.imp (·.2.1) fun clean => known_of_entry clean.1.1.2
          refine ⟨hidden, cases, types.bind fun _ => ?_⟩
          exact .bind (.decodeCode stride) fun _ => .pure _

end SourceFields

-- From Gen6 on the shared function shares the bits of the modifier.
theorem Generation.modifier_eq_sfid {gen : Generation} (shared : gen.hasHeaderSfid = true) :
    gen.layout.header.modifier.toBitRange = gen.messageFields.sfid.toBitRange := by
  cases gen with
  | gen4 | gen5 => exact absurd shared (by decide)
  | _ => rfl

namespace Instruction

variable {instr : Instruction}

def NameOnly (kind : OperandKind) (instr : Instruction) : Prop :=
  match kind with
  | .plain .dst =>
      ExecUnit.NameOnly instr.layout.dst.file instr.layout.dst.addressMode
        instr.layout.dst.number instr.bits
  | .plain (.source slot) =>
      ExecUnit.NameOnly (instr.layout.source slot).file (instr.layout.source slot).addressMode
        (instr.layout.source slot).number instr.bits
  | .tripleDestination | .tripleSource _ => False

def hiddenFields (kind : OperandKind) (instr : Instruction) : List Field :=
  match kind with
  | .plain .dst => instr.layout.dst.hiddenFields
  | .plain (.source slot) => (instr.layout.source slot).hiddenFields
  | .tripleDestination | .tripleSource _ => []

theorem tripleType_of_clean {what : String} {field : Field}
    (clean : Clean (tripleTypePieces what (instr.tripleTypeNumber? field))) :
    ∃ type, instr.tripleType field = .ok type := by
  unfold tripleTypeNumber? at clean
  unfold tripleType
  split at clean
  · next typed =>
    rw [if_pos typed]
    obtain ⟨type, found⟩ :=
      Option.isSome_iff_exists.mp ((tripleTypePieces_clean_iff _ _).mp clean)
    exact ⟨type, (orFault_eq_ok_iff _ _ _ _).mpr found⟩
  · next untyped =>
    rw [if_neg untyped]
    exact ⟨.f, rfl⟩

theorem operand_of_clean (kind : OperandKind) (clean : Clean (instr.shownOperand kind)) :
    ∃ hidden, (hidden = [] ∨ hidden = instr.hiddenFields kind ∧ instr.NameOnly kind) ∧
      BlamesOnly hidden instr.bits (instr.operand kind) := by
  match kind with
  | .plain .dst => exact DestinationFields.blamesOnly_of_clean instr.gen.layoutKind.dst_sized clean
  | .plain (.source slot) =>
      exact SourceFields.blamesOnly_of_clean (instr.gen.layoutKind.source_sized slot) clean
  -- Of a three-source operand only the type can be without a meaning.
  | .tripleDestination =>
      obtain ⟨type, typed⟩ := tripleType_of_clean ((Clean.append_iff _ _).mp clean).2
      refine ⟨[], Or.inl rfl, Or.inl ⟨_, (bind_eq_ok_iff _ _ _).mpr ⟨type, typed, rfl⟩⟩⟩
  | .tripleSource index =>
      obtain ⟨before, -⟩ := (Clean.append_iff _ _).mp clean
      obtain ⟨type, typed⟩ := tripleType_of_clean ((Clean.append_iff _ _).mp before).2
      refine ⟨[], Or.inl rfl, Or.inl ⟨_, (bind_eq_ok_iff _ _ _).mpr ⟨type, typed, rfl⟩⟩⟩

theorem opcode_of_clean (clean : Clean instr.mnemonicPieces) :
    ∃ opcode, instr.knownOpcode? = some opcode ∧ instr.opcode = .ok opcode := by
  cases known : instr.knownOpcode? with
  | none => simp [mnemonicPieces, known] at clean
  | some opcode =>
      have found := (Option.filter_eq_some_iff.mp known).1
      exact ⟨opcode, rfl, (orFault_eq_ok_iff _ _ _ _).mpr found⟩

theorem sfid_of_clean (clean : Clean instr.messagePieces) :
    ∃ sfid : Sfid, Coded.ofCode? instr.sfidNumber = some sfid := by
  simp only [messagePieces, Clean.append_iff] at clean
  exact known_of_entry clean.1.1.2

theorem messageDescriptor_of_clean (clean : Clean instr.messagePieces) :
    ∃ descriptor, instr.messageDescriptor = .ok descriptor := by
  obtain ⟨sfid, found⟩ := sfid_of_clean clean
  exact ⟨_, (bind_eq_ok_iff _ _ _).mpr ⟨sfid, (orFault_eq_ok_iff _ _ _ _).mpr found, rfl⟩⟩

theorem modifier_of_clean {opcode : Opcode} (known : instr.knownOpcode? = some opcode)
    (decoded : instr.opcode = .ok opcode) (clean : Clean instr.modifierPieces)
    (message : opcode.isSend = true → Clean instr.messagePieces) :
    ∃ modifier, instr.modifier = .ok modifier := by
  have meaning : ∃ modifier, Modifier.ofNumber? opcode (instr.get instr.layout.header.modifier)
      instr.gen.hasHeaderSfid = some modifier := by
    simp only [modifierPieces, known, Option.elim_some] at clean
    unfold Modifier.ofNumber?
    cases family : opcode.opcodeClass with
    | math =>
        rw [family] at clean
        obtain ⟨function, found⟩ := known_of_entry ((Clean.cons_iff _ _).mp clean).2
        exact ⟨_, congrArg (Option.map Modifier.mathFunction) found⟩
    | other =>
        rw [family] at clean
        obtain ⟨modifier, found⟩ := known_of_entry ((Clean.append_iff _ _).mp clean).1
        exact ⟨_, congrArg (Option.map Modifier.condition) found⟩
    | send =>
        cases shared : instr.gen.hasHeaderSfid with
        | false => exact ⟨_, rfl⟩
        | true =>
            -- The first line leaves the modifier out. It is shown as the shared function
            -- at the beginning of the second one.
            obtain ⟨sfid, found⟩ := sfid_of_clean (message (by simp [Opcode.isSend, family]))
            have number : instr.get instr.layout.header.modifier = instr.sfidNumber :=
              congrArg (BitRange.get · instr.bits) (Generation.modifier_eq_sfid shared)
            exact ⟨_, number ▸ congrArg (Option.map Modifier.sharedFunction) found⟩
  obtain ⟨modifier, found⟩ := meaning
  exact ⟨modifier, (bind_eq_ok_iff _ _ _).mpr
    ⟨opcode, decoded, (orFault_eq_ok_iff _ _ _ _).mpr found⟩⟩

/-- What a listing without errors shows has a meaning. Only of an operand that is shown by
its name alone may fields be without one that the listing hides. -/
theorem decodable_of_clean (instr : Instruction) (clean : instr.listing.errors = 0) :
    ∃ opcode, instr.opcode = .ok opcode ∧ (∃ modifier, instr.modifier = .ok modifier) ∧
      (opcode ≠ .nop → ∃ execSize, instr.execSize = .ok execSize) ∧
      (opcode.isSend = true → ∃ descriptor, instr.messageDescriptor = .ok descriptor) ∧
      ∀ kind ∈ instr.operandKinds, (∃ register, instr.operand kind = .ok register) ∨
        instr.NameOnly kind ∧ ∃ field ∈ instr.hiddenFields kind,
          instr.operand kind = .error ⟨field.name, instr.get field⟩ := by
  have pieces := (clean_iff_errors _).mpr clean
  simp only [Instruction.pieces, Clean.append_iff] at pieces
  obtain ⟨⟨⟨⟨⟨⟨⟨⟨-, mnemonic⟩, modifier⟩, execSize⟩, operands⟩, message⟩, -⟩, -⟩, -⟩ := pieces
  obtain ⟨opcode, known, decoded⟩ := opcode_of_clean mnemonic
  have message : opcode.isSend = true → Clean instr.messagePieces := by
    intro sends
    have isSend : instr.isSend = true := by simp [isSend, known, sends]
    rwa [if_pos isSend] at message
  refine ⟨opcode, decoded, modifier_of_clean known decoded modifier message, ?_,
    fun sends => messageDescriptor_of_clean (message sends), ?_⟩
  · intro notNop
    have notNop : ¬instr.isNop = true := by simp [isNop, known, notNop]
    simp only [execSizePieces, if_neg notNop, Clean.append_iff] at execSize
    obtain ⟨size, found⟩ := known_of_entry execSize.1.2
    exact ⟨size, (orFault_eq_ok_iff _ _ _ _).mpr found⟩
  · intro kind declared
    rw [operandPieces_eq, Clean.append_iff, Clean.flatMap_iff] at operands
    have shown := ((Clean.cons_iff _ _).mp (operands.2 kind declared)).2
    obtain ⟨hidden, rfl | ⟨rfl, nameOnly⟩, decoded | ⟨field, member, failed⟩⟩ :=
      operand_of_clean kind shown
    · exact Or.inl decoded
    · exact absurd member (by simp)
    · exact Or.inl decoded
    · exact Or.inr ⟨nameOnly, field, member, failed⟩

/-- `mov(8) g1<1>F null` of Gen8, the null register with a vertical stride that does not
exist. -/
def nullMove : Instruction :=
  ⟨.gen8, .ofWords 0x00600001 0x202038e8 0x01800000 0x00000000⟩

/-- The stride is hidden behind the name of the null register. -/
theorem decodable_of_clean_null :
    nullMove.listing.errors = 0 ∧ nullMove.NameOnly (.plain (.source .src0)) ∧
      nullMove.operand (.plain (.source .src0)) = .error ⟨"src0_vert_stride", 12⟩ ∧
      ∃ register, nullMove.operand (.plain .dst) = .ok register := by
  have clean : nullMove.listing.errors = 0 := by
    rw [listing, Listing.errors_ofPieces]
    decide
  have failed : nullMove.operand (.plain (.source .src0)) = .error ⟨"src0_vert_stride", 12⟩ := rfl
  obtain ⟨opcode, -, -, -, -, operands⟩ := decodable_of_clean nullMove clean
  obtain ⟨register, decoded⟩ | ⟨nameOnly, -⟩ := operands (.plain (.source .src0)) (by decide)
  · cases failed.symm.trans decoded
  · refine ⟨clean, nameOnly, failed, ?_⟩
    obtain decoded | ⟨nameOnly, -⟩ := operands (.plain .dst) (by decide)
    · exact decoded
    · exact absurd nameOnly.file (by decide)

end Instruction

end ExecUnit
