import ExecUnit.Listing.Line
import ExecUnit.Proofs.Calls.Basic

/-!
Gen8 and Gen9. Only one call tells them apart, that for the extended message descriptor.
Without it a run is refused at the same call on both, or it leaves the same bits on both
(`run_gen8_gen9`), and the same bits read the same (`readsAlike`).
-/

namespace ExecUnit

def SameBits (first second : Instruction) : Prop :=
  ∃ bits, first = ⟨.gen8, bits⟩ ∧ second = ⟨.gen9, bits⟩

namespace Matched

variable {α γ δ : Type} {left right : Except Refusal α}

theorem bind_eq {later : γ → δ → Prop} (matched : Matched Eq left right)
    {next : α → Except Refusal γ} {next' : α → Except Refusal δ}
    (step : ∀ value, Matched later (next value) (next' value)) :
    Matched later (left >>= next) (right >>= next') :=
  matched.bind fun first _ same => same ▸ step first

end Matched

namespace Instruction

variable {bits : Encoding}

theorem accepted_sameBits (after : Encoding) :
    Matched SameBits (.ok ⟨.gen8, after⟩) (.ok ⟨.gen9, after⟩) :=
  .accepted ⟨after, rfl, rfl⟩

section Operands

theorem placed_gen8_gen9 (register : Register) :
    Matched Eq (register.placed .gen8) (register.placed .gen9) := by
  have checked (moved : Register) :
      Matched (fun _ _ => True) (moved.checkNumber .gen8) (moved.checkNumber .gen9) := by
    unfold Register.checkNumber
    cases moved.file with
    | general => exact Matched.demand Iff.rfl _ _
    | message => exact Matched.demand Iff.rfl _ _
    | architecture => exact .accepted trivial
    | immediate => exact .accepted trivial
  exact (checked (register.withoutMessageFile .gen8)).bind fun _ _ _ => .accepted rfl

theorem setSource_gen8_gen9 (slot : SourceSlot) (register : Register) :
    Matched SameBits (setSource slot register ⟨.gen8, bits⟩)
      (setSource slot register ⟨.gen9, bits⟩) := by
  have judged : Matched Eq (judgeSource slot register ⟨.gen8, bits⟩)
      (judgeSource slot register ⟨.gen9, bits⟩) :=
    (placed_gen8_gen9 register).bind_eq fun placed =>
      .bind_same (checkRegion placed ⟨.gen8, bits⟩) fun _ _ =>
      .bind_same placed.typeNumber fun _ _ =>
      .bind_same (checkSlot slot ⟨.gen8, bits⟩) fun _ _ =>
      .bind_same (placed.sourcePlace (accessMode ⟨.gen8, bits⟩)
        (executesOneChannel ⟨.gen8, bits⟩)) fun _ _ => .accepted rfl
  refine judged.bind_eq fun codes => ?_
  unfold writeSource alignSrc1
  cases slot <;> cases codes.place <;> exact accepted_sameBits _

theorem setDestination_gen8_gen9 (register : Register) :
    Matched SameBits (setDestination register ⟨.gen8, bits⟩)
      (setDestination register ⟨.gen9, bits⟩) := by
  refine (placed_gen8_gen9 register).bind_eq fun placed =>
    .bind_same (placed.destinationCodes (accessMode ⟨.gen8, bits⟩)) fun codes _ => ?_
  by_cases narrow : code placed.region.width < code ExecSize.e8
  · simp only [fitExecSize, if_pos narrow]
    exact accepted_sameBits _
  · simp only [fitExecSize, if_neg narrow]
    exact accepted_sameBits _

theorem setOperand_gen8_gen9 (slot : Slot) (register : Register) :
    Matched SameBits (setOperand slot register ⟨.gen8, bits⟩)
      (setOperand slot register ⟨.gen9, bits⟩) := by
  cases slot with
  | dst => exact setDestination_gen8_gen9 register
  | source slot => exact setSource_gen8_gen9 slot register

theorem checkTriple_gen8_gen9 (register : Register) :
    Matched (fun _ _ => True) (checkTriple register ⟨.gen8, bits⟩)
      (checkTriple register ⟨.gen9, bits⟩) := by
  refine (Matched.demand Iff.rfl _ _).bind fun _ _ _ => ?_
  exact .bind_same (demand _ _) fun _ _ => .bind_same (demand _ _) fun _ _ =>
    .bind_same (demand _ _) fun _ _ => Matched.demand Iff.rfl _ _

theorem setTripleType_gen8_gen9 (field : Field) (type : DataType) :
    Matched SameBits (setTripleType field type ⟨.gen8, bits⟩)
      (setTripleType field type ⟨.gen9, bits⟩) :=
  .bind_same (orRefuse (.typeNotThreeSource type) type.threeSourceCode?) fun _ _ =>
    accepted_sameBits _

theorem setTripleDestination_gen8_gen9 (register : Register) :
    Matched SameBits (setTripleDestination register ⟨.gen8, bits⟩)
      (setTripleDestination register ⟨.gen9, bits⟩) :=
  (placed_gen8_gen9 register).bind_eq fun placed =>
    (checkTriple_gen8_gen9 placed).bind fun _ _ _ => setTripleType_gen8_gen9 _ _

theorem setTripleSource_gen8_gen9 (index : Nat) (register : Register) :
    Matched SameBits (setTripleSource index register ⟨.gen8, bits⟩)
      (setTripleSource index register ⟨.gen9, bits⟩) :=
  (placed_gen8_gen9 register).bind_eq fun placed =>
    (checkTriple_gen8_gen9 placed).bind fun _ _ _ =>
    .bind_same (sourceIndex index) fun _ _ => setTripleType_gen8_gen9 _ _

end Operands

section Header

theorem setModifier_gen8_gen9 (modifier : Modifier) :
    Matched SameBits (setModifier modifier ⟨.gen8, bits⟩)
      (setModifier modifier ⟨.gen9, bits⟩) :=
  .bind_same (orRefuse _ (opcode? ⟨.gen8, bits⟩)) fun _ _ =>
    (Matched.demand Iff.rfl _ _).bind fun _ _ _ => accepted_sameBits _

theorem setFlagRegister_gen8_gen9 (number subreg : Nat) :
    Matched SameBits (setFlagRegister number subreg ⟨.gen8, bits⟩)
      (setFlagRegister number subreg ⟨.gen9, bits⟩) :=
  .bind_same (demand _ _) fun _ _ =>
    (Matched.demand Iff.rfl _ _).bind fun _ _ _ => accepted_sameBits _

theorem setHeaderCall_gen8_gen9 (call : HeaderCall) :
    Matched SameBits (setHeaderCall call ⟨.gen8, bits⟩)
      (setHeaderCall call ⟨.gen9, bits⟩) := by
  cases call with
  | opcode opcode => exact (Matched.demand Iff.rfl _ _).bind fun _ _ _ => accepted_sameBits _
  | setting setting =>
      cases setting with
      | modifier modifier => exact setModifier_gen8_gen9 modifier
      | flagRegister number subreg => exact setFlagRegister_gen8_gen9 number subreg
      | _ => exact accepted_sameBits _

end Header

section Messages

theorem setMessageDescriptor_gen8_gen9 (descriptor : MessageDescriptor) :
    Matched SameBits (setMessageDescriptor descriptor ⟨.gen8, bits⟩)
      (setMessageDescriptor descriptor ⟨.gen9, bits⟩) := by
  refine (setSource_gen8_gen9 .src1 (.immD 0)).bind fun first second same => ?_
  obtain ⟨cleared, rfl, rfl⟩ := same
  exact accepted_sameBits _

theorem setUrbMessage_gen8_gen9 (urb : UrbMessage) (length responseLength : Nat)
    (endOfThread : Bool) :
    Matched SameBits (setUrbMessage urb length responseLength endOfThread ⟨.gen8, bits⟩)
      (setUrbMessage urb length responseLength endOfThread ⟨.gen9, bits⟩) := by
  refine (setMessageDescriptor_gen8_gen9 _).bind fun first second same => ?_
  obtain ⟨described, rfl, rfl⟩ := same
  refine (setSource_gen8_gen9 .src0 (.message 1 0)).bind fun first second same => ?_
  obtain ⟨loaded, rfl, rfl⟩ := same
  exact accepted_sameBits _

theorem setSamplerMessage_gen8_gen9 (sampler : SamplerMessage) (length responseLength : Nat)
    (headerPresent : Bool) :
    Matched SameBits
      (setSamplerMessage sampler length responseLength headerPresent ⟨.gen8, bits⟩)
      (setSamplerMessage sampler length responseLength headerPresent ⟨.gen9, bits⟩) := by
  refine (setMessageDescriptor_gen8_gen9 _).bind fun first second same => ?_
  obtain ⟨described, rfl, rfl⟩ := same
  exact accepted_sameBits _

theorem setDataportMessage_gen8_gen9 (dataport : DataportMessage) (length responseLength : Nat)
    (headerPresent endOfThread : Bool) :
    Matched SameBits
      (setDataportMessage dataport length responseLength headerPresent endOfThread ⟨.gen8, bits⟩)
      (setDataportMessage dataport length responseLength headerPresent endOfThread
        ⟨.gen9, bits⟩) := by
  refine (Matched.demand Iff.rfl (.noDataportDescriptor .gen8) (.noDataportDescriptor .gen9)).bind
    fun _ _ _ => ?_
  refine .bind_same (demand _ _) fun _ _ => .bind_same (demand _ _) fun _ _ =>
    .bind_same (demand _ _) fun _ _ => .bind_same (demand _ _) fun _ _ => ?_
  refine (setMessageDescriptor_gen8_gen9 _).bind fun first second same => ?_
  obtain ⟨described, rfl, rfl⟩ := same
  exact accepted_sameBits _

-- Both have a MATH instruction instead.
theorem setMathMessage_gen8_gen9 (function : MathFunction) (length responseLength : Nat) :
    Matched SameBits (setMathMessage function length responseLength ⟨.gen8, bits⟩)
      (setMathMessage function length responseLength ⟨.gen9, bits⟩) :=
  .refused (.noMathMessage .gen8) (.noMathMessage .gen9)

theorem setMessage_gen8_gen9 (call : MessageCall) :
    Matched SameBits (setMessage call ⟨.gen8, bits⟩) (setMessage call ⟨.gen9, bits⟩) := by
  cases call with
  | descriptor descriptor => exact setMessageDescriptor_gen8_gen9 descriptor
  | urb message length responseLength endOfThread =>
      exact setUrbMessage_gen8_gen9 message length responseLength endOfThread
  | sampler message length responseLength headerPresent =>
      exact setSamplerMessage_gen8_gen9 message length responseLength headerPresent
  | dataport message length responseLength headerPresent endOfThread =>
      exact setDataportMessage_gen8_gen9 message length responseLength headerPresent endOfThread
  | math function length responseLength =>
      exact setMathMessage_gen8_gen9 function length responseLength

end Messages

theorem setRaw_gen8_gen9 (call : RawCall) :
    Matched SameBits (setRaw call ⟨.gen8, bits⟩) (setRaw call ⟨.gen9, bits⟩) := by
  cases call with
  | field field value => exact accepted_sameBits _
  | bits high low value =>
      simp only [setRaw, setBits]
      cases BitRange.ofBounds high low with
      | ok range => exact accepted_sameBits _
      | error fault => exact .refused _ _
  | address slot address => exact accepted_sameBits _

theorem perform_gen8_gen9 (call : Call) (ordinary : call.isExtended = false) :
    Matched SameBits (perform call ⟨.gen8, bits⟩) (perform call ⟨.gen9, bits⟩) := by
  cases call with
  | header call => exact setHeaderCall_gen8_gen9 call
  | operand slot register => exact setOperand_gen8_gen9 slot register
  | tripleDestination register => exact setTripleDestination_gen8_gen9 register
  | tripleSource index register => exact setTripleSource_gen8_gen9 index register
  | message call => exact setMessage_gen8_gen9 call
  | jumpTargets jip uip => exact accepted_sameBits _
  | raw call => exact setRaw_gen8_gen9 call
  | extendedDescriptor value => cases ordinary

structure ReadsAlike (first second : Instruction) : Prop where
  opcode : first.opcode = second.opcode
  accessMode : first.accessMode = second.accessMode
  execSize : first.execSize = second.execSize
  modifier : first.modifier = second.modifier
  flagRegister : first.flagRegister = second.flagRegister
  jumpTargets : first.jumpTargets = second.jumpTargets
  messageDescriptor : first.messageDescriptor = second.messageDescriptor
  destination : first.destination = second.destination
  source : ∀ slot, first.source slot = second.source slot
  tripleDestination : first.tripleDestination = second.tripleDestination
  tripleSource : ∀ index, first.tripleSource index = second.tripleSource index
  address : ∀ slot, first.address slot = second.address slot
  field : ∀ field, first.get field = second.get field
  bits : ∀ high low, first.getBits high low = second.getBits high low
  words : first.bits.words = second.bits.words

theorem readsAlike_gen8_gen9 (bits : Encoding) : ReadsAlike ⟨.gen8, bits⟩ ⟨.gen9, bits⟩ where
  opcode := rfl
  accessMode := rfl
  execSize := rfl
  modifier := rfl
  flagRegister := rfl
  jumpTargets := rfl
  messageDescriptor := rfl
  destination := rfl
  source _ := rfl
  tripleDestination := rfl
  tripleSource _ := rfl
  address _ := rfl
  field _ := rfl
  bits _ _ := rfl
  words := rfl

theorem listing_gen8_gen9 (bits : Encoding) :
    listing ⟨.gen8, bits⟩ = listing ⟨.gen9, bits⟩ :=
  rfl

/-- The runs on Gen8 and on Gen9: refused at the same call, or finished with the same bits. -/
inductive AlikeEndings : Ending → Ending → Prop where
  | finished (after : Encoding) : AlikeEndings (.finished ⟨.gen8, after⟩) (.finished ⟨.gen9, after⟩)
  | refused (position : Nat) (one other : Refusal) :
      AlikeEndings (.refused position one) (.refused position other)

theorem AlikeEndings.later {first second : Ending} (alike : AlikeEndings first second) :
    AlikeEndings first.later second.later := by
  cases alike with
  | finished after => exact .finished after
  | refused position one other => exact .refused (position + 1) one other

theorem run_alike (calls : List Call) (ordinary : ∀ call ∈ calls, call.isExtended = false)
    (bits : Encoding) : AlikeEndings (run ⟨.gen8, bits⟩ calls) (run ⟨.gen9, bits⟩ calls) := by
  induction calls generalizing bits with
  | nil => exact .finished bits
  | cons call rest ih =>
      rw [List.forall_mem_cons] at ordinary
      have step : Matched SameBits (perform call ⟨.gen8, bits⟩) (perform call ⟨.gen9, bits⟩) :=
        perform_gen8_gen9 call ordinary.1
      rw [run, run]
      generalize perform call ⟨.gen8, bits⟩ = onGen8 at step ⊢
      generalize perform call ⟨.gen9, bits⟩ = onGen9 at step ⊢
      cases step with
      | accepted same =>
          obtain ⟨after, rfl, rfl⟩ := same
          exact (ih ordinary.2 after).later
      | refused one other => exact .refused 0 one other

/-- Without the extended message descriptor nothing tells Gen8 and Gen9 apart: runs on the same
bits are refused at the same call, or leave bits that are the same, read the same and are listed
the same. -/
theorem run_gen8_gen9 (calls : List Call) (ordinary : ∀ call ∈ calls, call.isExtended = false)
    (bits : Encoding) :
    (∃ position one other, run ⟨.gen8, bits⟩ calls = .refused position one ∧
      run ⟨.gen9, bits⟩ calls = .refused position other) ∨
    ∃ after, run ⟨.gen8, bits⟩ calls = .finished ⟨.gen8, after⟩ ∧
      run ⟨.gen9, bits⟩ calls = .finished ⟨.gen9, after⟩ ∧
      ReadsAlike ⟨.gen8, after⟩ ⟨.gen9, after⟩ ∧
      listing ⟨.gen8, after⟩ = listing ⟨.gen9, after⟩ := by
  have alike := run_alike calls ordinary bits
  generalize run ⟨.gen8, bits⟩ calls = onGen8 at alike ⊢
  generalize run ⟨.gen9, bits⟩ calls = onGen9 at alike ⊢
  cases alike with
  | finished after =>
      exact Or.inr ⟨after, rfl, rfl, readsAlike_gen8_gen9 after, listing_gen8_gen9 after⟩
  | refused position one other => exact Or.inl ⟨position, one, other, rfl, rfl⟩

/-- A URB write after the header, and an operand that both refuse because src0 is taken. -/
def refusedCalls : List Call :=
  [.header (.opcode .send), .header (.setting (.execSize .e8)),
    .message (.urb ⟨0, 0, true, true⟩ 4 0 true), .operand (.source .src0) (.immUD 1),
    .operand (.source .src1) (.immUD 2)]

theorem run_gen8_gen9_refused :
    (∃ one other, run ⟨.gen8, 0⟩ refusedCalls = .refused 4 one ∧
      run ⟨.gen9, 0⟩ refusedCalls = .refused 4 other) ∧
    ∃ after, run ⟨.gen9, 0⟩ (refusedCalls.take 4) = .finished ⟨.gen9, after⟩ ∧
      listing ⟨.gen8, after⟩ = listing ⟨.gen9, after⟩ := by
  constructor
  · rcases run_gen8_gen9 refusedCalls (by decide) 0 with
      ⟨position, one, other, onGen8, onGen9⟩ | ⟨after, onGen8, -⟩
    · obtain rfl : 4 = position := by
        cases onGen8
        rfl
      exact ⟨one, other, onGen8, onGen9⟩
    · cases onGen8
  · rcases run_gen8_gen9 (refusedCalls.take 4) (by decide) 0 with
      ⟨position, one, other, onGen8, -⟩ | ⟨after, -, onGen9, -, listed⟩
    · cases onGen8
    · exact ⟨after, onGen9, listed⟩

end Instruction

end ExecUnit
