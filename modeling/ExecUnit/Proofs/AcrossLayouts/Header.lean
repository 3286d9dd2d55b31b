import ExecUnit.Proofs.AcrossLayouts.Twin

/-!
The header of one instruction in both layouts. `Twins` holds of two encodings, one for Gen7
and one for Gen8, that have the opcode in common and the same numbers in all fields that the
two layouts share for it. The settings of the header keep it (`setHeader_matched`).
-/

namespace ExecUnit

inductive HeaderSetting where
  | accessMode (mode : AccessMode)
  | execSize (execSize : ExecSize)
  | predicate (control : PredicateControl) (inverse : Bool)
  | saturate (saturate : Bool)
  | debugControl (breakpoint : Bool)
  | maskControl (control : MaskControl)
  | dependencyControl (control : DependencyControl)
  | quarterControl (control : Nat)
  | threadControl (control : ThreadControl)
  | accWriteControl (enable : Bool)
  | modifier (modifier : Modifier)
  | flagRegister (number subreg : Nat)

def Instruction.setHeader (setting : HeaderSetting) (instr : Instruction) :
    Except Refusal Instruction :=
  match setting with
  | .accessMode mode => .ok (instr.setAccessMode mode)
  | .execSize execSize => .ok (instr.setExecSize execSize)
  | .predicate control inverse => .ok (instr.setPredicate control inverse)
  | .saturate saturate => .ok (instr.setSaturate saturate)
  | .debugControl breakpoint => .ok (instr.setDebugControl breakpoint)
  | .maskControl control => .ok (instr.setMaskControl control)
  | .dependencyControl control => .ok (instr.setDependencyControl control)
  | .quarterControl control => .ok (instr.setQuarterControl control)
  | .threadControl control => .ok (instr.setThreadControl control)
  | .accWriteControl enable => .ok (instr.setAccWriteControl enable)
  | .modifier modifier => instr.setModifier modifier
  | .flagRegister number subreg => instr.setFlagRegister number subreg

section Pairs

def fieldPair (select : Layout → Field) : RangePair :=
  ⟨(select .gen4).toBitRange, (select .gen8).toBitRange⟩

def opcodePair : RangePair :=
  fieldPair (·.header.opcode)

def settingPairs : List RangePair :=
  [fieldPair (·.header.accessMode), fieldPair (·.header.maskControl),
    fieldPair (·.header.dependencyControl), fieldPair (·.header.quarterControl),
    fieldPair (·.header.threadControl), fieldPair (·.header.predicateControl),
    fieldPair (·.header.predicateInverse), fieldPair (·.header.execSize),
    fieldPair (·.header.modifier), fieldPair (·.header.accWriteControl),
    fieldPair (·.header.debugControl), fieldPair (·.header.saturate)]

def Layout.flagFor (threeSource : Bool) (layout : Layout) : FlagFields :=
  if threeSource then layout.triple.flag else layout.header.flag

/-- The flag register, and what the layouts have in common of the operands: everything for
three-source instructions, and src0's file for all others. -/
def formPairs (threeSource : Bool) : List RangePair :=
  if threeSource then pairUp Layout.gen4.triple.ranges Layout.gen8.triple.ranges
  else [fieldPair (·.header.flag.number), fieldPair (·.header.flag.subreg),
    fieldPair (·.src0.file)]

/-- All that the layouts share, apart from the opcode. -/
def sharedPairs (threeSource : Bool) : List RangePair :=
  settingPairs ++ formPairs threeSource

theorem sharedPairs_aligned (threeSource : Bool) :
    Aligned (opcodePair :: sharedPairs threeSource) := by
  cases threeSource <;> decide

theorem settingPairs_capacity :
    ∀ pair ∈ settingPairs, pair.left.capacity = pair.right.capacity := by
  decide

theorem flagPairs_mem (threeSource : Bool) :
    fieldPair (fun layout => (layout.flagFor threeSource).number) ∈ sharedPairs threeSource ∧
      fieldPair (fun layout => (layout.flagFor threeSource).subreg) ∈ sharedPairs threeSource := by
  cases threeSource <;> decide

theorem flagPairs_capacity (threeSource : Bool) :
    (Layout.gen4.flagFor threeSource).number.capacity =
        (Layout.gen8.flagFor threeSource).number.capacity ∧
      (Layout.gen4.flagFor threeSource).subreg.capacity =
        (Layout.gen8.flagFor threeSource).subreg.capacity := by
  cases threeSource <;> decide

end Pairs

-- Both generations have three-source instructions, and with them all opcodes.
theorem Opcode.availableOn_both (opcode : Opcode) :
    opcode.availableOn .gen7 = true ∧ opcode.availableOn .gen8 = true :=
  ⟨Bool.or_true _, Bool.or_true _⟩

/-- Encodings of one instruction on Gen7 and on Gen8. -/
structure Twins (opcode : Opcode) (left right : Encoding) : Prop where
  sameOpcode : Layout.gen4.header.opcode.get left = code opcode
  held : Twin (opcodePair :: sharedPairs opcode.isThreeSource) left right

namespace Twins

variable {opcode : Opcode} {left right left' right' : Encoding}

theorem assign (twins : Twins opcode left right) {writes : List PairedWrite}
    (within : ∀ write ∈ writes,
      write.pair ∈ sharedPairs opcode.isThreeSource ∧ write.Fits) :
    Twins opcode (left.assign (writes.map (·.left))) (right.assign (writes.map (·.right))) := by
  have aligned := sharedPairs_aligned opcode.isThreeSource
  have apart : ∀ write ∈ writes.map (·.left), opcodePair.left.Disjoint write.range := by
    intro write member
    obtain ⟨paired, inWrites, rfl⟩ := List.mem_map.mp member
    exact (List.pairwise_cons.mp aligned.left).1 _
      (List.mem_map_of_mem (within paired inWrites).1)
  refine ⟨(Encoding.get_assign_of_disjoint _ _ apart left).trans twins.sameOpcode,
    twins.held.assign aligned ?_⟩
  intro write member
  exact ⟨List.mem_cons_of_mem _ (within write member).1, (within write member).2⟩

/-- Writes that leave `kept` alone on both sides, where the other shared fields are known to
hold the same afterwards. -/
theorem of_agree (twins : Twins opcode left right) {kept : List RangePair}
    (withOpcode : opcodePair ∈ kept)
    (within : kept ⊆ opcodePair :: sharedPairs opcode.isThreeSource)
    (inLeft : Encoding.Agree (kept.map (·.left)) left' left)
    (inRight : Encoding.Agree (kept.map (·.right)) right' right)
    (others : ∀ pair ∈ sharedPairs opcode.isThreeSource,
      pair ∈ kept ∨ pair.left.get left' = pair.right.get right') : Twins opcode left' right' := by
  have after := (twins.held.mono within).of_agree inLeft inRight
  have opcodeKept := inLeft _ (List.mem_map_of_mem withOpcode)
  refine ⟨opcodeKept.trans twins.sameOpcode, ?_⟩
  rw [Twin, List.forall_mem_cons]
  exact ⟨after _ withOpcode, fun pair member => (others pair member).elim (after pair) id⟩

-- Writes that leave all shared fields alone on both sides.
theorem of_apart (twins : Twins opcode left right) {writes writes' : List Assignment}
    (inLeft : Apart ((opcodePair :: sharedPairs opcode.isThreeSource).map (·.left))
      (writes.map (·.range)))
    (inRight : Apart ((opcodePair :: sharedPairs opcode.isThreeSource).map (·.right))
      (writes'.map (·.range))) :
    Twins opcode (left.assign writes) (right.assign writes') :=
  twins.of_agree List.mem_cons_self (List.Subset.refl _) (Encoding.agree_assign inLeft left)
    (Encoding.agree_assign inRight right) fun _ member => Or.inl (List.mem_cons_of_mem _ member)

theorem set_field (twins : Twins opcode left right) (select : Layout → Field)
    (member : fieldPair select ∈ sharedPairs opcode.isThreeSource) (value : Nat)
    (fits : value % (select .gen4).capacity = value % (select .gen8).capacity) :
    Twins opcode ((select .gen4).set value left) ((select .gen8).set value right) := by
  have within : ∀ write ∈ [PairedWrite.mk (fieldPair select) value],
      write.pair ∈ sharedPairs opcode.isThreeSource ∧ write.Fits := by
    intro write only
    obtain rfl := List.mem_singleton.mp only
    exact ⟨member, fits⟩
  exact twins.assign within

theorem set_setting (twins : Twins opcode left right) (select : Layout → Field)
    (member : fieldPair select ∈ settingPairs) (value : Nat) :
    Twins opcode ((select .gen4).set value left) ((select .gen8).set value right) :=
  twins.set_field select (List.mem_append_left _ member) value
    (congrArg (value % ·) (settingPairs_capacity _ member))

theorem get_eq (twins : Twins opcode left right) (select : Layout → Field)
    (member : fieldPair select ∈ sharedPairs opcode.isThreeSource) :
    (select .gen4).get left = (select .gen8).get right :=
  twins.held _ (List.mem_cons_of_mem _ member)

theorem get_setting_eq (twins : Twins opcode left right) (select : Layout → Field)
    (member : fieldPair select ∈ settingPairs) :
    (select .gen4).get left = (select .gen8).get right :=
  twins.get_eq select (List.mem_append_left _ member)

theorem opcode?_eq (twins : Twins opcode left right) :
    Instruction.opcode? ⟨.gen7, left⟩ = some opcode ∧
      Instruction.opcode? ⟨.gen8, right⟩ = some opcode := by
  have atRight : Layout.gen8.header.opcode.get right = code opcode :=
    (twins.held opcodePair List.mem_cons_self).symm.trans twins.sameOpcode
  exact ⟨(congrArg Coded.ofCode? twins.sameOpcode).trans (Coded.ofCode?_code opcode),
    (congrArg Coded.ofCode? atRight).trans (Coded.ofCode?_code opcode)⟩

end Twins

/-- Instructions on Gen7 and on Gen8 with related bits. -/
def SideBySide (related : Encoding → Encoding → Prop) (first second : Instruction) : Prop :=
  ∃ left right, first = ⟨.gen7, left⟩ ∧ second = ⟨.gen8, right⟩ ∧ related left right

namespace Instruction

variable {opcode : Opcode} {left right : Encoding}

theorem set_matched (twins : Twins opcode left right) (select : Layout → Field)
    (member : fieldPair select ∈ settingPairs) (value : Nat) :
    Matched (SideBySide (Twins opcode)) (.ok (set (select .gen4) value ⟨.gen7, left⟩))
      (.ok (set (select .gen8) value ⟨.gen8, right⟩)) :=
  .accepted ⟨_, _, rfl, rfl, twins.set_setting select member value⟩

theorem setModifier_matched (twins : Twins opcode left right) (modifier : Modifier) :
    Matched (SideBySide (Twins opcode)) (setModifier modifier ⟨.gen7, left⟩)
      (setModifier modifier ⟨.gen8, right⟩) := by
  obtain ⟨atLeft, atRight⟩ := twins.opcode?_eq
  unfold setModifier
  rw [atLeft, atRight]
  exact (Matched.demand Iff.rfl _ _).bind fun _ _ _ =>
    set_matched twins (·.header.modifier) (by decide) _

theorem isThreeSource_of_twins (twins : Twins opcode left right) :
    isThreeSource ⟨.gen7, left⟩ = opcode.isThreeSource ∧
      isThreeSource ⟨.gen8, right⟩ = opcode.isThreeSource := by
  obtain ⟨atLeft, atRight⟩ := twins.opcode?_eq
  obtain ⟨onGen7, onGen8⟩ := opcode.availableOn_both
  simp only [isThreeSource, atLeft, atRight, Option.any_some, onGen7, onGen8, Bool.and_true,
    and_self]

theorem setFlagRegister_matched (twins : Twins opcode left right) (number subreg : Nat) :
    Matched (SideBySide (Twins opcode)) (setFlagRegister number subreg ⟨.gen7, left⟩)
      (setFlagRegister number subreg ⟨.gen8, right⟩) := by
  obtain ⟨atLeft, atRight⟩ := isThreeSource_of_twins twins
  unfold setFlagRegister flagFields
  rw [atLeft, atRight]
  refine (Matched.demand Iff.rfl _ _).bind fun _ _ _ =>
    (Matched.demand Iff.rfl _ _).bind fun _ _ _ => ?_
  obtain ⟨atNumber, atSubreg⟩ := flagPairs_mem opcode.isThreeSource
  obtain ⟨numberRoom, subregRoom⟩ := flagPairs_capacity opcode.isThreeSource
  have numbered := twins.set_field _ atNumber number (congrArg (number % ·) numberRoom)
  have whole := numbered.set_field _ atSubreg subreg (congrArg (subreg % ·) subregRoom)
  exact .accepted ⟨_, _, rfl, rfl, whole⟩

theorem setHeader_matched (setting : HeaderSetting) (twins : Twins opcode left right) :
    Matched (SideBySide (Twins opcode)) (setHeader setting ⟨.gen7, left⟩)
      (setHeader setting ⟨.gen8, right⟩) := by
  cases setting with
  | accessMode mode => exact set_matched twins (·.header.accessMode) (by decide) _
  | execSize execSize => exact set_matched twins (·.header.execSize) (by decide) _
  | predicate control inverse =>
      have first := twins.set_setting (·.header.predicateControl) (by decide) (code control)
      exact set_matched first (·.header.predicateInverse) (by decide) _
  | saturate saturate => exact set_matched twins (·.header.saturate) (by decide) _
  | debugControl breakpoint => exact set_matched twins (·.header.debugControl) (by decide) _
  | maskControl control => exact set_matched twins (·.header.maskControl) (by decide) _
  | dependencyControl control =>
      exact set_matched twins (·.header.dependencyControl) (by decide) _
  | quarterControl control => exact set_matched twins (·.header.quarterControl) (by decide) _
  | threadControl control => exact set_matched twins (·.header.threadControl) (by decide) _
  | accWriteControl enable => exact set_matched twins (·.header.accWriteControl) (by decide) _
  | modifier modifier => exact setModifier_matched twins modifier
  | flagRegister number subreg => exact setFlagRegister_matched twins number subreg

end Instruction

end ExecUnit
