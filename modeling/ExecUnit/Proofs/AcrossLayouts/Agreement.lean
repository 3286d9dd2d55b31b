import ExecUnit.Proofs.AcrossLayouts.Listing
import ExecUnit.Proofs.AcrossLayouts.TripleOperands

/-!
The two layouts express the same instructions (`layouts_agree`). An instruction is built in
both by the same calls; each call is accepted on both or refused on both, and keeps the
encodings alike (`setHeader_matched`, `setKind_matched`). In the end both list the same.
-/

namespace ExecUnit

theorem OperandKind.le_column (kind : OperandKind) : 16 ≤ kind.column := by
  match kind with
  | .plain .dst | .tripleDestination => exact Nat.le_refl 16
  | .plain (.source .src0) | .plain (.source .src1) => decide
  | .tripleSource index => exact Nat.le_trans (by decide) (Nat.le_add_right 32 _)

namespace Opcode

theorem code_lt (opcode : Opcode) : code opcode < 128 := by
  have listed : ∀ opcode ∈ all, code opcode < 128 := by decide
  exact listed opcode (Coded.complete opcode)

-- Operands are declared in the order in which they are shown.
theorem operandKinds_ordered (opcode : Opcode) :
    opcode.operandKinds.Pairwise fun first later => first.column < later.column := by
  unfold operandKinds
  split
  · decide
  · split <;> split <;> split <;> decide

theorem threeSource_of_mem {opcode : Opcode} :
    ∀ kind ∈ opcode.operandKinds, kind.threeSource = opcode.isThreeSource := by
  unfold operandKinds
  cases opcode.isThreeSource with
  | true =>
      rw [if_pos rfl]
      decide
  | false =>
      rw [if_neg Bool.false_ne_true]
      split <;> split <;> split <;> decide

end Opcode

theorem Alike.mono {opcode : Opcode} {kinds kinds' : List OperandKind} {left right : Encoding}
    (alike : Alike opcode kinds left right) (fewer : kinds' ⊆ kinds) :
    Alike opcode kinds' left right :=
  ⟨alike.twins, fun kind member => alike.decoded kind (fewer member)⟩

namespace Instruction

def setKind (kind : OperandKind) (register : Register) :
    Instruction → Except Refusal Instruction :=
  match kind with
  | .plain slot => setOperand slot register
  | .tripleDestination => setTripleDestination register
  | .tripleSource index => setTripleSource index register

section Calls

variable {opcode : Opcode} {kinds : List OperandKind} {left right : Encoding}

/-- The operand that is shown next is accepted on both generations or refused on both, and
those before it still decode. -/
theorem setKind_matched (alike : Alike opcode kinds left right) (kind : OperandKind)
    (forms : ∀ other ∈ kind :: kinds, other.threeSource = opcode.isThreeSource)
    (order : ∀ earlier ∈ kinds, earlier.column < kind.column) {register : Register}
    (shared : register.SharedAddress) :
    Matched (SideBySide (Alike opcode (kind :: kinds))) (setKind kind register ⟨.gen7, left⟩)
      (setKind kind register ⟨.gen8, right⟩) := by
  obtain ⟨form, earlierForms⟩ := List.forall_mem_cons.mp forms
  -- Nothing is shown before a destination.
  have alone : kind.column = 16 → kinds = [] := by
    intro first
    cases kinds with
    | nil => rfl
    | cons earlier _ =>
        exact absurd (order earlier List.mem_cons_self) (Nat.not_lt.mpr (first ▸ earlier.le_column))
  match kind with
  | .plain .dst =>
      obtain rfl := alone rfl
      exact setDestination_matched alike.twins form.symm shared
  | .plain (.source slot) =>
      apply setSource_matched alike form.symm slot shared
      intro earlier member
      have plain := (earlierForms earlier member).trans form.symm
      cases earlier with
      | plain slot' => exact ⟨slot', rfl, order _ member⟩
      | tripleDestination | tripleSource _ => cases plain
  | .tripleDestination =>
      obtain rfl := alone rfl
      exact setTripleDestination_matched form.symm alike.twins register
  | .tripleSource index =>
      exact setTripleSource_matched form.symm alike
        (fun earlier member => (earlierForms earlier member).trans form.symm) index register

theorem setKinds_matched {registers : OperandKind → Register}
    (shared : ∀ kind ∈ opcode.operandKinds, (registers kind).SharedAddress)
    {done : List OperandKind} (todo : List OperandKind)
    (split : done ++ todo = opcode.operandKinds) (alike : Alike opcode done left right) :
    Matched (SideBySide (Alike opcode opcode.operandKinds))
      (todo.foldlM (fun instr kind => instr.setKind kind (registers kind)) ⟨.gen7, left⟩)
      (todo.foldlM (fun instr kind => instr.setKind kind (registers kind)) ⟨.gen8, right⟩) := by
  induction todo generalizing done left right with
  | nil =>
      rw [← split, List.append_nil]
      exact .accepted ⟨left, right, rfl, rfl, alike⟩
  | cons kind rest ih =>
      have within : ∀ other ∈ kind :: done, other ∈ opcode.operandKinds := by
        rw [← split, List.forall_mem_cons]
        exact ⟨List.mem_append_right _ List.mem_cons_self, fun _ => List.mem_append_left _⟩
      have ordered := opcode.operandKinds_ordered
      rw [← split, List.pairwise_append] at ordered
      have step := setKind_matched alike kind
        (fun other member => Opcode.threeSource_of_mem other (within other member))
        (fun earlier member => ordered.2.2 earlier member kind List.mem_cons_self)
        (shared kind (within kind List.mem_cons_self))
      rw [List.foldlM_cons, List.foldlM_cons]
      apply step.bind
      rintro _ _ ⟨left', right', rfl, rfl, alike'⟩
      have listed : done ++ [kind] ⊆ kind :: done := by
        simp [List.append_subset]
      exact ih ((List.append_assoc done [kind] rest).trans split) (alike'.mono listed)

theorem setOpcode_matched (opcode : Opcode) :
    Matched (SideBySide (Twins opcode)) (setOpcode opcode ⟨.gen7, 0⟩)
      (setOpcode opcode ⟨.gen8, 0⟩) := by
  obtain ⟨onGen7, onGen8⟩ := opcode.availableOn_both
  have room : opcodePair.left.capacity = 128 := by decide
  have same : opcodePair.left.capacity = opcodePair.right.capacity := by decide
  have held : opcodePair.left.get (opcodePair.left.set (code opcode) 0) = code opcode := by
    rw [BitRange.get_set, room, Nat.mod_eq_of_lt opcode.code_lt]
  have twin : Twin (opcodePair :: sharedPairs opcode.isThreeSource)
      (opcodePair.left.set (code opcode) 0) (opcodePair.right.set (code opcode) 0) :=
    (Twin.zero _).set (sharedPairs_aligned _) ⟨opcodePair, code opcode⟩ List.mem_cons_self
      (congrArg (code opcode % ·) same)
  unfold setOpcode
  refine (Matched.demand (iff_of_true onGen7 onGen8) _ _).bind fun _ _ _ => ?_
  exact .accepted ⟨_, _, rfl, rfl, held, twin⟩

end Calls

/-- An empty instruction is given its opcode, its settings and then its operands, until a
call is refused. -/
def build (kind : LayoutKind) (gen : Generation) (opcode : Opcode)
    (settings : List HeaderSetting) (registers : OperandKind → Register) :
    Except Refusal Instruction := do
  let empty ← ofLayout kind gen 0
  let named ← empty.setOpcode opcode
  let headed ← settings.foldlM (fun instr setting => instr.setHeader setting) named
  opcode.operandKinds.foldlM (fun instr kind => instr.setKind kind (registers kind)) headed

theorem build_matched {opcode : Opcode} (settings : List HeaderSetting)
    {registers : OperandKind → Register}
    (shared : ∀ kind ∈ opcode.operandKinds, (registers kind).SharedAddress) :
    Matched (SideBySide (Alike opcode opcode.operandKinds))
      (build .gen4 .gen7 opcode settings registers)
      (build .gen8 .gen8 opcode settings registers) := by
  have onGen7 : ofLayout .gen4 .gen7 0 = .ok ⟨.gen7, 0⟩ := rfl
  have onGen8 : ofLayout .gen8 .gen8 0 = .ok ⟨.gen8, 0⟩ := rfl
  have setting : ∀ first second call, SideBySide (Twins opcode) first second →
      Matched (SideBySide (Twins opcode)) (setHeader call first) (setHeader call second) := by
    rintro _ _ call ⟨left, right, rfl, rfl, twins⟩
    exact setHeader_matched call twins
  rw [build, build, onGen7, onGen8]
  apply (setOpcode_matched opcode).bind
  intro _ _ named
  apply (Matched.foldlM setting settings named).bind
  rintro _ _ ⟨left, right, rfl, rfl, twins⟩
  -- No operand is set yet.
  have none : Alike opcode [] left right := ⟨twins, fun _ member => absurd member List.not_mem_nil⟩
  exact setKinds_matched shared opcode.operandKinds (List.nil_append _) none

/-- Built by the same calls, an instruction is accepted on Gen7 and on Gen8 or refused on
both. If it is accepted, all operands decode to the same registers and both are listed
alike. -/
theorem layouts_agree (opcode : Opcode) (notSend : opcode.isSend = false)
    (noTargets : opcode.jumpTargets = 0) (settings : List HeaderSetting)
    (registers : OperandKind → Register)
    (shared : ∀ kind ∈ opcode.operandKinds, (registers kind).SharedAddress) :
    ((∃ first, build .gen4 .gen7 opcode settings registers = .ok first) ↔
      ∃ second, build .gen8 .gen8 opcode settings registers = .ok second) ∧
    ∀ first second, build .gen4 .gen7 opcode settings registers = .ok first →
      build .gen8 .gen8 opcode settings registers = .ok second →
      (∀ kind ∈ opcode.operandKinds, ∃ register,
        first.operand kind = .ok register ∧ second.operand kind = .ok register) ∧
      first.listing = second.listing := by
  have matched := build_matched settings shared
  refine ⟨matched.accepted_iff, fun first second onGen7 onGen8 => ?_⟩
  rw [onGen7, onGen8] at matched
  obtain ⟨left, right, rfl, rfl, alike⟩ := matched.related_of_ok
  exact ⟨alike.decoded, listing_of_alike alike notSend noTargets⟩

def busySettings : List HeaderSetting :=
  [.accessMode .align1, .execSize .e8, .predicate .normal true, .saturate true,
    .debugControl true, .maskControl .disable, .dependencyControl .noDDCheck,
    .quarterControl 1, .threadControl .atomic, .accWriteControl true,
    .modifier (.condition .less), .flagRegister 1 1]

def addOperands : OperandKind → Register
  | .plain .dst => (Register.general 0 0).indirect ⟨7, -20⟩
  | .plain (.source .src0) => (Register.message 3 8).negated
  | .plain (.source .src1) => Register.immF 0x3f800000
  | _ => Register.null

/-- The bits differ, among others in the sign of the destination's offset. -/
theorem layouts_agree_add :
    ∃ first second, build .gen4 .gen7 .add busySettings addOperands = .ok first ∧
      build .gen8 .gen8 .add busySettings addOperands = .ok second ∧
      first.bits ≠ second.bits ∧
      (∃ register, first.operand (.plain .dst) = .ok register ∧
        second.operand (.plain .dst) = .ok register) ∧
      first.listing = second.listing := by
  have shared : ∀ kind ∈ Opcode.add.operandKinds, (addOperands kind).SharedAddress := by
    intro kind _ address indirect
    match kind with
    | .plain .dst =>
        cases indirect
        decide
    | .plain (.source .src0) | .plain (.source .src1) | .tripleDestination | .tripleSource _ =>
        cases indirect
  obtain ⟨first, onGen7⟩ : ∃ first, build .gen4 .gen7 .add busySettings addOperands = .ok first :=
    ⟨_, rfl⟩
  obtain ⟨⟨accepted, -⟩, agree⟩ := layouts_agree .add rfl rfl busySettings addOperands shared
  obtain ⟨second, onGen8⟩ := accepted ⟨first, onGen7⟩
  obtain ⟨operands, listed⟩ := agree first second onGen7 onGen8
  refine ⟨first, second, onGen7, onGen8, ?_, operands _ List.mem_cons_self, listed⟩
  cases onGen7
  cases onGen8
  decide

end Instruction

end ExecUnit
