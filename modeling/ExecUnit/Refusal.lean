import ExecUnit.Header.Modifier
import ExecUnit.Layout.Coverage
import ExecUnit.Numeral.Hex
import ExecUnit.Register.Basic

/-!
Why an instruction cannot be encoded as asked.
-/

namespace ExecUnit

inductive Refusal where
  | layoutMismatch (kind : LayoutKind) (gen : Generation)
  | badRange (high low : Nat) (fault : RangeFault)
  | generalOutOfRange (number : Nat)
  | messageOutOfRange (number : Nat) (gen : Generation)
  | typeNotInFile (type : DataType) (file : RegisterFile)
  | typeNotThreeSource (type : DataType)
  | opcodeUnavailable (gen : Generation) (opcode : Opcode)
  | noFlagRegister (number subreg : Nat)
  | onlyFirstFlag (gen : Generation)
  | opcodeUnset (number : Nat)
  | modifierMisplaced (modifier : Modifier) (opcode : Opcode) (gen : Generation)
  | reservedExecSize (number : Nat)
  | badRegion (region : Region) (execSize : ExecSize) (fault : RegionFault)
  | misalignedDestination (offset : Nat)
  | misalignedSource (offset : Nat)
  | indirectDestination
  | indirectSource
  | secondImmediate
  | noDataportDescriptor (gen : Generation)
  | notDataport (sfid : Sfid)
  | bindingTableTooLarge (index : Nat)
  | messageTypeTooWide (type : Nat)
  | messageControlTooWide (control : Nat)
  | noMathMessage (gen : Generation)
  | noExtendedDescriptor (gen : Generation)
  | noThreeSource (gen : Generation)
  | threeSourceAlign1
  | threeSourceFile
  | threeSourceIndirect
  | threeSourceOffset (offset : Nat)
  | threeSourceFloatOnly (gen : Generation)
  | noSuchSource (index : Nat)
  deriving DecidableEq, Repr

namespace LayoutKind

def name (kind : LayoutKind) : String :=
  kind.layout.title

end LayoutKind

namespace Refusal

def message : Refusal → String
  | .layoutMismatch kind gen =>
      s!"the {kind.name} layout does not encode {gen.name} instructions"
  | .badRange high low fault => fault.message high low
  | .generalOutOfRange number =>
      s!"g{number} is beyond the {Generation.generalRegisterCount} general registers"
  | .messageOutOfRange number gen =>
      s!"m{number} is beyond the {gen.messageRegisterCount} message registers of {gen.name}"
  | .typeNotInFile type file =>
      s!"{type.name} operands cannot be encoded in the {label file} register file"
  | .typeNotThreeSource type =>
      s!"three-source instructions cannot operate on {type.name}"
  | .opcodeUnavailable gen opcode =>
      s!"{gen.name} cannot encode {opcode.mnemonic}"
  | .noFlagRegister number subreg =>
      s!"there is no flag register f{number}.{subreg}"
  | .onlyFirstFlag gen =>
      s!"{gen.name} only has f0"
  | .opcodeUnset number =>
      s!"set the opcode before its modifier (found {number})"
  | .modifierMisplaced modifier opcode gen =>
      s!"{modifier.describe} is not a modifier of {opcode.mnemonic} on {gen.name}"
  | .reservedExecSize number =>
      s!"execution size encoding {number} is reserved"
  | .badRegion region execSize fault =>
      s!"region {region.describe} with execution size {execSize.channels}: {fault.message}"
  | .misalignedDestination offset =>
      s!"Align16 destination sub-register {offset} is not 0 or 16"
  | .misalignedSource offset =>
      s!"Align16 source sub-register {offset} is not 0 or 16"
  | .indirectDestination => "indirect destinations require Align1"
  | .indirectSource => "indirect sources require Align1"
  | .secondImmediate => "src1 cannot be set when src0 is an immediate"
  | .noDataportDescriptor gen =>
      s!"{gen.name} dataport messages have a different descriptor"
  | .notDataport sfid => s!"{label sfid} is not a dataport"
  | .bindingTableTooLarge index => s!"binding table index {index} is over 255"
  | .messageTypeTooWide type =>
      s!"message type 0x{Numeral.hex type} is wider than 5 bits"
  | .messageControlTooWide control =>
      s!"message control 0x{Numeral.hex control} is wider than 6 bits"
  | .noMathMessage gen => s!"{gen.name} has a MATH instruction instead"
  | .noExtendedDescriptor gen => s!"{gen.name} has no extended message descriptor"
  | .noThreeSource gen => s!"{gen.name} has no three-source instructions"
  | .threeSourceAlign1 => "three-source instructions require Align16"
  | .threeSourceFile => "three-source operands must be general registers"
  | .threeSourceIndirect => "three-source operands must be directly addressed"
  | .threeSourceOffset offset =>
      s!"three-source sub-register {offset} is not dword aligned"
  | .threeSourceFloatOnly gen =>
      s!"{gen.name} three-source instructions only operate on floats"
  | .noSuchSource index => s!"three-source instructions have no source {index}"

end Refusal

def demand (condition : Prop) [Decidable condition] (refusal : Refusal) : Except Refusal Unit :=
  if condition then .ok () else .error refusal

theorem demand_eq_ok_iff (condition : Prop) [Decidable condition] (refusal : Refusal)
    (done : Unit) : demand condition refusal = .ok done ↔ condition := by
  unfold demand
  split <;> simp_all

def orRefuse {α : Type} (refusal : Refusal) : Option α → Except Refusal α
  | some value => .ok value
  | none => .error refusal

theorem orRefuse_eq_ok_iff {α : Type} (refusal : Refusal) (found : Option α) (value : α) :
    orRefuse refusal found = .ok value ↔ found = some value := by
  cases found <;> simp [orRefuse]

end ExecUnit
