import ExecUnit.Generation

/-!
The instruction set: opcodes with their numbers, mnemonics and operand counts.
-/

namespace ExecUnit

inductive Opcode where
  | mov | sel | not | and | or | xor | shr | shl | asr | cmp | cmpn | f32to16 | f16to32 | bfrev
  | bfe | bfi1 | bfi2 | jmpi | «if» | iff | «else» | endif | «do» | while | break | continue
  | halt | msave | mrestore | push | pop | wait | send | sendc | math | add | mul | avg | frc
  | rndu | rndd | rnde | rndz | mac | mach | lzd | fbh | fbl | cbit | addc | subb | sad2
  | sada2 | dp4 | dph | dp3 | dp2 | line | pln | mad | lrp | nop
  deriving DecidableEq, Repr

/-- What is known about an opcode number; reserved numbers have no mnemonic. -/
structure OpcodeInfo where
  mnemonic? : Option String
  sources : Nat
  destinations : Nat
  deriving DecidableEq, Repr

def OpcodeInfo.reserved : OpcodeInfo := ⟨none, 0, 0⟩

namespace Opcode

structure Entry where
  number : Nat
  label : String
  mnemonic : String
  sources : Nat
  destinations : Nat

def entry : Opcode → Entry
  | .mov => ⟨1, "Mov", "mov", 1, 1⟩
  | .sel => ⟨2, "Sel", "sel", 2, 1⟩
  | .not => ⟨4, "Not", "not", 1, 1⟩
  | .and => ⟨5, "And", "and", 2, 1⟩
  | .or => ⟨6, "Or", "or", 2, 1⟩
  | .xor => ⟨7, "Xor", "xor", 2, 1⟩
  | .shr => ⟨8, "Shr", "shr", 2, 1⟩
  | .shl => ⟨9, "Shl", "shl", 2, 1⟩
  | .asr => ⟨12, "Asr", "asr", 2, 1⟩
  | .cmp => ⟨16, "Cmp", "cmp", 2, 1⟩
  | .cmpn => ⟨17, "Cmpn", "cmpn", 2, 1⟩
  | .f32to16 => ⟨19, "F32to16", "f32to16", 1, 1⟩
  | .f16to32 => ⟨20, "F16to32", "f16to32", 1, 1⟩
  | .bfrev => ⟨23, "Bfrev", "bfrev", 1, 1⟩
  | .bfe => ⟨24, "Bfe", "bfe", 3, 1⟩
  | .bfi1 => ⟨25, "Bfi1", "bfi1", 2, 1⟩
  | .bfi2 => ⟨26, "Bfi2", "bfi2", 3, 1⟩
  | .jmpi => ⟨32, "Jmpi", "jmpi", 0, 0⟩
  | .«if» => ⟨34, "If", "if", 0, 0⟩
  | .iff => ⟨35, "Iff", "iff", 0, 0⟩
  | .«else» => ⟨36, "Else", "else", 0, 0⟩
  | .endif => ⟨37, "Endif", "endif", 0, 0⟩
  | .«do» => ⟨38, "Do", "do", 0, 0⟩
  | .while => ⟨39, "While", "while", 0, 0⟩
  | .break => ⟨40, "Break", "break", 0, 0⟩
  | .continue => ⟨41, "Continue", "cont", 0, 0⟩
  | .halt => ⟨42, "Halt", "halt", 0, 0⟩
  | .msave => ⟨44, "Msave", "msave", 1, 1⟩
  | .mrestore => ⟨45, "Mrestore", "mrest", 1, 1⟩
  | .push => ⟨46, "Push", "push", 0, 0⟩
  | .pop => ⟨47, "Pop", "pop", 0, 0⟩
  | .wait => ⟨48, "Wait", "wait", 1, 0⟩
  | .send => ⟨49, "Send", "send", 1, 1⟩
  | .sendc => ⟨50, "Sendc", "sendc", 1, 1⟩
  | .math => ⟨56, "Math", "math", 2, 1⟩
  | .add => ⟨64, "Add", "add", 2, 1⟩
  | .mul => ⟨65, "Mul", "mul", 2, 1⟩
  | .avg => ⟨66, "Avg", "avg", 2, 1⟩
  | .frc => ⟨67, "Frc", "frc", 1, 1⟩
  | .rndu => ⟨68, "Rndu", "rndu", 1, 1⟩
  | .rndd => ⟨69, "Rndd", "rndd", 1, 1⟩
  | .rnde => ⟨70, "Rnde", "rnde", 1, 1⟩
  | .rndz => ⟨71, "Rndz", "rndz", 1, 1⟩
  | .mac => ⟨72, "Mac", "mac", 2, 1⟩
  | .mach => ⟨73, "Mach", "mach", 2, 1⟩
  | .lzd => ⟨74, "Lzd", "lzd", 1, 1⟩
  | .fbh => ⟨75, "Fbh", "fbh", 1, 1⟩
  | .fbl => ⟨76, "Fbl", "fbl", 1, 1⟩
  | .cbit => ⟨77, "Cbit", "cbit", 1, 1⟩
  | .addc => ⟨78, "Addc", "addc", 2, 1⟩
  | .subb => ⟨79, "Subb", "subb", 2, 1⟩
  | .sad2 => ⟨80, "Sad2", "sad2", 2, 1⟩
  | .sada2 => ⟨81, "Sada2", "sada2", 2, 1⟩
  | .dp4 => ⟨84, "Dp4", "dp4", 2, 1⟩
  | .dph => ⟨85, "Dph", "dph", 2, 1⟩
  | .dp3 => ⟨86, "Dp3", "dp3", 2, 1⟩
  | .dp2 => ⟨87, "Dp2", "dp2", 2, 1⟩
  | .line => ⟨89, "Line", "line", 2, 1⟩
  | .pln => ⟨90, "Pln", "pln", 2, 1⟩
  | .mad => ⟨91, "Mad", "mad", 3, 1⟩
  | .lrp => ⟨92, "Lrp", "lrp", 3, 1⟩
  | .nop => ⟨126, "Nop", "nop", 0, 0⟩

def all : List Opcode :=
  [.mov, .sel, .not, .and, .or, .xor, .shr, .shl, .asr, .cmp, .cmpn, .f32to16, .f16to32,
    .bfrev, .bfe, .bfi1, .bfi2, .jmpi, .«if», .iff, .«else», .endif, .«do», .while, .break,
    .continue, .halt, .msave, .mrestore, .push, .pop, .wait, .send, .sendc, .math, .add,
    .mul, .avg, .frc, .rndu, .rndd, .rnde, .rndz, .mac, .mach, .lzd, .fbh, .fbl, .cbit,
    .addc, .subb, .sad2, .sada2, .dp4, .dph, .dp3, .dp2, .line, .pln, .mad, .lrp, .nop]

instance : Coded Opcode where
  title := "Opcode"
  all := all
  code opcode := opcode.entry.number
  label opcode := opcode.entry.label
  complete value := by cases value <;> decide
  distinct := by decide

def mnemonic (opcode : Opcode) : String :=
  opcode.entry.mnemonic

def sources (opcode : Opcode) : Nat :=
  opcode.entry.sources

def destinations (opcode : Opcode) : Nat :=
  opcode.entry.destinations

def info (opcode : Opcode) : OpcodeInfo :=
  ⟨some opcode.mnemonic, opcode.sources, opcode.destinations⟩

def ofMnemonic? (mnemonic : String) : Option Opcode :=
  all.find? (·.mnemonic == mnemonic)

def isThreeSource (opcode : Opcode) : Bool :=
  opcode.sources = 3

def availableOn (gen : Generation) (opcode : Opcode) : Bool :=
  !opcode.isThreeSource || gen.hasThreeSource

def jumpTargets : Opcode → Nat
  | .endif => 1
  | .«if» | .«else» | .while | .break | .continue | .halt => 2
  | _ => 0

end Opcode

/-- What an opcode makes of the header bits that conditional modifiers use. -/
inductive OpcodeClass where
  | math | send | other
  deriving DecidableEq, Repr

def OpcodeClass.name : OpcodeClass → String
  | .math => "Math"
  | .send => "Send"
  | .other => "Other"

namespace Opcode

def opcodeClass : Opcode → OpcodeClass
  | .math => .math
  | .send | .sendc => .send
  | _ => .other

def isSend (opcode : Opcode) : Bool :=
  opcode.opcodeClass = .send

end Opcode

/-- The description of any number; numbers past the field are reserved too. -/
def OpcodeInfo.ofNumber (number : Nat) : OpcodeInfo :=
  match (Coded.ofCode? number : Option Opcode) with
  | some opcode => opcode.info
  | none => .reserved

end ExecUnit
