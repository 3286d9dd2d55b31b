import ExecUnit.Listing.Message

/-!
The listing of one instruction: predicate, mnemonic, execution size, operands
and a cluster of settings, each at its column. SEND takes two lines.
-/

namespace ExecUnit.Instruction

def knownOpcode? (instr : Instruction) : Option Opcode :=
  instr.opcode?.filter (·.availableOn instr.gen)

def opcodeInfo (instr : Instruction) : OpcodeInfo :=
  instr.knownOpcode?.elim .reserved Opcode.info

def isSend (instr : Instruction) : Bool :=
  instr.knownOpcode?.any Opcode.isSend

def isNop (instr : Instruction) : Bool :=
  instr.knownOpcode? = some .nop

-- Only some generations have more than one flag register.
def flagRegisterPieces (instr : Instruction) : List Piece :=
  let (number, subreg) := instr.flagRegister
  let number := if instr.gen.hasSecondFlag then number else 0
  .text s!"f{number}" :: subregPieces subreg

def predicatePieces (instr : Instruction) : List Piece :=
  let header := instr.layout.header
  let control := instr.get header.predicateControl
  if control = 0 then []
  else
    let what := match instr.accessMode with
      | .align1 => "predicate control align1"
      | .align16 => "predicate control align16"
    [.text "(", .text (if instr.isSet header.predicateInverse then "-" else "+")] ++
      instr.flagRegisterPieces ++
      entry what (.predicateControl instr.accessMode) control ++ [.text ") "]

def mnemonicPieces (instr : Instruction) : List Piece :=
  let header := instr.layout.header
  let name : Piece := match instr.knownOpcode? with
    | some opcode => .text opcode.mnemonic
    | none => .unknownOpcode (instr.get header.opcode)
  [name, .text (if instr.isSet header.saturate then ".sat" else ""),
    .text (if instr.isSet header.debugControl then ".breakpoint" else "")]

/-- Selection and the flow control of the first generations have a conditional
modifier, but no flag register for its result. -/
def dropsFlag (instr : Instruction) : Bool :=
  match instr.knownOpcode? with
  | some .sel => true
  | some .«if» | some .while => instr.gen.number < 6
  | _ => false

def conditionPieces (instr : Instruction) : List Piece :=
  let modifier := instr.get instr.layout.header.modifier
  entry "conditional modifier" (.conditionalModifier instr.gen) modifier ++
    if modifier = 0 ∨ instr.dropsFlag then [] else .text "." :: instr.flagRegisterPieces

/-- SEND shows the first message register of its payload here, where there is
one. -/
def modifierPieces (instr : Instruction) : List Piece :=
  let modifier := instr.get instr.layout.header.modifier
  match instr.knownOpcode?.elim .other Opcode.opcodeClass with
  | .math => .text " " :: entry "function" .mathFunction modifier
  | .send => if instr.gen.hasHeaderSfid then [] else [.text s!" {modifier}"]
  | .other => instr.conditionPieces

def execSizePieces (instr : Instruction) : List Piece :=
  if instr.isNop then []
  else
    [.text "("] ++
      entry "execution size" .execSize (instr.get instr.layout.header.execSize) ++ [.text ")"]

def jumpPieces (instr : Instruction) : List Piece :=
  let (jip, uip) := instr.jumpTargets
  match instr.knownOpcode?.elim 0 Opcode.jumpTargets with
  | 1 => [.text s!" {jip}"]
  | 2 => [.text s!" {jip} {uip}"]
  | _ => []

def tripleTypeNumber? (field : Field) (instr : Instruction) : Option Nat :=
  if instr.gen.hasThreeSourceTypes then some (instr.get field) else none

def tripleSourcePieces (index : Fin 3) (instr : Instruction) : List Piece :=
  .pad (32 + 16 * index.val) ::
    (instr.tripleSourceCodes index).pieces instr.gen
      (instr.tripleTypeNumber? instr.layout.triple.sourceType)

def triplePieces (instr : Instruction) : List Piece :=
  let destination := instr.layout.triple.readDestination instr.bits
  .pad 16 ::
      destination.pieces instr.gen (instr.tripleTypeNumber? instr.layout.triple.type) ++
    instr.tripleSourcePieces 0 ++ instr.tripleSourcePieces 1 ++ instr.tripleSourcePieces 2

-- Instructions without a destination show their jump targets instead.
def destinationPieces (instr : Instruction) : List Piece :=
  if 0 < instr.opcodeInfo.destinations then
    .pad 16 :: instr.destinationCodes.pieces instr.gen
  else instr.jumpPieces

def sourcePieces (slot : SourceSlot) (column : Nat) (instr : Instruction) : List Piece :=
  .pad column :: (instr.sourceCodes slot).pieces instr.gen

def operandPieces (instr : Instruction) : List Piece :=
  let sources := instr.opcodeInfo.sources
  if sources = 3 then instr.triplePieces
  else
    instr.destinationPieces ++
      (if 0 < sources then instr.sourcePieces .src0 32 else []) ++
      (if 1 < sources then instr.sourcePieces .src1 48 else [])

/-- Quarters of eight channels and halves of sixteen; other execution sizes
have nothing to choose. -/
def quarterPieces (instr : Instruction) : List Piece :=
  let control := instr.get instr.layout.header.quarterControl
  let execSize? : Option ExecSize :=
    Coded.ofCode? (instr.get instr.layout.header.execSize)
  if instr.gen.hasQuarterControl then
    match execSize? with
    | some .e8 => [.text s!" {control + 1}Q"]
    | some .e16 => [.text (if control < 2 then " 1H" else " 2H")]
    | _ => []
  else spaced "compression control" .compressionControl control

def endOfThreadPieces (instr : Instruction) : List Piece :=
  if instr.isSend ∧ instr.isSet instr.gen.messageFields.eot then [.text " EOT"] else []

def settingPieces (instr : Instruction) : List Piece :=
  let header := instr.layout.header
  [.text "\x7b", .text (" " ++ instr.accessMode.word)] ++
    spaced "mask control" .maskControl (instr.get header.maskControl) ++
    spaced "dependency control" .dependencyControl (instr.get header.dependencyControl) ++
    instr.quarterPieces ++
    spaced "thread control" .threadControl (instr.get header.threadControl) ++
    (if instr.isSet header.accWriteControl then [.text " AccWrEnable"] else []) ++
    instr.endOfThreadPieces ++ [.text " \x7d"]

def pieces (instr : Instruction) : List Piece :=
  instr.predicatePieces ++ instr.mnemonicPieces ++ instr.modifierPieces ++
    instr.execSizePieces ++ instr.operandPieces ++
    (if instr.isSend then instr.messagePieces else []) ++
    [.pad 64] ++ (if instr.isNop then [] else instr.settingPieces) ++
    [.text ";", .newline]

def listing (instr : Instruction) : Listing :=
  .ofPieces instr.pieces

end ExecUnit.Instruction
