import ExecUnit.Instruction.Messages
import ExecUnit.Listing.Operand

/-!
The second line of SEND: the shared function, what its message says, and the
message lengths.
-/

namespace ExecUnit

/-- What the payload of a message is, as far as listings tell them apart. -/
inductive MessageForm where
  | sampler
  | urb
  | math (function : Field)
  | dataport
  | unsupported
  deriving DecidableEq, Repr

namespace MessageForm

-- Messages to the math unit exist where the descriptor has a function for them.
def ofSfid (fields : MessageFields) : Option Sfid → MessageForm
  | some .sampler => sampler
  | some .urb => urb
  | some target =>
      match target, fields.mathFunction with
      | .math, some function => math function
      | _, _ => if target.isDataport then dataport else unsupported
  | none => unsupported

end MessageForm

namespace Instruction

def sfidNumber (instr : Instruction) : Nat :=
  instr.get instr.gen.messageFields.sfid

def messageForm (instr : Instruction) : MessageForm :=
  .ofSfid instr.gen.messageFields (Coded.ofCode? instr.sfidNumber)

def samplerPieces (instr : Instruction) : List Piece :=
  let fields := instr.gen.messageFields
  let table := instr.get fields.samplerBindingTable
  let sampler := instr.get fields.sampler
  let type := instr.get fields.samplerType
  let mode := instr.get fields.samplerMode
  [.text s!" ({table}, {sampler}, {type}, {mode})"]

def flagPieces (word : String) (field? : Option Field) (instr : Instruction) : List Piece :=
  if field?.any instr.isSet then [.text (" " ++ word)] else []

-- Two numbers give the offset, the second being that of the slots.
def urbPieces (instr : Instruction) : List Piece :=
  let fields := instr.gen.messageFields
  let offset := instr.get fields.urbOffset
  let slotOffset := fields.urbPerSlotOffset.elim 0 instr.get
  spaced "urb opcode" (.urbOpcode instr.gen) (instr.get fields.urbOpcode) ++
    instr.flagPieces "interleaved" fields.urbInterleave ++
    [.text s!" {offset} {slotOffset}"] ++
    instr.flagPieces "complete" fields.urbComplete

def dataportPieces (instr : Instruction) : List Piece :=
  let fields := instr.gen.messageFields
  let table := instr.get fields.dataportBindingTable
  let control := Numeral.hex (instr.get fields.functionControl)
  [.text s!" ({table}, 0x{control})"]

def payloadPieces (instr : Instruction) : List Piece :=
  match instr.messageForm with
  | .sampler => instr.samplerPieces
  | .urb => instr.urbPieces
  | .math function => spaced "function" .mathFunction (instr.get function)
  | .dataport => instr.dataportPieces
  | .unsupported => [.text s!" unsupported shared function ID ({instr.sfidNumber})"]

def sfidWord? (instr : Instruction) : Option String :=
  Mnemonics.sfid instr.gen instr.sfidNumber

/-- A space comes before the lengths, except after the payload of a shared
function that has no word. Words of URB and math payloads bring their own. -/
def spacesLengths (instr : Instruction) : Bool :=
  match instr.messageForm with
  | .urb | .math _ => true
  | .sampler | .dataport | .unsupported => instr.sfidWord?.isSome

def lengthPieces (instr : Instruction) : List Piece :=
  let fields := instr.gen.messageFields
  let length := instr.get fields.length
  let responseLength := instr.get fields.responseLength
  [.text (if instr.spacesLengths then " " else ""), .text s!"mlen {length}",
    .text s!" rlen {responseLength}"]

def messagePieces (instr : Instruction) : List Piece :=
  [.newline, .pad 16] ++ entry "SFID" (.sfid instr.gen) instr.sfidNumber ++
    instr.payloadPieces ++ instr.lengthPieces

end Instruction

end ExecUnit
