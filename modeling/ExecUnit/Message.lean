import ExecUnit.Coded

/-!
Shared functions, and the messages that SEND instructions pass to them.
-/

namespace ExecUnit

/-- Shared function IDs. The first two generations call 4 and 5 the dataport read
and write targets, and only they have `math`. -/
inductive Sfid where
  | null | math | sampler | gateway | samplerCache | renderCache | urb | threadSpawner | vme
  | constantCache | dataCache | pixelInterpolator | dataCache1 | cre
  deriving DecidableEq, Repr

instance : Coded Sfid where
  title := "Sfid"
  all := [.null, .math, .sampler, .gateway, .samplerCache, .renderCache, .urb,
    .threadSpawner, .vme, .constantCache, .dataCache, .pixelInterpolator,
    .dataCache1, .cre]
  code
    | .null => 0
    | .math => 1
    | .sampler => 2
    | .gateway => 3
    | .samplerCache => 4
    | .renderCache => 5
    | .urb => 6
    | .threadSpawner => 7
    | .vme => 8
    | .constantCache => 9
    | .dataCache => 10
    | .pixelInterpolator => 11
    | .dataCache1 => 12
    | .cre => 13
  label
    | .null => "Null"
    | .math => "Math"
    | .sampler => "Sampler"
    | .gateway => "Gateway"
    | .samplerCache => "SamplerCache"
    | .renderCache => "RenderCache"
    | .urb => "Urb"
    | .threadSpawner => "ThreadSpawner"
    | .vme => "Vme"
    | .constantCache => "ConstantCache"
    | .dataCache => "DataCache"
    | .pixelInterpolator => "PixelInterpolator"
    | .dataCache1 => "DataCache1"
    | .cre => "Cre"
  complete value := by cases value <;> decide
  distinct := by decide

/-- Whether a message to this shared function is a binding table index with
function control bits. -/
def Sfid.isDataport : Sfid → Bool
  | .samplerCache | .renderCache | .constantCache | .dataCache => true
  | _ => false

/-- The part of a message descriptor that every message has. Gen4 has no
header-present bit. -/
structure MessageDescriptor where
  sfid : Sfid
  length : Nat
  responseLength : Nat
  headerPresent : Bool
  endOfThread : Bool
  deriving DecidableEq, Repr

/-- `mode` is the SIMD mode, and the return format on Gen4. -/
structure SamplerMessage where
  bindingTable : Nat
  sampler : Nat
  type : Nat
  mode : Nat
  deriving DecidableEq, Repr

/-- `offset` counts units of 128 bits. `complete` exists before Gen8 only. -/
structure UrbMessage where
  opcode : Nat
  offset : Nat
  interleave : Bool
  complete : Bool
  deriving DecidableEq, Repr

structure DataportMessage where
  sfid : Sfid
  bindingTable : Nat
  type : Nat
  control : Nat
  deriving DecidableEq, Repr

/-- The function control of a dataport message: the binding table index, the
message control and the message type, from the low bits up. -/
def DataportMessage.functionControl (dataport : DataportMessage) : Nat :=
  dataport.bindingTable + (dataport.control <<< 8) + (dataport.type <<< 14)

end ExecUnit
