import ExecUnit.Header.Control
import ExecUnit.Listing.Piece
import ExecUnit.Message
import ExecUnit.Register.Basic

/-!
The words that stand for field values in a listing. A value without a word is
reserved, or has no meaning on the generation at hand.
-/

namespace ExecUnit

abbrev Mnemonics := Nat → Option String

namespace Mnemonics

def ofCoded {α : Type} [Coded α] (word? : α → Option String) : Mnemonics :=
  fun number => (Coded.ofCode? number).bind word?

def ofList (words : List String) : Mnemonics :=
  fun number => words[number]?

end Mnemonics

def entry (what : String) (words : Mnemonics) (value : Nat) : List Piece :=
  match words value with
  | some word => [.text word]
  | none => [.malformed what value]

/-- The word of a value in a row of words: set off by a space, unless there is
nothing to say. -/
def spaced (what : String) (words : Mnemonics) (value : Nat) : List Piece :=
  match words value with
  | some word => if word = "" then [] else [.text (" " ++ word)]
  | none => [.malformed what value]

def ConditionalModifier.word? (gen : Generation) : ConditionalModifier → Option String
  | .none => some ""
  | .zero => some ".e"
  | .notZero => some ".ne"
  | .greater => some ".g"
  | .greaterEqual => some ".ge"
  | .less => some ".l"
  | .lessEqual => some ".le"
  | .round => if gen.number < 6 then some ".r" else Option.none
  | .overflow => some ".o"
  | .unordered => some ".u"

-- The widest strides are not used in listings.
def VerticalStride.word? : VerticalStride → Option String
  | .s0 => some "0"
  | .s1 => some "1"
  | .s2 => some "2"
  | .s4 => some "4"
  | .s8 => some "8"
  | .s16 => some "16"
  | .s32 => some "32"
  | .s64 | .s128 | .s256 => none
  | .vxh => some "VxH"

def Width.word (width : Width) : String :=
  toString width.elements

def HorizontalStride.word (hstride : HorizontalStride) : String :=
  toString hstride.elements

def ExecSize.word (execSize : ExecSize) : String :=
  toString execSize.channels

def Channel.word : Channel → String
  | .x => "x"
  | .y => "y"
  | .z => "z"
  | .w => "w"

/-- One letter stands for four equal ones, and nothing for the identity. -/
def Swizzle.word (swizzle : Swizzle) : String :=
  if swizzle = .identity then ""
  else if swizzle = ⟨swizzle.x, swizzle.x, swizzle.x, swizzle.x⟩ then "." ++ swizzle.x.word
  else "." ++ String.join (swizzle.channels.map Channel.word)

def WriteMask.word (mask : WriteMask) : String :=
  if mask = .full then ""
  else if mask.pack = 0 then ".(none)"
  else
    let letter (enabled : Bool) (channel : Channel) := if enabled then channel.word else ""
    "." ++ letter mask.x .x ++ letter mask.y .y ++ letter mask.z .z ++ letter mask.w .w

def AccessMode.word : AccessMode → String
  | .align1 => "align1"
  | .align16 => "align16"

def MaskControl.word : MaskControl → String
  | .enable => "WE_normal"
  | .disable => "WE_all"

def DependencyControl.word : DependencyControl → String
  | .none => ""
  | .noDDClear => "NoDDClr"
  | .noDDCheck => "NoDDChk"
  | .noDDClearCheck => "NoDDClr,NoDDChk"

def ThreadControl.word : ThreadControl → String
  | .normal => ""
  | .atomic => "atomic"
  | .switch => "switch"

def PredicateControl.word : PredicateControl → String
  | .none | .normal => ""
  | .anyV => ".anyv"
  | .allV => ".allv"
  | .any2H => ".any2h"
  | .all2H => ".all2h"
  | .any4H => ".any4h"
  | .all4H => ".all4h"
  | .any8H => ".any8h"
  | .all8H => ".all8h"
  | .any16H => ".any16h"
  | .all16H => ".all16h"
  | .any32H => ".any32h"
  | .all32H => ".all32h"

-- In Align16 the low controls select a channel.
def PredicateControl.align16Word? : PredicateControl → Option String
  | .none | .normal => some ""
  | .anyV => some ".x"
  | .allV => some ".y"
  | .any2H => some ".z"
  | .all2H => some ".w"
  | .any4H => some ".any4h"
  | .all4H => some ".all4h"
  | _ => Option.none

def MathFunction.word : MathFunction → String
  | .inv => "inv"
  | .log => "log"
  | .exp => "exp"
  | .sqrt => "sqrt"
  | .rsq => "rsq"
  | .sin => "sin"
  | .cos => "cos"
  | .fdiv => "fdiv"
  | .pow => "pow"
  | .intDivQuotientAndRemainder => "intdivmod"
  | .intDivQuotient => "intdiv"
  | .intDivRemainder => "intmod"
  | .invm => "invm"
  | .rsqrtm => "rsqrtm"

-- Message registers are gone where there is no message file.
def RegisterFile.word? (gen : Generation) : RegisterFile → Option String
  | .architecture => some "A"
  | .general => some "g"
  | .message => if gen.hasMessageFile then some "m" else none
  | .immediate => some "imm"

-- The message targets of the first generations end with the thread spawner.
def Sfid.targetWord? : Sfid → Option String
  | .null => some "null"
  | .math => some "math"
  | .sampler => some "sampler"
  | .gateway => some "gateway"
  | .samplerCache => some "dp/read"
  | .renderCache => some "dp/write"
  | .urb => some "URB"
  | .threadSpawner => some "thread_spawner"
  | _ => none

def Sfid.sharedWord? : Sfid → Option String
  | .null => some "null"
  | .math => none
  | .sampler => some "sampler"
  | .gateway => some "gateway"
  | .samplerCache => some "dp/sampler_cache"
  | .renderCache => some "dp/render_cache"
  | .urb => some "URB"
  | .threadSpawner => some "thread_spawner"
  | .vme => some "vme"
  | .constantCache => some "dp/constant_cache"
  | .dataCache => some "dp/data_cache"
  | .pixelInterpolator => some "pi"
  | .dataCache1 => some "dp/data_cache:1"
  | .cre => some "cre"

def Sfid.word? (gen : Generation) : Sfid → Option String :=
  if gen.hasHeaderSfid then sharedWord? else targetWord?

def ArchKind.stem : ArchKind → String
  | .null => "null"
  | .address => "a"
  | .accumulator => "acc"
  | .flag => "f"
  | .mask => "mask"
  | .maskStack => "msd"
  | .state => "sr"
  | .control => "cr"
  | .notificationCount => "n"
  | .ip => "ip"

namespace Mnemonics

def conditionalModifier (gen : Generation) : Mnemonics :=
  ofCoded (·.word? gen : ConditionalModifier → Option String)

def verticalStride : Mnemonics := ofCoded VerticalStride.word?

def width : Mnemonics := ofCoded (some ∘ Width.word)

def horizontalStride : Mnemonics := ofCoded (some ∘ HorizontalStride.word)

def execSize : Mnemonics := ofCoded (some ∘ ExecSize.word)

def maskControl : Mnemonics := ofCoded (some ∘ MaskControl.word)

def dependencyControl : Mnemonics := ofCoded (some ∘ DependencyControl.word)

def threadControl : Mnemonics := ofCoded (some ∘ ThreadControl.word)

def predicateControl : AccessMode → Mnemonics
  | .align1 => ofCoded (some ∘ PredicateControl.word)
  | .align16 => ofCoded PredicateControl.align16Word?

def mathFunction : Mnemonics := ofCoded (some ∘ MathFunction.word)

def registerFile (gen : Generation) : Mnemonics :=
  ofCoded (RegisterFile.word? gen)

def sfid (gen : Generation) : Mnemonics :=
  ofCoded (Sfid.word? gen)

def compressionControl : Mnemonics := ofList ["", "sechalf", "compr"]

def urbOpcode (gen : Generation) : Mnemonics :=
  ofList (if gen.number < 7 then ["write", "ff_sync"]
    else ["write HWord", "write OWord", "read HWord", "read OWord", "atomic mov", "atomic inc",
      "atomic add", "SIMD8 write", "SIMD8 read"])

end Mnemonics

end ExecUnit
