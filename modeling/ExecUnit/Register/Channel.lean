import ExecUnit.Coded

/-!
The four channels of Align16 operands: swizzles choose a source channel for
each of them, write masks enable some of them.
-/

namespace ExecUnit

inductive Channel where
  | x | y | z | w
  deriving DecidableEq, Repr

namespace Channel

instance : Coded Channel where
  title := "Channel"
  all := [.x, .y, .z, .w]
  code
    | .x => 0
    | .y => 1
    | .z => 2
    | .w => 3
  label
    | .x => "X"
    | .y => "Y"
    | .z => "Z"
    | .w => "W"
  complete value := by cases value <;> decide
  distinct := by decide

def ofNumber (number : Nat) : Channel :=
  match number % 4 with
  | 0 => .x
  | 1 => .y
  | 2 => .z
  | _ => .w

theorem ofNumber_code (channel : Channel) : ofNumber (code channel) = channel := by
  cases channel <;> rfl

theorem code_ofNumber (number : Nat) : code (ofNumber number) = number % 4 := by
  have bound : number % 4 < 4 := Nat.mod_lt _ (by decide)
  unfold ofNumber
  split <;> simp_all [code, Coded.code]
  omega

end Channel

/-- The source channel for each destination channel. -/
structure Swizzle where
  x : Channel
  y : Channel
  z : Channel
  w : Channel
  deriving DecidableEq, Repr

namespace Swizzle

def identity : Swizzle := ⟨.x, .y, .z, .w⟩

def channels (swizzle : Swizzle) : List Channel :=
  [swizzle.x, swizzle.y, swizzle.z, swizzle.w]

/-- Two bits for each selector, that of `x` lowest. -/
def pack (swizzle : Swizzle) : Nat :=
  code swizzle.x + 4 * code swizzle.y + 16 * code swizzle.z + 64 * code swizzle.w

def unpack (number : Nat) : Swizzle :=
  ⟨.ofNumber number, .ofNumber (number / 4), .ofNumber (number / 16), .ofNumber (number / 64)⟩

theorem unpack_pack (swizzle : Swizzle) : unpack swizzle.pack = swizzle := by
  rcases swizzle with ⟨first, second, third, fourth⟩
  cases first <;> cases second <;> cases third <;> cases fourth <;> rfl

theorem pack_unpack (number : Nat) : (unpack number).pack = number % 256 := by
  simp only [unpack, pack, Channel.code_ofNumber]
  omega

end Swizzle

/-- The destination channels that are written. -/
structure WriteMask where
  x : Bool
  y : Bool
  z : Bool
  w : Bool
  deriving DecidableEq, Repr

namespace WriteMask

def full : WriteMask := ⟨true, true, true, true⟩

def pack (mask : WriteMask) : Nat :=
  mask.x.toNat + 2 * mask.y.toNat + 4 * mask.z.toNat + 8 * mask.w.toNat

-- Bits above the fourth are dropped.
def unpack (number : Nat) : WriteMask :=
  ⟨number.testBit 0, number.testBit 1, number.testBit 2, number.testBit 3⟩

theorem unpack_pack (mask : WriteMask) : unpack mask.pack = mask := by
  rcases mask with ⟨first, second, third, fourth⟩
  cases first <;> cases second <;> cases third <;> cases fourth <;> rfl

theorem pack_unpack (number : Nat) : (unpack number).pack = number % 16 := by
  simp only [unpack, pack, Nat.toNat_testBit]
  omega

end WriteMask

end ExecUnit
