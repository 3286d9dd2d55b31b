import ExecUnit.Coded

/-!
Register regions: how an operand's elements are spread over registers, and
the restrictions that an execution size puts on them.
-/

namespace ExecUnit

/-- `vxh` addresses each lane indirectly, and also stands for "no vertical
stride". -/
inductive VerticalStride where
  | s0 | s1 | s2 | s4 | s8 | s16 | s32 | s64 | s128 | s256 | vxh
  deriving DecidableEq, Repr

inductive Width where
  | w1 | w2 | w4 | w8 | w16
  deriving DecidableEq, Repr

inductive HorizontalStride where
  | s0 | s1 | s2 | s4
  deriving DecidableEq, Repr

inductive ExecSize where
  | e1 | e2 | e4 | e8 | e16 | e32
  deriving DecidableEq, Repr

instance : Coded VerticalStride where
  title := "VerticalStride"
  all := [.s0, .s1, .s2, .s4, .s8, .s16, .s32, .s64, .s128, .s256, .vxh]
  code
    | .s0 => 0
    | .s1 => 1
    | .s2 => 2
    | .s4 => 3
    | .s8 => 4
    | .s16 => 5
    | .s32 => 6
    | .s64 => 7
    | .s128 => 8
    | .s256 => 9
    | .vxh => 15
  label
    | .s0 => "S0"
    | .s1 => "S1"
    | .s2 => "S2"
    | .s4 => "S4"
    | .s8 => "S8"
    | .s16 => "S16"
    | .s32 => "S32"
    | .s64 => "S64"
    | .s128 => "S128"
    | .s256 => "S256"
    | .vxh => "VxH"
  complete value := by cases value <;> decide
  distinct := by decide

instance : Coded Width where
  title := "Width"
  all := [.w1, .w2, .w4, .w8, .w16]
  code
    | .w1 => 0
    | .w2 => 1
    | .w4 => 2
    | .w8 => 3
    | .w16 => 4
  label
    | .w1 => "W1"
    | .w2 => "W2"
    | .w4 => "W4"
    | .w8 => "W8"
    | .w16 => "W16"
  complete value := by cases value <;> decide
  distinct := by decide

instance : Coded HorizontalStride where
  title := "HorizontalStride"
  all := [.s0, .s1, .s2, .s4]
  code
    | .s0 => 0
    | .s1 => 1
    | .s2 => 2
    | .s4 => 3
  label
    | .s0 => "S0"
    | .s1 => "S1"
    | .s2 => "S2"
    | .s4 => "S4"
  complete value := by cases value <;> decide
  distinct := by decide

instance : Coded ExecSize where
  title := "ExecSize"
  all := [.e1, .e2, .e4, .e8, .e16, .e32]
  code
    | .e1 => 0
    | .e2 => 1
    | .e4 => 2
    | .e8 => 3
    | .e16 => 4
    | .e32 => 5
  label
    | .e1 => "E1"
    | .e2 => "E2"
    | .e4 => "E4"
    | .e8 => "E8"
    | .e16 => "E16"
    | .e32 => "E32"
  complete value := by cases value <;> decide
  distinct := by decide

def VerticalStride.elements? : VerticalStride → Option Nat
  | .s0 => some 0
  | .s1 => some 1
  | .s2 => some 2
  | .s4 => some 4
  | .s8 => some 8
  | .s16 => some 16
  | .s32 => some 32
  | .s64 => some 64
  | .s128 => some 128
  | .s256 => some 256
  | .vxh => none

def Width.elements : Width → Nat
  | .w1 => 1
  | .w2 => 2
  | .w4 => 4
  | .w8 => 8
  | .w16 => 16

def HorizontalStride.elements : HorizontalStride → Nat
  | .s0 => 0
  | .s1 => 1
  | .s2 => 2
  | .s4 => 4

def ExecSize.channels : ExecSize → Nat
  | .e1 => 1
  | .e2 => 2
  | .e4 => 4
  | .e8 => 8
  | .e16 => 16
  | .e32 => 32

/-- The execution size with as many channels as `width` has elements. -/
def Width.execSize : Width → ExecSize
  | .w1 => .e1
  | .w2 => .e2
  | .w4 => .e4
  | .w8 => .e8
  | .w16 => .e16

structure Region where
  vstride : VerticalStride
  width : Width
  hstride : HorizontalStride
  deriving DecidableEq, Repr

namespace Region

def scalar : Region := ⟨.s0, .w1, .s0⟩

/-- The region `<width;width,1>` of adjacent elements. -/
def contiguous (width : Width) : Region :=
  let vstride : VerticalStride := match width with
    | .w1 => .s1
    | .w2 => .s2
    | .w4 => .s4
    | .w8 => .s8
    | .w16 => .s16
  ⟨vstride, width, .s1⟩

def describe (region : Region) : String :=
  s!"<{label region.vstride},{label region.width},{label region.hstride}>"

end Region

inductive RegionFault where
  | widthExceedsExecSize (width execSize : Nat)
  | verticalStrideMismatch (vstride width hstride : Nat)
  | scalarWithStride
  | scalarExecutionWithStride
  | broadcastWithWidth
  deriving DecidableEq, Repr

def RegionFault.message : RegionFault → String
  | .widthExceedsExecSize width execSize =>
      s!"Region width {width} is wider than the execution size {execSize}"
  | .verticalStrideMismatch vstride width hstride =>
      s!"Vertical stride {vstride} must be width {width} times horizontal stride {hstride}"
  | .scalarWithStride => "Horizontal stride must be 0 for width 1"
  | .scalarExecutionWithStride => "Strides must be 0 for a scalar access"
  | .broadcastWithWidth => "Width must be 1 when both strides are 0"

namespace Region

/-- The vertical stride that rows of `execSize` channels need, in elements. -/
def requiredStride? (execSize : ExecSize) (region : Region) : Option Nat :=
  let width := region.width.elements
  let hstride := region.hstride.elements
  if execSize.channels = width ∧ hstride ≠ 0 then some (width * hstride) else none

/-- The vertical stride, if another one is required; `vxh` fits them all. -/
def misfitStride? (execSize : ExecSize) (region : Region) : Option Nat := do
  let required ← region.requiredStride? execSize
  let vstride ← region.vstride.elements?
  if vstride = required then none else some vstride

def fault? (execSize : ExecSize) (region : Region) : Option RegionFault :=
  let channels := execSize.channels
  let width := region.width.elements
  let hstride := region.hstride.elements
  if channels < width then
    some (.widthExceedsExecSize width channels)
  else match region.misfitStride? execSize with
    | some vstride => some (.verticalStrideMismatch vstride width hstride)
    | none =>
        if width = 1 ∧ hstride ≠ 0 then
          some .scalarWithStride
        else if channels = 1 ∧ width = 1 ∧ (hstride ≠ 0 ∨ region.vstride ≠ .s0) then
          some .scalarExecutionWithStride
        else if region.vstride = .s0 ∧ hstride = 0 ∧ width ≠ 1 then
          some .broadcastWithWidth
        else none

end Region

end ExecUnit
