/-!
Enumerations whose values have a number in the instruction encoding. Reading a
number back gives the value it was written for (`ofCode?_code`), and a number
that names a value is that value's own (`code_of_ofCode?`).
-/

namespace ExecUnit

/-- A finite type with one number for each of its values. `title` names the
type and `label` names a value in reports. -/
class Coded (α : Type) where
  title : String
  all : List α
  code : α → Nat
  label : α → String
  complete : ∀ value, value ∈ all
  distinct : (all.map code).Nodup

export Coded (code label)

structure UnknownCode where
  title : String
  number : Nat
  deriving DecidableEq, Repr

def UnknownCode.message (unknown : UnknownCode) : String :=
  s!"No discriminant in enum `{unknown.title}` matches the value `{unknown.number}`"

namespace Coded

variable {α : Type} [Coded α]

def ofCode? (number : Nat) : Option α :=
  (all : List α).find? (code · == number)

def ofCode (α : Type) [Coded α] (number : Nat) : Except UnknownCode α :=
  match ofCode? number with
  | some value => .ok value
  | none => .error ⟨title α, number⟩

theorem code_of_ofCode? {number : Nat} {value : α} (found : ofCode? number = some value) :
    code value = number := by
  simpa using List.find?_some found

theorem eq_of_nodup_map {values : List α} (apart : (values.map code).Nodup) {left right : α}
    (inLeft : left ∈ values) (inRight : right ∈ values) (same : code left = code right) :
    left = right := by
  induction values with
  | nil => cases inLeft
  | cons first rest ih =>
      rw [List.map_cons, List.nodup_cons] at apart
      rcases List.mem_cons.mp inLeft with rfl | laterLeft
      · rcases List.mem_cons.mp inRight with rfl | laterRight
        · rfl
        · exact absurd (same ▸ List.mem_map_of_mem laterRight) apart.1
      · rcases List.mem_cons.mp inRight with rfl | laterRight
        · exact absurd (same ▸ List.mem_map_of_mem laterLeft) apart.1
        · exact ih apart.2 laterLeft laterRight

theorem code_injective {left right : α} (same : code left = code right) : left = right :=
  eq_of_nodup_map distinct (complete left) (complete right) same

theorem ofCode?_code (value : α) : ofCode? (code value) = some value := by
  cases found : (ofCode? (code value) : Option α) with
  | none => simpa using List.find?_eq_none.mp found value (complete value)
  | some other => rw [code_injective (code_of_ofCode? found)]

end Coded

end ExecUnit
