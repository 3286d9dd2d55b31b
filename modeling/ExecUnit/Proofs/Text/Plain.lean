import ExecUnit.Numeral.Hex
import ExecUnit.Numeral.SixDigits

/-!
Texts without stars and line ends. A report starts with stars, so a plain text has no
part in one, and it stays on its line. All numerals are plain.
-/

namespace ExecUnit

def PlainChar (char : Char) : Prop :=
  char ≠ '*' ∧ char ≠ '\n'

instance : DecidablePred PlainChar := fun char =>
  inferInstanceAs (Decidable (char ≠ '*' ∧ char ≠ '\n'))

/-- Characters given one by one are tested one by one: the statement on the right quantifies
over all characters, and deciding it as it stands would try every one of them. -/
theorem forall_plainChar {chars : List Char} (plain : chars.all (PlainChar ·) = true) :
    ∀ char ∈ chars, PlainChar char := by
  simpa only [List.all_eq_true, decide_eq_true_eq] using plain

def Plain (text : String) : Prop :=
  ∀ char ∈ text.toList, PlainChar char

namespace Plain

@[simp]
theorem append_iff (first second : String) :
    Plain (first ++ second) ↔ Plain first ∧ Plain second := by
  simp only [Plain, String.toList_append, List.forall_mem_append]

@[simp]
theorem toString_iff (text : String) : Plain (toString text) ↔ Plain text :=
  Iff.rfl

theorem ofList_iff (chars : List Char) :
    Plain (.ofList chars) ↔ ∀ char ∈ chars, PlainChar char := by
  rw [Plain, String.toList_ofList]

/-- Closes goals about string literals, which are lists of characters by definition. -/
theorem literal {chars : List Char} (plain : chars.all (PlainChar ·) = true) :
    Plain (.ofList chars) :=
  (ofList_iff chars).mpr (forall_plainChar plain)

theorem join {texts : List String} (plain : ∀ text ∈ texts, Plain text) :
    Plain (String.join texts) := by
  intro char member
  rw [String.toList_join, List.mem_flatMap] at member
  obtain ⟨text, inTexts, inText⟩ := member
  exact plain text inTexts char inText

theorem intercalate {separator : String} {texts : List String} (between : Plain separator)
    (plain : ∀ text ∈ texts, Plain text) : Plain (String.intercalate separator texts) := by
  induction texts with
  | nil => simp [Plain]
  | cons first rest ih =>
      rw [List.forall_mem_cons] at plain
      cases rest with
      | nil => simpa using plain.1
      | cons second rest =>
          rw [String.intercalate_cons_cons, append_iff, append_iff]
          exact ⟨⟨plain.1, between⟩, ih plain.2⟩

end Plain

section Digits

theorem plainChar_digitChar {digit : Nat} (small : digit < 16) : PlainChar digit.digitChar := by
  revert digit
  decide

theorem exists_digit_of_mem_toDigits {base : Nat} (two : 1 < base) (number : Nat) :
    ∀ char ∈ Nat.toDigits base number, ∃ digit < base, char = digit.digitChar := by
  induction number using Nat.strongRecOn with
  | ind number ih =>
      by_cases small : number < base
      · rw [Nat.toDigits_of_lt_base small]
        intro char member
        exact ⟨number, small, List.mem_singleton.mp member⟩
      · -- The last digit stands behind the digits of the quotient.
        rw [Nat.toDigits_of_base_le two (by omega)]
        have shorter : number / base < number := Nat.div_lt_self (by omega) two
        intro char member
        rcases List.mem_append.mp member with inFront | atEnd
        · exact ih _ shorter char inFront
        · exact ⟨number % base, Nat.mod_lt _ (by omega), List.mem_singleton.mp atEnd⟩

theorem plainChar_of_mem_toDigits {base : Nat} (two : 1 < base) (sixteen : base ≤ 16)
    (number : Nat) : ∀ char ∈ Nat.toDigits base number, PlainChar char := by
  intro char member
  obtain ⟨digit, small, rfl⟩ := exists_digit_of_mem_toDigits two number char member
  exact plainChar_digitChar (by omega)

theorem plainChar_of_mem_decimal (number : Nat) :
    ∀ char ∈ Nat.toDigits 10 number, PlainChar char :=
  plainChar_of_mem_toDigits (by decide) (by decide) number

theorem plainChar_of_mem_zeros (count : Nat) :
    ∀ char ∈ List.replicate count '0', PlainChar char := by
  intro char member
  obtain rfl := List.eq_of_mem_replicate member
  decide

@[simp]
theorem plain_nat (number : Nat) : Plain number.repr := by
  intro char member
  exact plainChar_of_mem_decimal number char (Nat.toList_repr ▸ member)

@[simp]
theorem plain_int (number : Int) : Plain number.repr := by
  cases number with
  | ofNat magnitude => exact plain_nat magnitude
  | negSucc magnitude => exact (Plain.append_iff _ _).mpr ⟨.literal rfl, plain_nat _⟩

end Digits

namespace Numeral

@[simp]
theorem plain_hex (number : Nat) : Plain (hex number) :=
  (Plain.ofList_iff _).mpr (plainChar_of_mem_toDigits (by decide) (by decide) number)

@[simp]
theorem plain_hexPadded (width number : Nat) : Plain (hexPadded width number) := by
  rw [hexPadded, Plain.ofList_iff, List.forall_mem_append]
  exact ⟨plainChar_of_mem_zeros _,
    plainChar_of_mem_toDigits (by decide) (by decide) number⟩

theorem trimZeros_subset (digits : List Char) : trimZeros digits ⊆ digits := by
  intro char member
  exact List.mem_reverse.mp (List.dropWhile_subset _ (List.mem_reverse.mp member))

section Floats

variable {whole fraction : List Char}

theorem plainChar_of_mem_withFraction (inWhole : ∀ char ∈ whole, PlainChar char)
    (inFraction : ∀ char ∈ fraction, PlainChar char) :
    ∀ char ∈ withFraction whole fraction, PlainChar char := by
  unfold withFraction
  split
  · exact inWhole
  · rw [List.forall_mem_append, List.forall_mem_cons]
    exact ⟨inWhole, by decide, fun char member =>
      inFraction char (trimZeros_subset fraction member)⟩

theorem plainChar_of_mem_exponentPart (exponent : Int) :
    ∀ char ∈ exponentPart exponent, PlainChar char := by
  rw [exponentPart, List.forall_mem_cons, List.forall_mem_cons, List.forall_mem_append]
  have sign : PlainChar (if exponent < 0 then '-' else '+') := by split <;> decide
  exact ⟨by decide, sign, plainChar_of_mem_zeros _, plainChar_of_mem_decimal _⟩

theorem plainChar_of_mem_scientific (rounded : Rounded) :
    ∀ char ∈ scientific rounded, PlainChar char := by
  have digits := plainChar_of_mem_decimal rounded.digits
  rw [scientific, List.forall_mem_append]
  refine ⟨plainChar_of_mem_withFraction ?_ ?_, plainChar_of_mem_exponentPart _⟩
  · exact fun char member => digits char (List.mem_of_mem_take member)
  · exact fun char member => digits char (List.mem_of_mem_drop member)

theorem plainChar_of_mem_positional (rounded : Rounded) :
    ∀ char ∈ positional rounded, PlainChar char := by
  have digits := plainChar_of_mem_decimal rounded.digits
  unfold positional
  dsimp only
  split
  · refine plainChar_of_mem_withFraction (forall_plainChar rfl) ?_
    exact List.forall_mem_append.mpr ⟨plainChar_of_mem_zeros _, digits⟩
  · apply plainChar_of_mem_withFraction
    · exact fun char member => digits char (List.mem_of_mem_take member)
    · exact fun char member => digits char (List.mem_of_mem_drop member)

@[simp]
theorem plain_float (bits : Word) : Plain (float bits) := by
  rw [float, Plain.ofList_iff, List.forall_mem_append]
  constructor
  · split <;> exact forall_plainChar rfl
  · unfold unsignedFloat magnitude
    dsimp only
    split
    · split <;> exact forall_plainChar rfl
    · split
      · exact forall_plainChar rfl
      · split
        · exact plainChar_of_mem_positional _
        · exact plainChar_of_mem_scientific _

end Floats

end Numeral

end ExecUnit
