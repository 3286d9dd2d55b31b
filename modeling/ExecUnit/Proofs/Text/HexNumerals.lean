import ExecUnit.Numeral.Hex
import ExecUnit.Proofs.Text.Literals
import ExecUnit.Proofs.Text.Plain

/-!
Hexadecimal numerals read back. A numeral of full width is a literal by itself whatever
follows it, so literals with anything but a zero in between are read one by one
(`scan_written`).
-/

namespace ExecUnit.HexLiteral

open Numeral

section Digits

theorem digit?_digitChar {digit : Nat} (small : digit < 16) :
    digit? digit.digitChar = some digit := by
  revert digit
  decide

theorem isHexDigit_digitChar {digit : Nat} (small : digit < 16) : IsHexDigit digit.digitChar := by
  apply Decidable.by_contra
  intro other
  have missing := (digit?_eq_none_iff digit.digitChar).mpr other
  rw [digit?_digitChar small] at missing
  cases missing

theorem number_append_singleton {char : Char} {digit : Nat} (found : digit? char = some digit)
    (literal : List Char) : number (literal ++ [char]) = 16 * number literal + digit := by
  simp [number, value, found]

theorem number_zeros_append (count : Nat) (literal : List Char) :
    number (.replicate count '0' ++ literal) = number literal := by
  induction count with
  | zero => rfl
  | succ count ih => exact ih

theorem number_hexDigits (number : Nat) : HexLiteral.number (hexDigits number) = number := by
  induction number using Nat.strongRecOn with
  | ind number ih =>
      by_cases small : number < 16
      · rw [hexDigits, Nat.toDigits_of_lt_base small, ← List.nil_append [_],
          number_append_singleton (digit?_digitChar small)]
        exact Nat.zero_add number
      · have last : number % 16 < 16 := Nat.mod_lt _ (by decide)
        have front := ih (number / 16) (Nat.div_lt_self (by omega) (by decide))
        rw [hexDigits] at front
        rw [hexDigits, Nat.toDigits_of_base_le (by decide) (by omega),
          number_append_singleton (digit?_digitChar last), front]
        exact Nat.div_add_mod number 16

theorem isHexDigit_of_mem_hexDigits (number : Nat) :
    ∀ char ∈ hexDigits number, IsHexDigit char := by
  intro char member
  obtain ⟨digit, small, rfl⟩ := exists_digit_of_mem_toDigits (by decide) number char member
  exact isHexDigit_digitChar small

end Digits

section Padded

variable {width amount : Nat}

theorem number_hexPadded (width amount : Nat) :
    number (hexPadded width amount).toList = amount := by
  rw [hexPadded, String.toList_ofList, number_zeros_append, number_hexDigits]

theorem hexPadded_injective (width : Nat) : Function.Injective (hexPadded width) := by
  intro left right same
  rw [← number_hexPadded width left, same, number_hexPadded]

theorem isHexDigit_of_mem_hexPadded (width amount : Nat) :
    ∀ char ∈ (hexPadded width amount).toList, IsHexDigit char := by
  intro char member
  rw [hexPadded, String.toList_ofList] at member
  rcases List.mem_append.mp member with zero | digit
  · obtain rfl := List.eq_of_mem_replicate zero
    decide
  · exact isHexDigit_of_mem_hexDigits amount char digit

theorem length_hexPadded (positive : 0 < width) (fits : amount < Nat.pow 16 width) :
    (hexPadded width amount).toList.length = width := by
  have short : (hexDigits amount).length ≤ width :=
    (Nat.length_toDigits_le_iff (by decide) positive).mpr fits
  rw [hexPadded, String.toList_ofList, List.length_append, List.length_replicate]
  omega

theorem digitRun_hexPadded (positive : 0 < width) (fits : amount < Nat.pow 16 width)
    (rest : List Char) :
    digitRun width ((hexPadded width amount).toList ++ rest) = (hexPadded width amount).toList := by
  -- A numeral of full width is cut off by the limit, not by what follows.
  have digits : ∀ char ∈ (hexPadded width amount).toList, decide (IsHexDigit char) = true :=
    fun char member => decide_eq_true (isHexDigit_of_mem_hexPadded width amount char member)
  rw [digitRun, List.takeWhile_append_of_pos digits,
    List.take_left' (length_hexPadded positive fits)]

end Padded

section Scanner

variable {width : Nat}

theorem scan_hexPadded {amount : Nat} (positive : 0 < width) (fits : amount < Nat.pow 16 width)
    (rest : List Char) :
    scan width 0 ('0' :: 'x' :: ((hexPadded width amount).toList ++ rest)) =
      amount :: scan width 0 rest := by
  obtain ⟨literals, later⟩ := Literals.exists_of_text width rest
  have run := digitRun_hexPadded positive fits rest
  have behind : ((hexPadded width amount).toList ++ rest).drop
      (digitRun width ((hexPadded width amount).toList ++ rest)).length = rest := by
    rw [run, List.drop_left]
  have starts : StartsLiteral ('0' :: 'x' :: ((hexPadded width amount).toList ++ rest)) := by
    cases found : (hexPadded width amount).toList with
    | nil =>
        have length := length_hexPadded positive fits
        rw [found, List.length_nil] at length
        omega
    | cons char others =>
        have member : char ∈ (hexPadded width amount).toList := found ▸ List.mem_cons_self
        exact ⟨rfl, Or.inl rfl, isHexDigit_of_mem_hexPadded width amount char member⟩
  have read : Literals width ('0' :: 'x' :: ((hexPadded width amount).toList ++ rest))
      ((hexPadded width amount).toList :: literals) := by
    have whole := Literals.literal '0' 'x' _ literals starts (behind.symm ▸ later)
    rwa [run] at whole
  rw [scan_of_literals positive read, scan_of_literals positive later, List.map_cons,
    number_hexPadded]

theorem scan_separator {separator : List Char} (noZero : '0' ∉ separator) (rest : List Char) :
    scan width 0 (separator ++ rest) = scan width 0 rest := by
  induction separator with
  | nil => rfl
  | cons char separator ih =>
      rw [List.mem_cons, not_or] at noZero
      have nothing : ¬StartsLiteral (char :: (separator ++ rest)) := by
        intro starts
        cases split : separator ++ rest with
        | nil => rw [split] at starts; exact starts
        | cons mark others =>
            rw [split] at starts
            cases others with
            | nil => exact starts
            | cons digit others => exact noZero.1 starts.1.symm
      rw [List.cons_append, scan, digitsAt_of_nothing width nothing]
      exact ih noZero.2

/-- Literals of full width, each with what stands between it and the next. -/
def written (width : Nat) (listed : List (Nat × List Char)) : List Char :=
  listed.flatMap fun entry => '0' :: 'x' :: ((hexPadded width entry.1).toList ++ entry.2)

theorem scan_written (positive : 0 < width) {listed : List (Nat × List Char)}
    (fit : ∀ entry ∈ listed, entry.1 < Nat.pow 16 width)
    (apart : ∀ entry ∈ listed, '0' ∉ entry.2) (rest : List Char) :
    scan width 0 (written width listed ++ rest) = listed.map Prod.fst ++ scan width 0 rest := by
  induction listed with
  | nil => rfl
  | cons entry listed ih =>
      rw [List.forall_mem_cons] at fit apart
      have first : written width (entry :: listed) ++ rest =
          '0' :: 'x' :: ((hexPadded width entry.1).toList ++
            (entry.2 ++ (written width listed ++ rest))) := by
        simp [written]
      rw [first, scan_hexPadded positive fit.1, scan_separator apart.1, ih fit.2 apart.2]
      rfl

end Scanner

end ExecUnit.HexLiteral
