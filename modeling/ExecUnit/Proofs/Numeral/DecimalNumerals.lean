import Mathlib.Algebra.Field.Rat

/-!
Decimal numerals, as they are read by someone who does not know how they were printed: a
sign, digits before and after a point, an exponent. No text can be read in two ways
(`DecimalNumeral.text_inj`).
-/

namespace ExecUnit.Numeral

/-- The exponent of a numeral. Its sign is always written. -/
structure DecimalExponent where
  negative : Bool
  digits : List Char

/-- A numeral without digits in its fraction has no point. -/
structure DecimalNumeral where
  negative : Bool
  whole : List Char
  fraction : List Char
  exponent? : Option DecimalExponent

namespace DecimalExponent

def text (exponent : DecimalExponent) : List Char :=
  'e' :: (if exponent.negative then '-' else '+') :: exponent.digits

def value (exponent : DecimalExponent) : ℤ :=
  let magnitude : ℤ := Nat.ofDigitChars 10 exponent.digits 0
  if exponent.negative then -magnitude else magnitude

end DecimalExponent

namespace DecimalNumeral

def unsignedText (numeral : DecimalNumeral) : List Char :=
  numeral.whole ++ (if numeral.fraction = [] then [] else '.' :: numeral.fraction) ++
    numeral.exponent?.elim [] DecimalExponent.text

def text (numeral : DecimalNumeral) : List Char :=
  (if numeral.negative then ['-'] else []) ++ numeral.unsignedText

/-- The power of ten by which the digits are multiplied once the point is left out. -/
def scale (numeral : DecimalNumeral) : ℤ :=
  numeral.exponent?.elim 0 DecimalExponent.value - numeral.fraction.length

def magnitude (numeral : DecimalNumeral) : ℚ :=
  Nat.ofDigitChars 10 (numeral.whole ++ numeral.fraction) 0 * 10 ^ numeral.scale

def value (numeral : DecimalNumeral) : ℚ :=
  if numeral.negative then -numeral.magnitude else numeral.magnitude

/-- The digits from the first one on that is not zero. -/
def significant (numeral : DecimalNumeral) : List Char :=
  (numeral.whole ++ numeral.fraction).dropWhile (· == '0')

structure WellFormed (numeral : DecimalNumeral) : Prop where
  digits : ∀ char ∈ numeral.whole ++ numeral.fraction, char.isDigit
  whole : numeral.whole ≠ []
  exponent : ∀ exponent, numeral.exponent? = some exponent →
    exponent.digits ≠ [] ∧ ∀ char ∈ exponent.digits, char.isDigit

end DecimalNumeral

section Reading

-- Where digits end can be seen from what comes next.
theorem append_inj_of_digits {left right tail tail' : List Char}
    (inLeft : ∀ char ∈ left, char.isDigit) (inRight : ∀ char ∈ right, char.isDigit)
    (ends : ∀ char ∈ tail.head?, char.isDigit = false)
    (ends' : ∀ char ∈ tail'.head?, char.isDigit = false)
    (same : left ++ tail = right ++ tail') : left = right ∧ tail = tail' := by
  induction left generalizing right with
  | nil =>
      rcases right with _ | ⟨char, rest⟩
      · exact ⟨rfl, same⟩
      · obtain rfl : tail = char :: (rest ++ tail') := same
        exact absurd (inRight char List.mem_cons_self) (by simp [ends char rfl])
  | cons char rest ih =>
      rcases right with _ | ⟨char', rest'⟩
      · obtain rfl : char :: (rest ++ tail) = tail' := same
        exact absurd (inLeft char List.mem_cons_self) (by simp [ends' char rfl])
      · obtain ⟨rfl, sameRest⟩ := List.cons.inj same
        rw [List.forall_mem_cons] at inLeft inRight
        obtain ⟨rfl, sameTail⟩ := ih inLeft.2 inRight.2 sameRest
        exact ⟨rfl, sameTail⟩

theorem DecimalExponent.text_inj {exponent? exponent?' : Option DecimalExponent}
    (same : exponent?.elim [] DecimalExponent.text = exponent?'.elim [] DecimalExponent.text) :
    exponent? = exponent?' := by
  rcases exponent? with _ | ⟨negative, digits⟩ <;> rcases exponent?' with _ | ⟨negative', digits'⟩
  · rfl
  · nomatch same
  · nomatch same
  · obtain ⟨-, rest⟩ := List.cons.inj same
    obtain ⟨sign, rfl⟩ := List.cons.inj rest
    have negatives : negative = negative' := by
      cases negative <;> cases negative' <;> first | rfl | simp at sign
    rw [negatives]

namespace DecimalNumeral

def tail (numeral : DecimalNumeral) : List Char :=
  (if numeral.fraction = [] then [] else '.' :: numeral.fraction) ++
    numeral.exponent?.elim [] DecimalExponent.text

theorem not_isDigit_of_exponent (exponent? : Option DecimalExponent) :
    ∀ char ∈ (exponent?.elim [] DecimalExponent.text).head?, char.isDigit = false := by
  intro char first
  rcases exponent? with _ | exponent
  · nomatch first
  · obtain rfl : 'e' = char := Option.some.inj first
    decide

theorem not_isDigit_of_tail (numeral : DecimalNumeral) :
    ∀ char ∈ numeral.tail.head?, char.isDigit = false := by
  intro char first
  unfold tail at first
  split at first
  · exact not_isDigit_of_exponent numeral.exponent? char first
  · obtain rfl : '.' = char := Option.some.inj first
    decide

theorem tail_inj {left right : DecimalNumeral} (inLeft : ∀ char ∈ left.fraction, char.isDigit)
    (inRight : ∀ char ∈ right.fraction, char.isDigit) (same : left.tail = right.tail) :
    left.fraction = right.fraction ∧ left.exponent? = right.exponent? := by
  unfold tail at same
  -- A point cannot be mistaken for the start of an exponent.
  have noPoint : ∀ (exponent? : Option DecimalExponent) (rest : List Char),
      exponent?.elim [] DecimalExponent.text ≠ '.' :: rest := by
    intro exponent? rest same
    rcases exponent? with _ | exponent
    · nomatch same
    · exact absurd (List.cons.inj same).1 (by decide)
  by_cases bare : left.fraction = [] <;> by_cases bare' : right.fraction = []
  · rw [if_pos bare, if_pos bare'] at same
    exact ⟨bare.trans bare'.symm, DecimalExponent.text_inj same⟩
  · rw [if_pos bare, if_neg bare'] at same
    exact absurd same (noPoint _ _)
  · rw [if_neg bare, if_pos bare'] at same
    exact absurd same.symm (noPoint _ _)
  · rw [if_neg bare, if_neg bare'] at same
    obtain ⟨fraction, exponent⟩ := append_inj_of_digits inLeft inRight
      (not_isDigit_of_exponent _) (not_isDigit_of_exponent _) (List.cons.inj same).2
    exact ⟨fraction, DecimalExponent.text_inj exponent⟩

/-- A text is that of one numeral at most, so it makes sense to speak of its value. -/
theorem text_inj {left right : DecimalNumeral} (wellFormed : left.WellFormed)
    (wellFormed' : right.WellFormed) (same : left.text = right.text) : left = right := by
  have unsigned (numeral : DecimalNumeral) :
      numeral.unsignedText = numeral.whole ++ numeral.tail := List.append_assoc _ _ _
  -- The first character tells whether there is a sign.
  have noSign : ∀ {numeral : DecimalNumeral}, numeral.WellFormed →
      ∀ rest, numeral.unsignedText ≠ '-' :: rest := by
    intro numeral wellFormed rest same
    obtain ⟨char, digits, isWhole⟩ := List.exists_cons_of_ne_nil wellFormed.whole
    rw [unsigned, isWhole] at same
    have digit := wellFormed.digits char (by simp [isWhole])
    rw [(List.cons.inj same).1] at digit
    exact absurd digit (by decide)
  have negatives : left.negative = right.negative ∧ left.unsignedText = right.unsignedText := by
    unfold text at same
    cases isLeft : left.negative <;> cases isRight : right.negative <;>
      simp only [isLeft, isRight, Bool.false_eq_true, ↓reduceIte, List.nil_append,
        List.singleton_append] at same
    · exact ⟨rfl, same⟩
    · exact absurd same (noSign wellFormed _)
    · exact absurd same.symm (noSign wellFormed' _)
    · exact ⟨rfl, (List.cons.inj same).2⟩
  obtain ⟨negative, sameText⟩ := negatives
  have digits := List.forall_mem_append.mp wellFormed.digits
  have digits' := List.forall_mem_append.mp wellFormed'.digits
  rw [unsigned, unsigned] at sameText
  obtain ⟨whole, sameTail⟩ := append_inj_of_digits digits.1 digits'.1
    left.not_isDigit_of_tail right.not_isDigit_of_tail sameText
  obtain ⟨fraction, exponent⟩ := tail_inj digits.2 digits'.2 sameTail
  cases left
  cases right
  simp only at negative whole fraction exponent
  rw [negative, whole, fraction, exponent]

end DecimalNumeral

end Reading

end ExecUnit.Numeral
