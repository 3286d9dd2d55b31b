import ExecUnit.Proofs.Assignment

/-!
Words and bit ranges. A range lies in one word, so encodings that share the word
read the same there, and writes to ranges of other words leave it as it is.
-/

namespace ExecUnit

namespace Encoding

theorem getLsbD_of_word {left right : Encoding} {index : Nat}
    (same : left.word (index / 32) = right.word (index / 32)) :
    left.getLsbD index = right.getLsbD index := by
  have inWord : ∀ bits : Encoding, bits.getLsbD index =
      (bits.word (index / 32)).getLsbD (index % 32) := by
    intro bits
    rw [word, BitVec.getLsbD_extractLsb', Nat.div_add_mod]
    simp [Nat.mod_lt]
  rw [inWord left, inWord right, same]

theorem word_eq_of_getLsbD {left right : Encoding} {place : Nat}
    (same : ∀ index, index / 32 = place → left.getLsbD index = right.getLsbD index) :
    left.word place = right.word place := by
  apply BitVec.eq_of_getLsbD_eq
  intro index inside
  rw [word, word, BitVec.getLsbD_extractLsb', BitVec.getLsbD_extractLsb',
    same (32 * place + index) (by omega)]

theorem word_assign_of_elsewhere {writes : List Assignment} {place : Nat}
    (elsewhere : ∀ range ∈ writes.map (·.range), range.low / 32 ≠ place) (bits : Encoding) :
    (bits.assign writes).word place = bits.word place := by
  apply word_eq_of_getLsbD
  intro index inWord
  apply getLsbD_assign_of_uncovered
  intro range written covered
  have apart := elsewhere range written
  have one_word := range.one_word
  obtain ⟨above, below⟩ := covered
  omega

end Encoding

theorem BitRange.get_of_word (range : BitRange) {left right : Encoding}
    (same : left.word (range.low / 32) = right.word (range.low / 32)) :
    range.get left = range.get right := by
  have ordered := range.ordered
  have one_word := range.one_word
  apply Nat.eq_of_testBit_eq
  intro index
  rw [testBit_get, testBit_get]
  by_cases fits : index < range.width
  · have inWord : (range.low + index) / 32 = range.low / 32 := by
      simp only [width] at fits
      omega
    rw [Encoding.getLsbD_of_word (inWord.symm ▸ same)]
  · simp [fits]

end ExecUnit
