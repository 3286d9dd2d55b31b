/-!
The 128 bits of one instruction and their four words. Word 0 holds the low
bits, so bit 96 is the low bit of word 3. Four words and one encoding carry
the same information: `ofWords_word` and `words_ofWords` go back and forth.
-/

namespace ExecUnit

abbrev Word := BitVec 32

abbrev Encoding := BitVec 128

namespace Encoding

def ofWords (first second third fourth : Word) : Encoding :=
  fourth ++ third ++ second ++ first

def word (bits : Encoding) (index : Nat) : Word :=
  bits.extractLsb' (32 * index) 32

def words (bits : Encoding) : List Word :=
  [bits.word 0, bits.word 1, bits.word 2, bits.word 3]

theorem ofWords_word (bits : Encoding) :
    ofWords (bits.word 0) (bits.word 1) (bits.word 2) (bits.word 3) = bits := by
  apply BitVec.eq_of_getLsbD_eq
  intro index inside
  simp only [ofWords, word, BitVec.getLsbD_append, BitVec.getLsbD_extractLsb']
  by_cases first : index < 32
  · simp [first]
  by_cases second : index < 64
  · simp [first, show index - 32 < 32 by omega, show 32 + (index - 32) = index by omega]
  by_cases third : index < 96
  · simp [first, show ¬index - 32 < 32 by omega, show index - 32 - 32 < 32 by omega,
      show 64 + (index - 32 - 32) = index by omega]
  · simp [first, show ¬index - 32 < 32 by omega, show ¬index - 32 - 32 < 32 by omega,
      show index - 32 - 32 - 32 < 32 by omega,
      show 96 + (index - 32 - 32 - 32) = index by omega]

theorem words_ofWords (first second third fourth : Word) :
    (ofWords first second third fourth).words = [first, second, third, fourth] := by
  simp only [words, word, ofWords, List.cons.injEq, and_true]
  refine ⟨?_, ?_, ?_, ?_⟩ <;> apply BitVec.eq_of_getLsbD_eq <;> intro index inside <;>
    simp (disch := omega) only [BitVec.getLsbD_extractLsb', BitVec.getLsbD_append, inside,
      decide_true, Bool.true_and, if_pos, if_neg] <;>
    exact congrArg _ (by omega)

end Encoding

end ExecUnit
