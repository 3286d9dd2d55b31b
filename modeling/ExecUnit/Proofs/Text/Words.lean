import ExecUnit.Proofs.Text.Cutting
import Mathlib.Data.List.Chain

/-!
The words of a text. Whitespace separates them, so a text comes apart at each of its spaces
(`words_append_space`), and a word begins where whitespace ends (`NoWordBegins.not_mem_words`).
-/

namespace ExecUnit

/-- The longest parts of a text that have no whitespace. -/
def words (text : String) : List String :=
  ((text.toList.splitOnP Char.isWhitespace).filter (· ≠ [])).map String.ofList

theorem words_append_space (first second : String) :
    words (first ++ " " ++ second) = words first ++ words second := by
  have space : " ".toList = [' '] := String.toList_ofList
  have chars : (first ++ " " ++ second).toList = first.toList ++ ' ' :: second.toList := by
    rw [String.toList_append, String.toList_append, space, List.append_assoc]
    rfl
  rw [words, chars, List.splitOnP_append_cons _ _ (by decide), List.filter_append, List.map_append]
  rfl

theorem words_of_solid {word : String} (solid : Avoids Char.isWhitespace word)
    (speaks : word ≠ "") : words word = [word] := by
  have whole : word.toList.splitOnP Char.isWhitespace = [word.toList] :=
    List.splitOnP_eq_singleton solid
  simp [words, whole, speaks]

/-- No word of the text begins with the letter, also where the text stands behind a space. -/
def NoWordBegins (letter : Char) (text : String) : Prop :=
  (' ' :: text.toList).IsChain fun before char => before.isWhitespace = true → char ≠ letter

theorem splitOnP_of_isChain {letter before : Char} {chars : List Char}
    (chain : (before :: chars).IsChain fun before char => before.isWhitespace = true → char ≠ letter) :
    ∃ first rest, chars.splitOnP Char.isWhitespace = first :: rest ∧
      (before.isWhitespace = true → first.head? ≠ some letter) ∧
      ∀ part ∈ rest, part.head? ≠ some letter := by
  -- The first part of a split continues what stood before it, and all others begin behind
  -- whitespace.
  induction chars generalizing before with
  | nil => exact ⟨[], [], List.splitOnP_nil, by simp, by simp⟩
  | cons char more ih =>
      obtain ⟨next, chain⟩ := List.isChain_cons_cons.mp chain
      obtain ⟨first, rest, parts, continued, others⟩ := ih chain
      rw [List.splitOnP_cons_eq_if_modifyHead, parts]
      by_cases separates : char.isWhitespace = true
      · rw [if_pos separates]
        refine ⟨[], first :: rest, rfl, by simp, ?_⟩
        exact List.forall_mem_cons.mpr ⟨continued separates, others⟩
      · rw [if_neg separates]
        refine ⟨char :: first, rest, rfl, fun behind => ?_, others⟩
        simpa using next behind

namespace NoWordBegins

variable {letter : Char} {first second text : String}

theorem append (inFirst : NoWordBegins letter first) (inSecond : NoWordBegins letter second) :
    NoWordBegins letter (first ++ second) := by
  -- Behind a space the second text does not begin with the letter, so it never does.
  obtain ⟨begins, chain⟩ := List.isChain_cons.mp inSecond
  rw [NoWordBegins, String.toList_append, ← List.cons_append]
  exact List.isChain_append.mpr ⟨inFirst, chain, fun _ _ char isHead _ => begins char isHead rfl⟩

theorem of_avoids (avoids : Avoids (· == letter) text) : NoWordBegins letter text := by
  have other : ∀ char ∈ text.toList, char ≠ letter :=
    fun char member => beq_eq_false_iff_ne.mp (avoids char member)
  apply List.Pairwise.isChain
  refine List.pairwise_cons.mpr ⟨fun char member _ => other char member, ?_⟩
  exact List.pairwise_of_forall_mem_list fun _ _ char member _ => other char member

theorem literal {chars : List Char} (chain : (' ' :: chars).IsChain fun before char =>
    before.isWhitespace = true → char ≠ letter) : NoWordBegins letter (.ofList chars) := by
  rwa [NoWordBegins, String.toList_ofList]

theorem not_mem_words {word : String} (none : NoWordBegins letter text)
    (begins : word.toList.head? = some letter) : word ∉ words text := by
  intro member
  obtain ⟨part, inText, rfl⟩ := List.mem_map.mp member
  rw [String.toList_ofList] at begins
  obtain ⟨first, rest, parts, inFirst, inRest⟩ := splitOnP_of_isChain none
  rw [parts] at inText
  rcases List.mem_cons.mp (List.mem_filter.mp inText).1 with rfl | member
  · exact inFirst rfl begins
  · exact inRest part member begins

end NoWordBegins

end ExecUnit
