import ExecUnit.Program.Basic

/-!
The literals of a text, told by a grammar: `Literals` goes through the text from left to
right, takes a literal where one starts and skips a character where none does. Every text
has exactly one reading, and the scanner finds it (`ofText_eq_literals`). A character that
cannot be part of a literal divides a text in two that are read on their own.
-/

namespace ExecUnit.HexLiteral

def IsHexDigit (char : Char) : Prop :=
  ('0' ≤ char ∧ char ≤ '9') ∨ ('a' ≤ char ∧ char ≤ 'f') ∨ ('A' ≤ char ∧ char ≤ 'F')

instance : DecidablePred IsHexDigit := fun char =>
  inferInstanceAs (Decidable (('0' ≤ char ∧ char ≤ '9') ∨ _))

/-- `0x` or `0X` and at least one digit. -/
def StartsLiteral : List Char → Prop
  | zero :: mark :: char :: _ => zero = '0' ∧ (mark = 'x' ∨ mark = 'X') ∧ IsHexDigit char
  | _ => False

instance : DecidablePred StartsLiteral
  | zero :: mark :: char :: _ =>
      inferInstanceAs (Decidable (zero = '0' ∧ (mark = 'x' ∨ mark = 'X') ∧ IsHexDigit char))
  | [] | [_] | [_, _] => inferInstanceAs (Decidable False)

def digitRun (limit : Nat) (text : List Char) : List Char :=
  (text.takeWhile (IsHexDigit ·)).take limit

/-- The literals of a text, each given by its digits. -/
inductive Literals (limit : Nat) : List Char → List (List Char) → Prop where
  | done : Literals limit [] []
  | literal (zero mark : Char) (rest : List Char) (literals : List (List Char))
      (starts : StartsLiteral (zero :: mark :: rest))
      (later : Literals limit (rest.drop (digitRun limit rest).length) literals) :
      Literals limit (zero :: mark :: rest) (digitRun limit rest :: literals)
  | skip (char : Char) (rest : List Char) (literals : List (List Char))
      (nothing : ¬StartsLiteral (char :: rest)) (later : Literals limit rest literals) :
      Literals limit (char :: rest) literals

def number (literal : List Char) : Nat :=
  value (literal.filterMap digit?)

section Digits

theorem digit?_eq_none_iff (char : Char) : digit? char = none ↔ ¬IsHexDigit char := by
  unfold digit? IsHexDigit
  split
  · next decimal => simp [decimal]
  · next notDecimal =>
    split
    · next lower => simp [lower]
    · next notLower =>
      split
      · next upper => simp [upper]
      · next notUpper => simp [notDecimal, notLower, notUpper]

theorem digit?_lt {char : Char} {digit : Nat} (found : digit? char = some digit) : digit < 16 := by
  unfold digit? at found
  split at found
  · next decimal =>
    have high : char.toNat ≤ '9'.toNat := decimal.2
    simp only [Option.some.injEq] at found
    simp only [Char.reduceToNat] at found high
    omega
  · split at found
    · next lower =>
      have high : char.toNat ≤ 'f'.toNat := lower.2
      simp only [Option.some.injEq] at found
      simp only [Char.reduceToNat] at found high
      omega
    · split at found
      · next upper =>
        have high : char.toNat ≤ 'F'.toNat := upper.2
        simp only [Option.some.injEq] at found
        simp only [Char.reduceToNat] at found high
        omega
      · cases found

theorem leadingDigits_eq (limit : Nat) (text : List Char) :
    leadingDigits limit text = (digitRun limit text).filterMap digit? := by
  induction text generalizing limit with
  | nil => cases limit <;> rfl
  | cons char rest ih =>
      cases limit with
      | zero => rfl
      | succ limit =>
          cases found : digit? char with
          | none =>
              have plain := (digit?_eq_none_iff char).mp found
              simp [leadingDigits, found, digitRun, plain]
          | some digit =>
              have isDigit : IsHexDigit char := by
                apply Decidable.by_contra
                intro plain
                rw [(digit?_eq_none_iff char).mpr plain] at found
                cases found
              simp [leadingDigits, found, digitRun, isDigit, ih]

theorem length_leadingDigits (limit : Nat) (text : List Char) :
    (leadingDigits limit text).length = (digitRun limit text).length := by
  induction text generalizing limit with
  | nil => cases limit <;> rfl
  | cons char rest ih =>
      cases limit with
      | zero => rfl
      | succ limit =>
          by_cases isDigit : IsHexDigit char
          · obtain ⟨digit, found⟩ : ∃ digit, digit? char = some digit :=
              Option.ne_none_iff_exists'.mp fun missing =>
                (digit?_eq_none_iff char).mp missing isDigit
            simp only [leadingDigits, found, digitRun, List.takeWhile_cons, isDigit, decide_true,
              ↓reduceIte, List.take_succ_cons, List.length_cons]
            exact congrArg (· + 1) (ih limit)
          · simp [leadingDigits, (digit?_eq_none_iff char).mpr isDigit, digitRun, isDigit]

theorem length_digitRun_le (limit : Nat) (text : List Char) :
    (digitRun limit text).length ≤ text.length :=
  ((List.take_sublist limit _).trans (List.takeWhile_sublist _)).length_le

theorem digitRun_eq_of_short {limit limit' : Nat} (lower : limit ≤ limit') {text : List Char}
    (short : (digitRun limit' text).length ≤ limit) :
    digitRun limit text = digitRun limit' text := by
  unfold digitRun at short ⊢
  rw [List.length_take] at short
  by_cases cut : limit' ≤ (text.takeWhile (IsHexDigit ·)).length
  · obtain rfl : limit = limit' := by omega
    rfl
  · rw [List.take_of_length_le (by omega), List.take_of_length_le (by omega)]

end Digits

/-- A character that is no part of any literal. -/
structure Divides (separator : Char) : Prop where
  noDigit : ¬IsHexDigit separator
  noMark : separator ≠ 'x' ∧ separator ≠ 'X'

namespace Divides

variable {separator : Char}

theorem startsLiteral_append_iff (divides : Divides separator) (left right : List Char) :
    StartsLiteral (left ++ separator :: right) ↔ StartsLiteral left := by
  match left with
  | [] =>
      refine iff_of_false ?_ id
      intro starts
      cases right with
      | nil => exact starts
      | cons mark right =>
          cases right with
          | nil => exact starts
          | cons char right => exact divides.noDigit (starts.1 ▸ by decide)
  | [zero] =>
      refine iff_of_false ?_ id
      intro starts
      cases right with
      | nil => exact starts
      | cons char right => exact starts.2.1.elim divides.noMark.1 divides.noMark.2
  | [zero, mark] => exact iff_of_false (fun starts => divides.noDigit starts.2.2) id
  | zero :: mark :: char :: left => exact Iff.rfl

theorem digitRun_append (divides : Divides separator) (limit : Nat) (left right : List Char) :
    digitRun limit (left ++ separator :: right) = digitRun limit left := by
  have stops : (left ++ separator :: right).takeWhile (IsHexDigit ·) =
      left.takeWhile (IsHexDigit ·) := by
    induction left with
    | nil => simp [divides.noDigit]
    | cons char rest ih =>
        by_cases isDigit : IsHexDigit char
        · simp only [List.cons_append, List.takeWhile_cons, isDigit, decide_true, ↓reduceIte, ih]
        · simp [isDigit]
  rw [digitRun, digitRun, stops]

end Divides

section Scanner

theorem scan_eq_scan_drop (limit skip : Nat) (text : List Char) :
    scan limit skip text = scan limit 0 (text.drop skip) := by
  -- The characters to skip are those of the literal before.
  induction text generalizing skip with
  | nil => cases skip <;> rfl
  | cons char rest ih =>
      cases skip with
      | zero => rfl
      | succ skip => exact ih skip

theorem digitsAt_of_starts {limit : Nat} {zero mark : Char} {rest : List Char}
    (starts : StartsLiteral (zero :: mark :: rest)) :
    digitsAt limit (zero :: mark :: rest) = leadingDigits limit rest := by
  cases rest with
  | nil => exact starts.elim
  | cons char rest =>
      obtain ⟨rfl, rfl | rfl, -⟩ := starts
      · rfl
      · rfl

theorem digitRun_ne_nil {limit : Nat} (positive : 0 < limit) {zero mark : Char}
    {rest : List Char} (starts : StartsLiteral (zero :: mark :: rest)) :
    digitRun limit rest ≠ [] := by
  cases rest with
  | nil => exact starts.elim
  | cons char rest =>
      obtain ⟨limit, rfl⟩ := Nat.exists_eq_add_one_of_ne_zero (Nat.ne_of_gt positive)
      simp [digitRun, starts.2.2]

theorem leadingDigits_of_nothing (limit : Nat) {mark : Char} {rest : List Char}
    (isMark : mark = 'x' ∨ mark = 'X') (nothing : ¬StartsLiteral ('0' :: mark :: rest)) :
    leadingDigits limit rest = [] := by
  rw [leadingDigits_eq]
  cases rest with
  | nil => simp [digitRun]
  | cons char rest =>
      have noDigit : ¬IsHexDigit char := fun isDigit => nothing ⟨rfl, isMark, isDigit⟩
      simp [digitRun, noDigit]

theorem digitsAt_of_nothing (limit : Nat) {text : List Char} (nothing : ¬StartsLiteral text) :
    digitsAt limit text = [] := by
  unfold digitsAt
  split
  · exact leadingDigits_of_nothing limit (Or.inl rfl) nothing
  · exact leadingDigits_of_nothing limit (Or.inr rfl) nothing
  · rfl

theorem scan_of_literals {limit : Nat} (positive : 0 < limit) {text : List Char}
    {literals : List (List Char)} (read : Literals limit text literals) :
    scan limit 0 text = literals.map number := by
  induction read with
  | done => rfl
  | literal zero mark rest literals starts later ih =>
      have digits : digitsAt limit (zero :: mark :: rest) =
          (digitRun limit rest).filterMap digit? :=
        (digitsAt_of_starts starts).trans (leadingDigits_eq limit rest)
      have length : ((digitRun limit rest).filterMap digit?).length =
          (digitRun limit rest).length := by
        rw [← leadingDigits_eq, length_leadingDigits]
      have some : (digitRun limit rest).filterMap digit? ≠ [] := by
        intro none
        rw [none] at length
        exact digitRun_ne_nil positive starts (List.eq_nil_of_length_eq_zero length.symm)
      rw [scan, digits]
      split
      · next none => exact absurd none some
      · rw [List.map_cons, scan_eq_scan_drop, length, List.drop_succ_cons, ih]
        rfl
  | skip char rest literals nothing later ih =>
      rw [scan, digitsAt_of_nothing limit nothing]
      exact ih

end Scanner

namespace Literals

variable {limit : Nat}

theorem exists_of_drop (limit skip : Nat) (text : List Char) :
    ∃ literals, Literals limit (text.drop skip) literals := by
  induction text generalizing skip with
  | nil => exact ⟨[], by simpa using done⟩
  | cons char rest ih =>
      cases skip with
      | succ skip => exact ih skip
      | zero =>
          by_cases starts : StartsLiteral (char :: rest)
          · cases rest with
            | nil => exact starts.elim
            | cons mark rest =>
                -- The mark and the digits are skipped together.
                obtain ⟨literals, later⟩ := ih ((digitRun limit rest).length + 1)
                exact ⟨_, literal char mark rest literals starts later⟩
          · obtain ⟨literals, later⟩ := ih 0
            exact ⟨literals, skip char rest literals starts later⟩

theorem exists_of_text (limit : Nat) (text : List Char) :
    ∃ literals, Literals limit text literals :=
  exists_of_drop limit 0 text

theorem unique {text : List Char} {left right : List (List Char)}
    (read : Literals limit text left) (read' : Literals limit text right) : left = right := by
  induction read generalizing right with
  | done => cases read' with
    | done => rfl
  | literal zero mark rest literals starts later ih =>
      cases read' with
      | literal _ _ _ literals' _ later' => rw [ih later']
      | skip _ _ _ nothing _ => exact absurd starts nothing
  | skip char rest literals nothing later ih =>
      cases read' with
      | literal _ _ _ _ starts _ => exact absurd starts nothing
      | skip _ _ _ _ later' => exact ih later'

theorem append {separator : Char} (divides : Divides separator) {left right : List Char}
    {before after : List (List Char)} (read : Literals limit left before)
    (read' : Literals limit right after) :
    Literals limit (left ++ separator :: right) (before ++ after) := by
  induction read with
  | done =>
      have nothing : ¬StartsLiteral (separator :: right) :=
        (divides.startsLiteral_append_iff [] right).mp
      exact skip separator right after nothing read'
  | literal zero mark rest literals starts later ih =>
      have same : digitRun limit (rest ++ separator :: right) = digitRun limit rest :=
        divides.digitRun_append limit rest right
      have starts' : StartsLiteral (zero :: mark :: (rest ++ separator :: right)) :=
        (divides.startsLiteral_append_iff (zero :: mark :: rest) right).mpr starts
      rw [← List.drop_append_of_le_length (length_digitRun_le limit rest), ← same] at ih
      have whole := literal zero mark _ _ starts' ih
      rwa [same] at whole
  | skip char rest literals nothing later ih =>
      have nothing' : ¬StartsLiteral (char :: (rest ++ separator :: right)) := fun starts =>
        nothing ((divides.startsLiteral_append_iff (char :: rest) right).mp starts)
      exact skip char _ _ nothing' ih

theorem of_short {limit' : Nat} (lower : limit ≤ limit') {text : List Char}
    {literals : List (List Char)} (read : Literals limit' text literals)
    (short : ∀ literal ∈ literals, literal.length ≤ limit) : Literals limit text literals := by
  induction read with
  | done => exact done
  | literal zero mark rest literals starts later ih =>
      rw [List.forall_mem_cons] at short
      have same : digitRun limit rest = digitRun limit' rest :=
        digitRun_eq_of_short lower short.1
      have tail := ih short.2
      rw [← same] at tail ⊢
      exact literal zero mark rest literals starts tail
  | skip char rest literals nothing later ih =>
      exact skip char rest literals nothing (ih short)

end Literals

section Numbers

theorem foldl_lt {digits : List Nat} (small : ∀ digit ∈ digits, digit < 16) (start : Nat) :
    digits.foldl (fun number digit => 16 * number + digit) start <
      (start + 1) * Nat.pow 16 digits.length := by
  induction digits generalizing start with
  | nil => simp
  | cons digit rest ih =>
      rw [List.forall_mem_cons] at small
      have later := ih small.2 (16 * start + digit)
      have next : 16 * start + digit + 1 ≤ (start + 1) * 16 := by omega
      have scaled := Nat.mul_le_mul_right (Nat.pow 16 rest.length) next
      rw [List.foldl_cons, List.length_cons]
      rw [Nat.mul_assoc] at scaled
      have power : Nat.pow 16 (rest.length + 1) = 16 * Nat.pow 16 rest.length :=
        Nat.mul_comm _ _
      rw [power]
      exact Nat.lt_of_lt_of_le later scaled

theorem number_lt {limit : Nat} {literal : List Char} (short : literal.length ≤ limit) :
    number literal < Nat.pow 16 limit := by
  have small : ∀ digit ∈ literal.filterMap digit?, digit < 16 := by
    intro digit member
    obtain ⟨char, -, found⟩ := List.mem_filterMap.mp member
    exact digit?_lt found
  have bound := foldl_lt small 0
  rw [Nat.zero_add, Nat.one_mul] at bound
  have length := Nat.le_trans (List.length_filterMap_le digit? literal) short
  exact Nat.lt_of_lt_of_le bound (Nat.pow_le_pow_right (by decide) length)

theorem Literals.length_le {limit : Nat} {text : List Char} {literals : List (List Char)}
    (read : Literals limit text literals) : ∀ literal ∈ literals, literal.length ≤ limit := by
  induction read with
  | done => exact List.forall_mem_nil _
  | literal zero mark rest literals starts later ih =>
      exact List.forall_mem_cons.mpr ⟨List.length_take_le _ _, ih⟩
  | skip char rest literals nothing later ih => exact ih

end Numbers

section Texts

variable {limit : Nat}

theorem values_of_literals (positive : 0 < limit) {text : String} {literals : List (List Char)}
    (read : Literals limit text.toList literals) : values limit text = literals.map number :=
  scan_of_literals positive read

theorem values_append (positive : 0 < limit) {separator : Char} (divides : Divides separator)
    (left right : String) :
    values limit (left ++ .singleton separator ++ right) =
      values limit left ++ values limit right := by
  obtain ⟨before, read⟩ := Literals.exists_of_text limit left.toList
  obtain ⟨after, read'⟩ := Literals.exists_of_text limit right.toList
  have whole : Literals limit (left ++ .singleton separator ++ right).toList (before ++ after) := by
    simpa using read.append divides read'
  rw [values_of_literals positive whole, values_of_literals positive read,
    values_of_literals positive read', List.map_append]

end Texts

end ExecUnit.HexLiteral

namespace ExecUnit

theorem InputUnit.base_eq (unit : InputUnit) : unit.base = Nat.pow 16 unit.literalDigits := by
  cases unit <;> rfl

theorem InputUnit.literalDigits_pos (unit : InputUnit) : 0 < unit.literalDigits := by
  cases unit <;> decide

open HexLiteral

/-- Every text has one reading by the grammar, and it is what is loaded; each number fits its
unit. Texts on either side of a character that no literal contains are read apart, and words
and bytes read the same where no literal is longer than that of a byte. -/
theorem Loaded.ofText_eq_literals (unit : InputUnit) :
    (∀ text : String, ∃ literals, Literals unit.literalDigits text.toList literals ∧
      (∀ other, Literals unit.literalDigits text.toList other → other = literals) ∧
      Loaded.ofText unit text = .ofUnits unit (literals.map number) ∧
      ∀ literal ∈ literals, number literal < unit.base) ∧
    (∀ (left right : String) (separator : Char), Divides separator →
      values unit.literalDigits (left ++ .singleton separator ++ right) =
        values unit.literalDigits left ++ values unit.literalDigits right) ∧
    ∀ (text : String) (literals : List (List Char)),
      Literals InputUnit.word.literalDigits text.toList literals →
      (∀ literal ∈ literals, literal.length ≤ 2) →
      values InputUnit.byte.literalDigits text = values InputUnit.word.literalDigits text := by
  refine ⟨?_, ?_, ?_⟩
  · intro text
    obtain ⟨literals, read⟩ := Literals.exists_of_text unit.literalDigits text.toList
    refine ⟨literals, read, fun other read' => read'.unique read, ?_, ?_⟩
    · rw [Loaded.ofText, values_of_literals unit.literalDigits_pos read]
    · intro literal member
      rw [unit.base_eq]
      exact number_lt (read.length_le literal member)
  · intro left right separator divides
    exact values_append unit.literalDigits_pos divides left right
  · intro text literals read short
    have asBytes : Literals InputUnit.byte.literalDigits text.toList literals :=
      read.of_short (by decide) short
    rw [values_of_literals InputUnit.byte.literalDigits_pos asBytes,
      values_of_literals InputUnit.word.literalDigits_pos read]

/-- After `0x0` the scan resumes at the second mark, which starts nothing. -/
theorem Loaded.ofText_eq_literals_resumed :
    Divides ' ' ∧ Literals 8 "0x0x1".toList [['0']] ∧
      values 8 ("0x0x1" ++ .singleton ' ' ++ "0Xfff") = values 8 "0x0x1" ++ values 8 "0Xfff" ∧
      values 2 "0x0x1" = values 8 "0x0x1" := by
  have divides : Divides ' ' := ⟨by decide, by decide, by decide⟩
  have read : Literals 8 "0x0x1".toList [['0']] := by
    refine .literal '0' 'x' ['0', 'x', '1'] [] (by decide) ?_
    exact .skip 'x' ['1'] [] (by decide) (.skip '1' [] [] (by decide) .done)
  obtain ⟨-, apart, short⟩ := ofText_eq_literals .word
  exact ⟨divides, read, apart "0x0x1" "0Xfff" ' ' divides,
    short "0x0x1" [['0']] read (by decide)⟩

end ExecUnit
