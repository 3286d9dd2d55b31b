import ExecUnit.Proofs.Text.Plain

/-!
Where a text can be cut. A part that avoids some characters ends where the first of them
stands, so texts that are put together from such parts come apart in one way only: `cut`.
-/

namespace ExecUnit

def Avoids (stop : Char → Bool) (text : String) : Prop :=
  ∀ char ∈ text.toList, stop char = false

instance (stop : Char → Bool) (text : String) : Decidable (Avoids stop text) :=
  List.decidableBAll _ text.toList

namespace Avoids

variable {stop : Char → Bool}

@[simp]
theorem append_iff (first second : String) :
    Avoids stop (first ++ second) ↔ Avoids stop first ∧ Avoids stop second := by
  simp only [Avoids, String.toList_append, List.forall_mem_append]

@[simp]
theorem toString_iff (text : String) : Avoids stop (toString text) ↔ Avoids stop text :=
  Iff.rfl

theorem literal {chars : List Char} (missing : chars.any stop = false) :
    Avoids stop (.ofList chars) := by
  rw [Avoids, String.toList_ofList]
  simpa using missing

theorem single {stopped : Char} {text : String} (stops : stop stopped = true)
    (avoids : Avoids stop text) : Avoids (· == stopped) text := by
  intro char member
  have goes := avoids char member
  rw [beq_eq_false_iff_ne]
  rintro rfl
  rw [stops] at goes
  cases goes

theorem ite {condition : Prop} [Decidable condition] {first second : String}
    (inFirst : Avoids stop first) (inSecond : Avoids stop second) :
    Avoids stop (if condition then first else second) := by
  split <;> assumption

theorem join {texts : List String} (avoid : ∀ text ∈ texts, Avoids stop text) :
    Avoids stop (String.join texts) := by
  intro char member
  rw [String.toList_join, List.mem_flatMap] at member
  obtain ⟨text, inTexts, inText⟩ := member
  exact avoid text inTexts char inText

theorem digits (other : ∀ digit < 10, stop digit.digitChar = false) (number : Nat) :
    Avoids stop number.repr := by
  intro char member
  rw [Nat.toList_repr] at member
  obtain ⟨digit, small, rfl⟩ := exists_digit_of_mem_toDigits (by decide) number char member
  exact other digit small

theorem signed (other : ∀ digit < 10, stop digit.digitChar = false) (sign : stop '-' = false)
    (number : Int) : Avoids stop number.repr := by
  have minus : Avoids stop "-" := .literal (by simp [sign])
  cases number with
  | ofNat magnitude => exact digits other magnitude
  | negSucc magnitude => exact (append_iff _ _).mpr ⟨minus, digits other _⟩

theorem hex (other : ∀ digit < 16, stop digit.digitChar = false) (number : Nat) :
    Avoids stop (Numeral.hex number) := by
  rw [Numeral.hex, Avoids, String.toList_ofList]
  intro char member
  obtain ⟨digit, small, rfl⟩ := exists_digit_of_mem_toDigits (by decide) number char member
  exact other digit small

theorem hexPadded (other : ∀ digit < 16, stop digit.digitChar = false) (width number : Nat) :
    Avoids stop (Numeral.hexPadded width number) := by
  rw [Numeral.hexPadded, Avoids, String.toList_ofList, List.forall_mem_append]
  constructor
  · intro char member
    obtain rfl := List.eq_of_mem_replicate member
    exact other 0 (by decide)
  · have digits := hex other number
    rwa [Numeral.hex, Avoids, String.toList_ofList] at digits

end Avoids

/-- The text is empty, or one of the stops is its first character. -/
def Halts (stop : Char → Bool) (text : String) : Prop :=
  ∀ char ∈ text.toList.head?, stop char = true

instance (stop : Char → Bool) (text : String) : Decidable (Halts stop text) :=
  decidable_of_iff (text.toList.head?.all stop = true) (Option.all_eq_true _ _)

namespace Halts

variable {stop : Char → Bool}

theorem empty : Halts stop "" := by
  rintro char ⟨⟩

theorem literal {first : Char} {more : List Char} (stops : stop first = true) :
    Halts stop (.ofList (first :: more)) := by
  rw [Halts, String.toList_ofList]
  rintro char ⟨⟩
  exact stops

theorem append {first second : String} (halts : Halts stop first)
    (next : first = "" → Halts stop second) : Halts stop (first ++ second) := by
  by_cases nothing : first = ""
  · rw [nothing, String.empty_append]
    exact next nothing
  · obtain ⟨char, more, isFirst⟩ :=
      List.exists_cons_of_ne_nil (mt String.toList_eq_nil_iff.mp nothing)
    rw [Halts, String.toList_append, isFirst]
    rw [Halts, isFirst] at halts
    exact halts

theorem literal_append {first : Char} {more : List Char} (stops : stop first = true)
    (rest : String) : Halts stop (.ofList (first :: more) ++ rest) := by
  rw [Halts, String.toList_append, String.toList_ofList]
  rintro char ⟨⟩
  exact stops

end Halts

section Cut

variable {stop : Char → Bool} {front front' rest rest' : String}

theorem takeWhile_cut (avoids : Avoids stop front) (halts : Halts stop rest) :
    (front ++ rest).toList.takeWhile (!stop ·) = front.toList := by
  -- A part that avoids the stops is what stands before the first of them.
  have nothing : rest.toList.takeWhile (!stop ·) = [] := by
    cases chars : rest.toList with
    | nil => rfl
    | cons first more =>
        have stops : stop first = true := halts first (by rw [chars]; rfl)
        rw [List.takeWhile_cons, stops]
        rfl
  rw [String.toList_append, List.takeWhile_append_of_pos, nothing, List.append_nil]
  intro char member
  rw [avoids char member]
  rfl

theorem cut (same : front ++ rest = front' ++ rest') (avoids : Avoids stop front)
    (avoids' : Avoids stop front') (halts : Halts stop rest) (halts' : Halts stop rest') :
    front = front' ∧ rest = rest' := by
  have fronts : front = front' := by
    rw [← String.toList_inj, ← takeWhile_cut avoids halts, same, takeWhile_cut avoids' halts']
  subst fronts
  exact ⟨rfl, (String.append_right_inj _).mp same⟩

theorem cut_mark {mark : String} {first : Char} {more : List Char} {marked marked' : Bool}
    (same : (if marked then mark else "") ++ rest = (if marked' then mark else "") ++ rest')
    (isMark : mark.toList = first :: more) (halts : Halts (· != first) rest)
    (halts' : Halts (· != first) rest') : marked = marked' ∧ rest = rest' := by
  -- A mark that may be missing is told by its first character, if what follows does not begin with
  -- it.
  have absurdly {rest rest' : String} (halts : Halts (· != first) rest')
      (same : mark ++ rest = rest') : False := by
    have begins : rest'.toList.head? = some first := by
      rw [← same, String.toList_append, isMark]
      rfl
    simpa using halts first begins
  cases marked <;> cases marked' <;> simp only [Bool.false_eq_true, ↓reduceIte,
    String.empty_append, String.append_right_inj, true_and] at same ⊢
  · exact same
  · exact (absurdly halts same.symm).elim
  · exact (absurdly halts' same).elim
  · exact same

end Cut

end ExecUnit
