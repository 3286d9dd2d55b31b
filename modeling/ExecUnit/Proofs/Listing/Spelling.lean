import ExecUnit.Proofs.Listing.Decodable
import ExecUnit.Proofs.Text.Cutting
import Mathlib.Data.List.Nodup

/-!
What the text of an operand is put together from: words, numbers and names. No two values of a
part have the same text, and each part ends at a character that it does not have itself. So the
place of an operand can be read off its text: `Placement.text_injective`.
-/

namespace ExecUnit

section Words

theorem Coded.injective_of_nodup {α β : Type} [Coded α] {word : α → β}
    (apart : ((Coded.all : List α).map word).Nodup) : Function.Injective word :=
  fun left right same => List.inj_on_of_nodup_map apart (complete left) (complete right) same

theorem HorizontalStride.word_injective : Function.Injective HorizontalStride.word :=
  Coded.injective_of_nodup (by decide)

theorem Width.word_injective : Function.Injective Width.word :=
  Coded.injective_of_nodup (by decide)

theorem VerticalStride.eq_of_word? {left right : VerticalStride} {word : String}
    (isWord : left.word? = some word) (isWord' : right.word? = some word) : left = right := by
  let named : List VerticalStride := [.s0, .s1, .s2, .s4, .s8, .s16, .s32, .vxh]
  have apart : (named.map word?).Nodup := by decide
  have mem_named (vstride : VerticalStride) (found : vstride.word? = some word) :
      vstride ∈ named := by
    cases vstride <;> first | decide | cases found
  exact List.inj_on_of_nodup_map apart (mem_named left isWord) (mem_named right isWord')
    (isWord.trans isWord'.symm)

theorem VerticalStride.avoids_word? {vstride : VerticalStride} {word : String}
    (isWord : vstride.word? = some word) : Avoids (!Char.isAlphanum ·) word := by
  cases vstride <;> cases isWord <;> exact .literal rfl

theorem DataType.name_injective : Function.Injective DataType.name := by
  have apart : (all.map name).Nodup := by decide
  have mem_all (type : DataType) : type ∈ all := by cases type <;> decide
  exact fun left right same => List.inj_on_of_nodup_map apart (mem_all left) (mem_all right) same

theorem DataType.name_halts (type : DataType) : Halts Char.isUpper type.name := by
  cases type <;> exact .literal rfl

def Channel.letter : Channel → Char
  | .x => 'x'
  | .y => 'y'
  | .z => 'z'
  | .w => 'w'

theorem Channel.letter_injective : Function.Injective Channel.letter :=
  Coded.injective_of_nodup (by decide)

theorem Channel.toList_word (channel : Channel) : channel.word.toList = [channel.letter] := by
  cases channel <;> exact String.toList_ofList

theorem Channel.avoids_word (channel : Channel) : Avoids Char.isUpper channel.word := by
  cases channel <;> exact .literal rfl

theorem Swizzle.toList_word (swizzle : Swizzle) : swizzle.word.toList =
    if swizzle = .identity then []
    else if swizzle = ⟨swizzle.x, swizzle.x, swizzle.x, swizzle.x⟩ then ['.', swizzle.x.letter]
    else ['.', swizzle.x.letter, swizzle.y.letter, swizzle.z.letter, swizzle.w.letter] := by
  have dot : ".".toList = ['.'] := String.toList_ofList
  unfold word
  split
  · exact String.toList_ofList
  · split
    · simp only [String.toList_append, dot, Channel.toList_word, List.cons_append, List.nil_append]
    · simp only [String.toList_append, dot, String.toList_join, channels, List.map_cons,
        List.map_nil, List.flatMap_cons, List.flatMap_nil, Channel.toList_word, List.cons_append,
        List.nil_append]

theorem Swizzle.word_injective : Function.Injective Swizzle.word := by
  -- The length of the word tells its three forms apart.
  intro left right same
  have chars := congrArg String.toList same
  have lengths := congrArg List.length chars
  rw [toList_word, toList_word] at chars lengths
  by_cases identity : left = .identity <;> by_cases identity' : right = .identity
  · exact identity.trans identity'.symm
  · rw [if_pos identity, if_neg identity'] at lengths
    split at lengths <;> cases lengths
  · rw [if_neg identity, if_pos identity'] at lengths
    split at lengths <;> cases lengths
  rw [if_neg identity, if_neg identity'] at chars lengths
  by_cases repeats : left = ⟨left.x, left.x, left.x, left.x⟩ <;>
    by_cases repeats' : right = ⟨right.x, right.x, right.x, right.x⟩
  · rw [if_pos repeats, if_pos repeats'] at chars
    have letter := (List.cons.inj (List.cons.inj chars).2).1
    rw [repeats, repeats', Channel.letter_injective letter]
  · rw [if_pos repeats, if_neg repeats'] at lengths
    cases lengths
  · rw [if_neg repeats, if_pos repeats'] at lengths
    cases lengths
  · rw [if_neg repeats, if_neg repeats'] at chars
    simp only [List.cons.injEq, Channel.letter_injective.eq_iff, true_and, and_true] at chars
    obtain ⟨x, y, z, w⟩ := chars
    exact congr (congr (congrArg₂ Swizzle.mk x y) z) w

theorem Swizzle.avoids_word (swizzle : Swizzle) : Avoids Char.isUpper swizzle.word := by
  have dot : Avoids Char.isUpper "." := .literal rfl
  unfold word
  refine .ite (.literal rfl) (.ite ?_ ?_)
  · exact (Avoids.append_iff _ _).mpr ⟨dot, Channel.avoids_word _⟩
  · refine (Avoids.append_iff _ _).mpr ⟨dot, .join fun word member => ?_⟩
    obtain ⟨channel, -, rfl⟩ := List.mem_map.mp member
    exact channel.avoids_word

theorem WriteMask.word_injective : Function.Injective WriteMask.word := by
  have apart : ((List.range 16).map fun number => (unpack number).word).Nodup := by decide
  have mem_range (mask : WriteMask) : mask.pack ∈ List.range 16 := by
    have bits : mask.x.toNat ≤ 1 ∧ mask.y.toNat ≤ 1 ∧ mask.z.toNat ≤ 1 ∧ mask.w.toNat ≤ 1 :=
      ⟨Bool.toNat_le _, Bool.toNat_le _, Bool.toNat_le _, Bool.toNat_le _⟩
    rw [List.mem_range, pack]
    omega
  intro left right same
  have packed : left.pack = right.pack :=
    List.inj_on_of_nodup_map apart (mem_range left) (mem_range right) (by
      simpa only [unpack_pack] using same)
  rw [← unpack_pack left, packed, unpack_pack]

theorem WriteMask.avoids_word (mask : WriteMask) : Avoids Char.isUpper mask.word := by
  have dot : Avoids Char.isUpper "." := .literal rfl
  have letter (enabled : Bool) (channel : Channel) :
      Avoids Char.isUpper (if enabled then channel.word else "") :=
    .ite channel.avoids_word (.literal rfl)
  unfold word
  refine .ite (.literal rfl) (.ite (.literal rfl) ?_)
  simp only [Avoids.append_iff]
  exact ⟨⟨⟨⟨dot, letter _ _⟩, letter _ _⟩, letter _ _⟩, letter _ _⟩

end Words

section Numbers

/-- A number behind a mark; zero is not mentioned. -/
def markedText {α : Type} [DecidableEq α] [OfNat α 0] [ToString α] (mark : String) (number : α) :
    String :=
  if number = 0 then "" else mark ++ toString number

variable {α : Type} [DecidableEq α] [OfNat α 0] [ToString α] {mark : String}

theorem markedText_injective (marks : mark ≠ "")
    (apart : Function.Injective (toString : α → String)) :
    Function.Injective (markedText mark : α → String) := by
  have something (number : α) : mark ++ toString number ≠ "" := fun nothing =>
    marks (String.append_eq_empty_iff.mp nothing).1
  intro left right same
  unfold markedText at same
  split at same <;> split at same
  · next isZero isZero' => exact isZero.trans isZero'.symm
  · exact absurd same.symm (something right)
  · exact absurd same (something left)
  · exact apart ((String.append_right_inj _).mp same)

theorem markedText_halts {stop : Char → Bool} (halts : Halts stop mark) (marks : mark ≠ "")
    (number : α) : Halts stop (markedText mark number) := by
  unfold markedText
  split
  · exact .empty
  · exact halts.append fun nothing => absurd nothing marks

theorem markedText_avoids {stop : Char → Bool} (avoids : Avoids stop mark) {number : α}
    (digits : Avoids stop (toString number)) : Avoids stop (markedText mark number) :=
  .ite (.literal rfl) ((Avoids.append_iff _ _).mpr ⟨avoids, digits⟩)

theorem toString_nat_injective : Function.Injective (toString : Nat → String) := by
  intro left right same
  have digits : Nat.toDigits 10 left = Nat.toDigits 10 right := by
    rw [← Nat.toList_repr, ← Nat.toList_repr]
    exact congrArg String.toList same
  have read := congrArg (Nat.ofDigitChars 10 · 0) digits
  rwa [Nat.ofDigitChars_ten_toDigits, Nat.ofDigitChars_ten_toDigits] at read

theorem digits_halt (number : Nat) : Halts Char.isDigit (toString number) := by
  intro char first
  have member : char ∈ number.repr.toList := List.mem_of_head? first
  rw [Nat.toList_repr] at member
  exact Nat.isDigit_of_mem_toDigits (by decide) (by decide) member

theorem toString_int_injective : Function.Injective (toString : Int → String) := by
  -- A sign is no digit, so it cannot be taken for the start of a number without one.
  have signed (number below : Nat) : toString number ≠ "-" ++ toString (below + 1) := by
    intro same
    have first : (toString number).toList.head? = some '-' := by
      rw [same, String.toList_append]
      rfl
    exact absurd (digits_halt number '-' first) (by decide)
  intro left right same
  cases left with
  | ofNat number =>
      cases right with
      | ofNat number' => exact congrArg Int.ofNat (toString_nat_injective same)
      | negSucc below => exact absurd same (signed number below)
  | negSucc below =>
      cases right with
      | ofNat number => exact absurd same.symm (signed number below)
      | negSucc below' =>
          have digits := toString_nat_injective ((String.append_right_inj _).mp same)
          exact congrArg Int.negSucc (Nat.succ.inj digits)

end Numbers

section Names

def RegisterFile.word : RegisterFile → String
  | .architecture => "A"
  | .general => "g"
  | .message => "m"
  | .immediate => "imm"

theorem RegisterFile.eq_word {gen : Generation} {file : RegisterFile} {word : String}
    (found : file.word? gen = some word) : word = file.word := by
  cases file with
  | message => exact (Option.some.inj (Option.ite_none_right_eq_some.mp found).2).symm
  | _ => exact (Option.some.inj found).symm

theorem RegisterFile.word_injective : Function.Injective RegisterFile.word :=
  Coded.injective_of_nodup (by decide)

/-- What a register is called by: its file, and in the architecture file its kind. -/
abbrev Family := RegisterFile × Option ArchKind

namespace Family

def all : List Family :=
  [(.architecture, none), (.general, none), (.message, none), (.immediate, none)] ++
    ArchKind.all.map fun kind => (.architecture, some kind)

def stem : Family → String
  | (.architecture, none) => "ARF"
  | (.architecture, some kind) => kind.stem
  | (file, _) => file.word

def ofRegister (file : RegisterFile) (number : Nat) : Family :=
  (file, archKind? (code file) number)

theorem ofRegister_mem_all (file : RegisterFile) (number : Nat) : ofRegister file number ∈ all := by
  unfold ofRegister
  cases file with
  | architecture =>
      cases archKind? (code RegisterFile.architecture) number with
      | none => decide
      | some kind => cases kind <;> decide
  | _ => exact of_decide_eq_true rfl

theorem stem_injective {family family' : Family} (member : family ∈ all) (member' : family' ∈ all)
    (same : family.stem = family'.stem) : family = family' := by
  have apart : (all.map stem).Nodup := by decide
  exact List.inj_on_of_nodup_map apart member member' same

-- The registers of a kind are counted from the kind's own number.
def index (number : Nat) : Family → Nat
  | (_, some _) => number % 16
  | (_, none) => number

def base : Family → Nat
  | (_, some kind) => kind.base
  | (_, none) => 0

theorem base_add_index {file : RegisterFile} {number : Nat} (small : number < 256) :
    (ofRegister file number).base + (ofRegister file number).index number = number := by
  unfold ofRegister
  cases isKind : archKind? (code file) number with
  | none => exact Nat.zero_add number
  | some kind =>
      have found := (Option.ite_none_right_eq_some.mp isKind).2
      have base := ArchKind.base_of_ofNumber? found
      simp only [Family.base, index]
      omega

end Family

/-- The name of a register that is not called by its kind alone. -/
def registerName (file : RegisterFile) (number : Nat) : String :=
  (Family.ofRegister file number).stem ++ toString ((Family.ofRegister file number).index number)

theorem Family.avoids_stem {stop : Char → Bool} (avoids : ∀ family ∈ all, Avoids stop family.stem)
    (file : RegisterFile) (number : Nat) : Avoids stop (ofRegister file number).stem :=
  avoids _ (ofRegister_mem_all file number)

theorem registerName_injective {file file' : RegisterFile} {number number' : Nat}
    (small : number < 256) (small' : number' < 256)
    (same : registerName file number = registerName file' number') :
    file = file' ∧ number = number' := by
  -- No family has a digit in its name, so the index is what the digits say.
  have letters : ∀ family ∈ Family.all, Avoids Char.isDigit family.stem := by decide
  obtain ⟨stems, indices⟩ := cut same (Family.avoids_stem letters file number)
    (Family.avoids_stem letters file' number') (digits_halt _) (digits_halt _)
  have families := Family.stem_injective (Family.ofRegister_mem_all file number)
    (Family.ofRegister_mem_all file' number') stems
  have index := toString_nat_injective indices
  refine ⟨congrArg Prod.fst families, ?_⟩
  rw [← Family.base_add_index small, ← Family.base_add_index small', index, families]

theorem registerName_avoids {stop : Char → Bool}
    (letters : ∀ family ∈ Family.all, Avoids stop family.stem)
    (digits : ∀ digit < 10, stop digit.digitChar = false) (file : RegisterFile) (number : Nat) :
    Avoids stop (registerName file number) :=
  (Avoids.append_iff _ _).mpr ⟨Family.avoids_stem letters file number, .digits digits _⟩

end Names

section Placement

def Address.text (address : Address) : String :=
  "[a0" ++ (markedText "." address.subreg ++ (markedText " " address.offset ++ "]"))

theorem Address.text_injective : Function.Injective Address.text := by
  intro left right same
  let stop (char : Char) : Bool := char == ' ' || char == ']'
  have subreg (address : Address) : Avoids stop (markedText "." address.subreg) :=
    markedText_avoids (.literal rfl) (.digits (by decide) _)
  have behind (address : Address) : Halts stop (markedText " " address.offset ++ "]") :=
    (markedText_halts (.literal rfl) (by decide) _).append fun _ => .literal rfl
  obtain ⟨subregs, rests⟩ := cut ((String.append_right_inj _).mp same) (subreg left)
    (subreg right) (behind left) (behind right)
  have offsets := (String.append_left_inj _).mp rests
  exact congr (congrArg Address.mk
    (markedText_injective (by decide) toString_nat_injective subregs))
    (markedText_injective (by decide) toString_int_injective offsets)

theorem Address.text_ne_markedText (address : Address) (number : Nat) :
    address.text ≠ markedText "." number := by
  intro same
  have dot : Halts (· == '.') (markedText "." number) :=
    markedText_halts (.literal rfl) (by decide) number
  have opening : "[a0".toList = ['[', 'a', '0'] := String.toList_ofList
  have begins : address.text.toList.head? = some '[' := by
    rw [text, String.toList_append, opening]
    rfl
  rw [← same] at dot
  exact absurd (dot '[' begins) (by decide)

inductive Placement where
  | direct (number offset : Nat)
  | indirect (address : Address)
  deriving DecidableEq, Repr

namespace Placement

def put (register : Register) : Placement → Register
  | .direct number offset => { register with number, offset }
  | .indirect address => { register with addressing := .indirect address }

def front (file : RegisterFile) : Placement → String
  | .direct number _ => registerName file number
  | .indirect _ => file.word

def rest (type : DataType) : Placement → String
  | .direct _ offset => markedText "." (offset / type.size)
  | .indirect address => address.text

def text (file : RegisterFile) (type : DataType) (place : Placement) : String :=
  place.front file ++ place.rest type

/-- The name says which register it is, and the sub-register is a whole number of elements. -/
def Legible (file : RegisterFile) (type : DataType) : Placement → Prop
  | .direct number offset =>
      number < 256 ∧ isBare (code file) number = false ∧ type.size ∣ offset
  | .indirect _ => True

theorem avoids_front {stop : Char → Bool}
    (letters : ∀ family ∈ Family.all, Avoids stop family.stem)
    (files : ∀ file : RegisterFile, Avoids stop file.word)
    (digits : ∀ digit < 10, stop digit.digitChar = false) (file : RegisterFile)
    (place : Placement) : Avoids stop (place.front file) := by
  cases place with
  | direct number offset => exact registerName_avoids letters digits file number
  | indirect address => exact files file

theorem text_injective {file file' : RegisterFile} {type : DataType} {place place' : Placement}
    (legible : place.Legible file type) (legible' : place'.Legible file' type)
    (same : place.text file type = place'.text file' type) : file = file' ∧ place = place' := by
  let stop (char : Char) : Bool := char == '.' || char == '['
  have letters : ∀ family ∈ Family.all, Avoids stop family.stem := by decide
  have files (file : RegisterFile) : Avoids stop file.word := by cases file <;> exact .literal rfl
  have halts (place : Placement) : Halts stop (place.rest type) := by
    cases place with
    | direct number offset => exact markedText_halts (.literal rfl) (by decide) _
    | indirect address => exact .literal_append rfl _
  obtain ⟨fronts, rests⟩ := cut same (avoids_front letters files (by decide) file place)
    (avoids_front letters files (by decide) file' place') (halts place) (halts place')
  -- What follows the name begins with a dot or a bracket, and this tells the two forms apart.
  cases place with
  | direct number offset =>
      cases place' with
      | direct number' offset' =>
          obtain ⟨rfl, rfl⟩ := registerName_injective legible.1 legible'.1 fronts
          have elements := markedText_injective (by decide) toString_nat_injective rests
          have offsets := (Nat.div_left_inj legible.2.2 legible'.2.2).mp elements
          exact ⟨rfl, congrArg (direct number) offsets⟩
      | indirect address => exact absurd rests.symm (address.text_ne_markedText _)
  | indirect address =>
      cases place' with
      | direct number offset => exact absurd rests (address.text_ne_markedText _)
      | indirect address' =>
          exact ⟨RegisterFile.word_injective fronts,
            congrArg indirect (Address.text_injective rests)⟩

-- No part of a place opens a region.
theorem avoids_text (file : RegisterFile) (type : DataType) (place : Placement) :
    Avoids (· == '<') (place.text file type) := by
  have letters : ∀ family ∈ Family.all, Avoids (· == '<') family.stem := by decide
  have files (file : RegisterFile) : Avoids (· == '<') file.word := by
    cases file <;> exact .literal rfl
  have front := avoids_front letters files (by decide) file place
  refine (Avoids.append_iff _ _).mpr ⟨front, ?_⟩
  cases place with
  | direct number offset => exact markedText_avoids (.literal rfl) (.digits (by decide) _)
  | indirect address =>
      have subreg : Avoids (· == '<') (markedText "." address.subreg) :=
        markedText_avoids (.literal rfl) (.digits (by decide) _)
      have offset : Avoids (· == '<') (markedText " " address.offset) :=
        markedText_avoids (.literal rfl) (.signed (by decide) rfl _)
      simp only [rest, Address.text, Avoids.append_iff]
      exact ⟨.literal rfl, subreg, offset, .literal rfl⟩

theorem text_halts {stop : Char → Bool}
    (letters : ∀ family ∈ Family.all, family.stem ≠ "" ∧ Halts stop family.stem)
    (files : ∀ file : RegisterFile, file.word ≠ "" ∧ Halts stop file.word) (file : RegisterFile)
    (type : DataType) (place : Placement) : Halts stop (place.text file type) := by
  -- A place begins with a letter.
  have front : place.front file ≠ "" ∧ Halts stop (place.front file) := by
    cases place with
    | direct number offset =>
        obtain ⟨named, halts⟩ := letters _ (Family.ofRegister_mem_all file number)
        exact ⟨fun nothing => named (String.append_eq_empty_iff.mp nothing).1,
          halts.append fun nothing => absurd nothing named⟩
    | indirect address => exact files file
  exact front.2.append fun nothing => absurd nothing front.1

end Placement

end Placement

end ExecUnit
