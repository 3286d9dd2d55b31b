import ExecUnit.Text.Utf8

/-!
Bytes are read as a text exactly if they are its encoding (`decode_eq_ok_iff`). A character is
read where its bytes stand, and nowhere else (`first_eq_ok_iff`); what follows is by induction
on the bytes, of which those of the character just read are passed over.
-/

namespace ExecUnit.Utf8

def codes (char : Char) : List Nat :=
  (String.utf8EncodeChar char).map UInt8.toNat

theorem map_toNat_encode (text : String) :
    (encode text).map UInt8.toNat = text.toList.flatMap codes := by
  have bytes : text.toUTF8 = text.toList.utf8Encode := by
    rw [String.toUTF8, ← String.toByteArray_ofList, String.ofList_toList]
  rw [encode, bytes, List.utf8Encode, List.data_toByteArray, List.toList_toArray, List.map_flatMap]
  rfl

theorem codes_eq (char : Char) : codes char =
    if char.toNat ≤ 0x7f then [char.toNat]
    else if char.toNat ≤ 0x7ff then [char.toNat / 64 + 0xc0, char.toNat % 64 + 0x80]
    else if char.toNat ≤ 0xffff then
      [char.toNat / 4096 + 0xe0, char.toNat / 64 % 64 + 0x80, char.toNat % 64 + 0x80]
    else [char.toNat / 262144 + 0xf0, char.toNat / 4096 % 64 + 0x80,
      char.toNat / 64 % 64 + 0x80, char.toNat % 64 + 0x80] := by
  have valid : char.toNat.isValidChar := char.valid
  have value : char.val.toNat = char.toNat := rfl
  unfold codes String.utf8EncodeChar
  dsimp only
  rw [value]
  split
  · simp only [List.map_cons, List.map_nil, UInt8.toNat_ofNat', List.cons.injEq, and_true]
    omega
  · split
    · simp only [List.map_cons, List.map_nil, UInt8.toNat_ofNat', List.cons.injEq, and_true]
      omega
    · split
      · simp only [List.map_cons, List.map_nil, UInt8.toNat_ofNat', List.cons.injEq, and_true]
        omega
      · simp only [List.map_cons, List.map_nil, UInt8.toNat_ofNat', List.cons.injEq, and_true]
        omega

theorem toNat_ofNat {number : Nat} (valid : number.isValidChar) :
    (Char.ofNat number).toNat = number := by
  rw [Char.ofNat, dif_pos valid]
  rfl

theorem sequenceLength?_eq_some_iff (lead length : Nat) : sequenceLength? lead = some length ↔
    (length = 1 ∧ lead ≤ 0x7f) ∨ (length = 2 ∧ 0xc2 ≤ lead ∧ lead ≤ 0xdf) ∨
      (length = 3 ∧ 0xe0 ≤ lead ∧ lead ≤ 0xef) ∨ (length = 4 ∧ 0xf0 ≤ lead ∧ lead ≤ 0xf4) := by
  unfold sequenceLength?
  grind

theorem isTail_iff (byte : Nat) : isTail byte = true ↔ 0x80 ≤ byte ∧ byte ≤ 0xbf := by
  simp only [isTail, Bool.and_eq_true, decide_eq_true_eq]

theorem fitsSecond_iff (lead second : Nat) : fitsSecond lead second = true ↔
    (0x80 ≤ second ∧ second ≤ 0xbf) ∧ (lead = 0xe0 → 0xa0 ≤ second) ∧
      (lead = 0xed → second ≤ 0x9f) ∧ (lead = 0xf0 → 0x90 ≤ second) ∧
      (lead = 0xf4 → second ≤ 0x8f) := by
  simp only [fitsSecond, isTail, Bool.and_eq_true, Bool.not_eq_true', Bool.and_eq_false_iff,
    decide_eq_true_eq, decide_eq_false_iff_not, Nat.not_lt]
  grind

section Read

variable {lead second third fourth : Nat}

theorem codes_one (range : lead ≤ 0x7f) : codes (.ofNat lead) = [lead] := by
  have value : (Char.ofNat lead).toNat = lead := toNat_ofNat (Or.inl (by omega))
  rw [codes_eq, value, if_pos range]

theorem codes_two (range : 0xc2 ≤ lead ∧ lead ≤ 0xdf) (fits : fitsSecond lead second = true) :
    codes (.ofNat ((lead - 0xc0) * 64 + (second - 0x80))) = [lead, second] := by
  rw [fitsSecond_iff] at fits
  rw [codes_eq, toNat_ofNat (Or.inl (by omega)), if_neg (by omega), if_pos (by omega)]
  simp only [List.cons.injEq, and_true]
  omega

theorem codes_three (range : 0xe0 ≤ lead ∧ lead ≤ 0xef) (fits : fitsSecond lead second = true)
    (tail : isTail third = true) :
    codes (.ofNat (((lead - 0xe0) * 64 + (second - 0x80)) * 64 + (third - 0x80))) =
      [lead, second, third] := by
  rw [fitsSecond_iff] at fits
  rw [isTail_iff] at tail
  have valid : (((lead - 0xe0) * 64 + (second - 0x80)) * 64 + (third - 0x80)).isValidChar := by
    unfold Nat.isValidChar
    omega
  rw [codes_eq, toNat_ofNat valid, if_neg (by omega), if_neg (by omega), if_pos (by omega)]
  simp only [List.cons.injEq, and_true]
  omega

theorem codes_four (range : 0xf0 ≤ lead ∧ lead ≤ 0xf4) (fits : fitsSecond lead second = true)
    (tail : isTail third = true) (end_tail : isTail fourth = true) :
    codes (.ofNat ((((lead - 0xf0) * 64 + (second - 0x80)) * 64 + (third - 0x80)) * 64 +
      (fourth - 0x80))) = [lead, second, third, fourth] := by
  rw [fitsSecond_iff] at fits
  rw [isTail_iff] at tail end_tail
  have valid : ((((lead - 0xf0) * 64 + (second - 0x80)) * 64 + (third - 0x80)) * 64 +
      (fourth - 0x80)).isValidChar := by
    unfold Nat.isValidChar
    omega
  rw [codes_eq, toNat_ofNat valid, if_neg (by omega), if_neg (by omega), if_neg (by omega)]
  simp only [List.cons.injEq, and_true]
  omega

end Read

theorem codes_of_first {lead length : Nat} {rest : List Nat} {char : Char}
    (read : first lead rest = .ok (char, length)) :
    ∃ more later, codes char = lead :: more ∧ rest = more ++ later ∧ length = more.length + 1 := by
  unfold first at read
  repeat' split at read
  all_goals
    simp only [Except.ok.injEq, Prod.mk.injEq, reduceCtorEq] at read
  · next found =>
    obtain ⟨rfl, rfl⟩ := read
    have range := (sequenceLength?_eq_some_iff _ _).mp found
    exact ⟨[], _, codes_one (by omega), rfl, rfl⟩
  · next second later fits _ _ _ found =>
    obtain ⟨rfl, rfl⟩ := read
    have range := (sequenceLength?_eq_some_iff _ _).mp found
    exact ⟨[second], later, codes_two (by omega) fits, rfl, rfl⟩
  · next second fits _ _ third later tail _ _ _ found _ =>
    obtain ⟨rfl, rfl⟩ := read
    have range := (sequenceLength?_eq_some_iff _ _).mp found
    exact ⟨[second, third], later, codes_three (by omega) fits tail, rfl, rfl⟩
  · next second not_one found fits _ _ third not_two tail _ _ fourth later not_three end_tail =>
    obtain ⟨rfl, rfl⟩ := read
    have range := (sequenceLength?_eq_some_iff _ _).mp found
    have range : 0xf0 ≤ lead ∧ lead ≤ 0xf4 := by grind
    exact ⟨[second, third, fourth], later, codes_four range fits tail end_tail, rfl, rfl⟩

section Found

variable {char : Char} (later : List Nat)

theorem first_one (small : char.toNat ≤ 0x7f) : first char.toNat later = .ok (char, 1) := by
  have found : sequenceLength? char.toNat = some 1 := by
    rw [sequenceLength?_eq_some_iff]
    omega
  simp only [first, found, Char.ofNat_toNat]

theorem first_two (large : ¬char.toNat ≤ 0x7f) (small : char.toNat ≤ 0x7ff) :
    first (char.toNat / 64 + 0xc0) ([char.toNat % 64 + 0x80] ++ later) = .ok (char, 2) := by
  have found : sequenceLength? (char.toNat / 64 + 0xc0) = some 2 := by
    rw [sequenceLength?_eq_some_iff]
    omega
  have fits : fitsSecond (char.toNat / 64 + 0xc0) (char.toNat % 64 + 0x80) = true := by
    rw [fitsSecond_iff]
    omega
  have value : (char.toNat / 64 + 0xc0 - 0xc0) * 64 + (char.toNat % 64 + 0x80 - 0x80) =
      char.toNat := by omega
  simp only [List.cons_append, first, found, fits, if_true, value, Char.ofNat_toNat]

theorem first_three (large : ¬char.toNat ≤ 0x7ff) (small : char.toNat ≤ 0xffff) :
    first (char.toNat / 4096 + 0xe0)
      ([char.toNat / 64 % 64 + 0x80, char.toNat % 64 + 0x80] ++ later) = .ok (char, 3) := by
  have valid : char.toNat < 0xd800 ∨ 0xdfff < char.toNat ∧ char.toNat < 0x110000 := char.valid
  have found : sequenceLength? (char.toNat / 4096 + 0xe0) = some 3 := by
    rw [sequenceLength?_eq_some_iff]
    omega
  have fits : fitsSecond (char.toNat / 4096 + 0xe0) (char.toNat / 64 % 64 + 0x80) = true := by
    rw [fitsSecond_iff]
    omega
  have tail : isTail (char.toNat % 64 + 0x80) = true := by
    rw [isTail_iff]
    omega
  have value : ((char.toNat / 4096 + 0xe0 - 0xe0) * 64 + (char.toNat / 64 % 64 + 0x80 - 0x80)) *
      64 + (char.toNat % 64 + 0x80 - 0x80) = char.toNat := by omega
  simp only [List.cons_append, first, found, fits, tail, if_true, value, Char.ofNat_toNat]

theorem first_four (large : ¬char.toNat ≤ 0xffff) :
    first (char.toNat / 262144 + 0xf0)
      ([char.toNat / 4096 % 64 + 0x80, char.toNat / 64 % 64 + 0x80, char.toNat % 64 + 0x80] ++
        later) = .ok (char, 4) := by
  have valid : char.toNat < 0xd800 ∨ 0xdfff < char.toNat ∧ char.toNat < 0x110000 := char.valid
  have found : sequenceLength? (char.toNat / 262144 + 0xf0) = some 4 := by
    rw [sequenceLength?_eq_some_iff]
    omega
  have fits : fitsSecond (char.toNat / 262144 + 0xf0) (char.toNat / 4096 % 64 + 0x80) = true := by
    rw [fitsSecond_iff]
    omega
  have third : isTail (char.toNat / 64 % 64 + 0x80) = true := by
    rw [isTail_iff]
    omega
  have fourth : isTail (char.toNat % 64 + 0x80) = true := by
    rw [isTail_iff]
    omega
  have value : (((char.toNat / 262144 + 0xf0 - 0xf0) * 64 +
      (char.toNat / 4096 % 64 + 0x80 - 0x80)) * 64 + (char.toNat / 64 % 64 + 0x80 - 0x80)) * 64 +
      (char.toNat % 64 + 0x80 - 0x80) = char.toNat := by omega
  simp only [List.cons_append, first, found, fits, third, fourth, if_true, value,
    Char.ofNat_toNat]

theorem first_codes {lead : Nat} {more : List Nat} (bytes : codes char = lead :: more) :
    first lead (more ++ later) = .ok (char, more.length + 1) := by
  rw [codes_eq] at bytes
  split at bytes
  · next small =>
    obtain ⟨rfl, rfl⟩ := List.cons.inj bytes
    exact first_one _ small
  split at bytes
  · next large small =>
    obtain ⟨rfl, rfl⟩ := List.cons.inj bytes
    exact first_two later large small
  split at bytes
  · next large small =>
    obtain ⟨rfl, rfl⟩ := List.cons.inj bytes
    exact first_three later large small
  · next large =>
    obtain ⟨rfl, rfl⟩ := List.cons.inj bytes
    exact first_four later large

end Found

theorem codes_ne_nil (char : Char) : codes char ≠ [] := by
  rw [codes_eq]
  repeat' split
  all_goals exact List.cons_ne_nil _ _

-- A text is read as far as its encoding goes, one character after the other.
theorem decodeFrom_eq_ok_iff (bytes : List Nat) {index skip : Nat} {read chars : List Char}
    (inside : skip ≤ bytes.length) : decodeFrom index skip read bytes = .ok chars ↔
      ∃ more, chars = read.reverse ++ more ∧ bytes.drop skip = more.flatMap codes := by
  induction bytes generalizing index skip read with
  | nil =>
      rw [decodeFrom, Except.ok.injEq, List.drop_nil]
      constructor
      · rintro rfl
        exact ⟨[], (List.append_nil _).symm, rfl⟩
      · rintro ⟨more, rfl, nothing⟩
        cases more with
        | nil => exact (List.append_nil _).symm
        | cons char more =>
            -- No character is encoded by no bytes.
            rw [List.flatMap_cons] at nothing
            exact absurd (List.append_eq_nil_iff.mp nothing.symm).1 (codes_ne_nil char)
  | cons byte rest ih =>
      cases skip with
      | succ skip =>
          -- This byte belongs to the character that was read last.
          exact ih (Nat.le_of_succ_le_succ inside)
      | zero =>
          rw [List.drop_zero]
          constructor
          · intro decoded
            rw [decodeFrom] at decoded
            split at decoded
            · next char length found =>
              obtain ⟨bytes, later, whole, rfl, rfl⟩ := codes_of_first found
              have fits : bytes.length ≤ (bytes ++ later).length := by simp
              obtain ⟨more, rfl, next⟩ := (ih fits).mp decoded
              rw [List.drop_left] at next
              refine ⟨char :: more, by simp, ?_⟩
              rw [List.flatMap_cons, whole, next, List.cons_append]
            · cases decoded
          · rintro ⟨more, rfl, encoded⟩
            cases more with
            | nil => cases encoded
            | cons char more =>
                obtain ⟨lead, bytes, whole⟩ := List.exists_cons_of_ne_nil (codes_ne_nil char)
                rw [List.flatMap_cons, whole, List.cons_append] at encoded
                obtain ⟨rfl, rfl⟩ := List.cons.inj encoded
                have fits : bytes.length ≤ (bytes ++ more.flatMap codes).length := by simp
                rw [decodeFrom, first_codes _ whole]
                refine (ih fits).mpr ⟨more, by simp, ?_⟩
                rw [List.drop_left]

theorem decode_eq_ok_iff (bytes : List UInt8) (text : String) :
    decode bytes = .ok text ↔ encode text = bytes := by
  have same : encode text = bytes ↔ bytes.map UInt8.toNat = text.toList.flatMap codes := by
    rw [← map_toNat_encode, eq_comm]
    exact (List.map_inj_right fun _ _ equal => UInt8.toNat_inj.mp equal).symm
  rw [same, decode]
  constructor
  · intro decoded
    cases found : decodeFrom 0 0 [] (bytes.map UInt8.toNat) with
    | error fault => rw [found] at decoded; cases decoded
    | ok chars =>
        rw [found] at decoded
        obtain rfl := Except.ok.inj decoded
        rw [String.toList_ofList]
        obtain ⟨more, rfl, encoded⟩ := (decodeFrom_eq_ok_iff _ (Nat.zero_le _)).mp found
        exact encoded
  · intro encoded
    have found : decodeFrom 0 0 [] (bytes.map UInt8.toNat) = .ok text.toList :=
      (decodeFrom_eq_ok_iff _ (Nat.zero_le _)).mpr ⟨text.toList, rfl, encoded⟩
    rw [found]
    exact congrArg Except.ok String.ofList_toList

end ExecUnit.Utf8
