import ExecUnit.Proofs.Listing.Text
import ExecUnit.Proofs.Text.Words

/-!
The lengths of a message as words of its listing: `lengths_readable_iff`. They always stand at
the end of the message. Where the shared function has no word on the generation, the first of
them is not set off from the payload, and there is no word `mlen`.
-/

namespace ExecUnit

section Words

theorem avoids_whitespace_nat (number : Nat) : Avoids Char.isWhitespace (toString number) :=
  Avoids.digits (by decide) number

theorem toString_nat_ne_empty (number : Nat) : toString number ≠ "" := by
  have digits : (toString number).toList = Nat.toDigits 10 number := Nat.toList_repr
  intro empty
  rw [empty] at digits
  exact Nat.toDigits_ne_nil digits.symm

theorem spaces_pos {count : Nat} (positive : 0 < count) :
    Piece.spaces count = " " ++ Piece.spaces (count - 1) := by
  obtain ⟨rest, rfl⟩ := Nat.exists_eq_succ_of_ne_zero (Nat.ne_of_gt positive)
  rw [Piece.spaces, List.replicate_succ, ← String.toList_inj]
  simp [Piece.spaces]

end Words

namespace NoWordBegins

theorem nat (number : Nat) : NoWordBegins 'm' (toString number) :=
  .of_avoids (Avoids.digits (by decide) number)

theorem hex (number : Nat) : NoWordBegins 'm' (Numeral.hex number) :=
  .of_avoids (Avoids.hex (by decide) number)

theorem spaces (count : Nat) : NoWordBegins 'm' (Piece.spaces count) := by
  apply of_avoids
  intro char member
  rw [Piece.spaces, String.toList_ofList] at member
  obtain rfl := List.eq_of_mem_replicate member
  rfl

theorem notice {what : String} (named : NoWordBegins 'm' what) (value : Nat) :
    NoWordBegins 'm' (Piece.notice what value) := by
  have opening : NoWordBegins 'm' "*** invalid " := .literal (by decide)
  have between : NoWordBegins 'm' " value " := .literal (by decide)
  have space : NoWordBegins 'm' " " := .literal (by decide)
  exact (((opening.append named).append between).append (nat value)).append space

theorem spaced {what : String} {words : Mnemonics} {value : Nat}
    (known : ∀ word, words value = some word → NoWordBegins 'm' word)
    (named : NoWordBegins 'm' what) : NoWordBegins 'm' (ink (spaced what words value)) := by
  have space : NoWordBegins 'm' " " := .literal (by decide)
  unfold ExecUnit.spaced
  split
  · next word found =>
    split
    · exact .literal (by decide)
    · simpa [Piece.ink] using space.append (known word found)
  · simpa [Piece.ink] using notice named value

theorem ofWord {α : Type} [Coded α] {word : α → String}
    (none : ∀ value, NoWordBegins 'm' (word value)) {number : Nat} {found : String}
    (known : Mnemonics.ofCoded (some ∘ word) number = some found) : NoWordBegins 'm' found := by
  obtain ⟨value, -, isWord⟩ := Option.bind_eq_some_iff.mp known
  exact Option.some.inj isWord ▸ none value

end NoWordBegins

theorem MessageForm.ofSfid_of_unnamed {gen : Generation} {target? : Option Sfid}
    (unnamed : target?.bind (Sfid.word? gen) = none) :
    ofSfid gen.messageFields target? = .dataport ∨
      ofSfid gen.messageFields target? = .unsupported := by
  -- Without a word for the shared function, a payload is that of a dataport or of no form that
  -- listings know.
  rcases target? with - | target
  · exact Or.inr rfl
  · cases gen <;> cases target <;>
      first | exact Or.inl rfl | exact Or.inr rfl | cases unnamed

namespace Instruction

variable (instr : Instruction)

theorem noWordBegins_quarterPieces : NoWordBegins 'm' (ink instr.quarterPieces) := by
  have space : NoWordBegins 'm' " " := .literal (by decide)
  have quarter : NoWordBegins 'm' "Q" := .literal (by decide)
  have half (control : Nat) : NoWordBegins 'm' (if control < 2 then " 1H" else " 2H") := by
    split <;> exact .literal (by decide)
  have compression : ∀ word ∈ ["", "sechalf", "compr"], NoWordBegins 'm' word := by
    simp only [List.forall_mem_cons]
    exact ⟨.literal (by decide), .literal (by decide), .literal (by decide), List.forall_mem_nil _⟩
  unfold quarterPieces
  dsimp only
  split
  · split
    · simp only [ink_cons, ink_nil, Piece.ink, String.append_empty]
      exact (space.append (.nat _)).append quarter
    · simp only [ink_cons, ink_nil, Piece.ink, String.append_empty]
      exact half _
    · exact .literal (by decide)
  · exact .spaced (fun word found => compression word (List.mem_of_getElem? found))
      (.literal (by decide))

theorem noWordBegins_maskControl : NoWordBegins 'm' (ink
    (ExecUnit.spaced "mask control" .maskControl (instr.get instr.layout.header.maskControl))) := by
  -- Mask control is a single bit, and both of its values have a word.
  have bit : instr.get instr.layout.header.maskControl < 2 := by
    have room : instr.layout.header.maskControl.capacity = 2 := by
      rw [layout]
      cases instr.gen <;> rfl
    exact room ▸ BitRange.get_lt _ _
  generalize instr.get instr.layout.header.maskControl = value at bit
  match value, bit with
  | 0, _ =>
      have word : ink (ExecUnit.spaced "mask control" .maskControl 0) = " WE_normal" := by decide
      rw [word]
      exact .literal (by decide)
  | 1, _ =>
      have word : ink (ExecUnit.spaced "mask control" .maskControl 1) = " WE_all" := by decide
      rw [word]
      exact .literal (by decide)

theorem noWordBegins_settingPieces : NoWordBegins 'm' (ink instr.settingPieces) := by
  let header := instr.layout.header
  have opening : NoWordBegins 'm' "\x7b" := .literal (by decide)
  have closing : NoWordBegins 'm' " \x7d" := .literal (by decide)
  have space : NoWordBegins 'm' " " := .literal (by decide)
  have mode : NoWordBegins 'm' (" " ++ instr.accessMode.word) :=
    space.append (by cases instr.accessMode <;> exact .literal (by decide))
  have dependency (value : Nat) :
      NoWordBegins 'm' (ink (spaced "dependency control" .dependencyControl value)) :=
    .spaced (fun _ => .ofWord fun value => by cases value <;> exact .literal (by decide))
      (.literal (by decide))
  have thread (value : Nat) :
      NoWordBegins 'm' (ink (spaced "thread control" .threadControl value)) :=
    .spaced (fun _ => .ofWord fun value => by cases value <;> exact .literal (by decide))
      (.literal (by decide))
  have accumulator : NoWordBegins 'm' (ink
      (if instr.isSet header.accWriteControl then [.text " AccWrEnable"] else [])) := by
    split <;> exact .literal (by decide)
  have ends : NoWordBegins 'm' (ink instr.endOfThreadPieces) := by
    unfold endOfThreadPieces
    split <;> exact .literal (by decide)
  simp only [settingPieces, ink_append, ink_cons, ink_nil, Piece.ink, String.append_empty]
  exact ((((((opening.append mode).append instr.noWordBegins_maskControl).append
    (dependency _)).append instr.noWordBegins_quarterPieces).append (thread _)).append
    accumulator).append ends |>.append closing

def lengthText : String :=
  let fields := instr.gen.messageFields
  "mlen " ++ toString (instr.get fields.length) ++ " rlen " ++
    toString (instr.get fields.responseLength)

/-- The words of the lengths. The text in front is not set off from the first one. -/
def lengthWords (front : String) : List String :=
  let fields := instr.gen.messageFields
  [front ++ "mlen", toString (instr.get fields.length), "rlen",
    toString (instr.get fields.responseLength)]

theorem ink_lengthPieces : ink instr.lengthPieces =
    (if instr.spacesLengths then " " else "") ++ instr.lengthText := by
  simp only [lengthPieces, lengthText, ink_cons, ink_nil, Piece.ink, String.append_empty,
    String.append_assoc]
  rfl

-- Between spaces the lengths are words of their own, together with what is in front.
theorem words_lengthText {front : String} (solid : Avoids Char.isWhitespace front)
    (start rest : String) :
    words (start ++ " " ++ (front ++ instr.lengthText) ++ " " ++ rest) =
      words start ++ instr.lengthWords front ++ words rest := by
  let length := toString (instr.get instr.gen.messageFields.length)
  let response := toString (instr.get instr.gen.messageFields.responseLength)
  have apart : front ++ instr.lengthText =
      (front ++ "mlen") ++ " " ++ length ++ " " ++ "rlen" ++ " " ++ response := by
    have first : "mlen " = "mlen" ++ " " := by decide
    have second : " rlen " = " " ++ "rlen" ++ " " := by decide
    simp only [lengthText, first, second, length, response, String.append_assoc]
  -- The text in front has no space either, so it only makes the first word longer.
  have word : words (front ++ "mlen") = [front ++ "mlen"] :=
    words_of_solid ((Avoids.append_iff _ _).mpr ⟨solid, .literal rfl⟩) (by simp)
  have rlen : words "rlen" = ["rlen"] := words_of_solid (.literal rfl) (by decide)
  have number (value : Nat) : words (toString value) = [toString value] :=
    words_of_solid (avoids_whitespace_nat value) (toString_nat_ne_empty value)
  rw [words_append_space, words_append_space, apart]
  simp only [words_append_space, word, rlen, length, response, number, lengthWords, List.append_assoc,
    List.cons_append, List.nil_append]

end Instruction

def EndsInBracket (text : String) : Prop :=
  ∃ start last, Avoids Char.isWhitespace last ∧ NoWordBegins 'm' (start ++ " " ++ last) ∧
    text = start ++ " " ++ last ++ ")"

namespace Instruction

variable (instr : Instruction)

theorem endsInBracket_dataportPieces : EndsInBracket (ink instr.dataportPieces) := by
  let table := toString (instr.get instr.gen.messageFields.dataportBindingTable)
  let control := Numeral.hex (instr.get instr.gen.messageFields.functionControl)
  have opening : NoWordBegins 'm' " (" := .literal (by decide)
  have comma : NoWordBegins 'm' "," := .literal (by decide)
  have space : NoWordBegins 'm' " " := .literal (by decide)
  have base : NoWordBegins 'm' "0x" := .literal (by decide)
  refine ⟨" (" ++ table ++ ",", "0x" ++ control, ?_, ?_, ?_⟩
  · exact (Avoids.append_iff _ _).mpr ⟨.literal rfl, .hex (by decide) _⟩
  · exact (((opening.append (.nat _)).append comma).append space).append (base.append (.hex _))
  · have between : toString ", 0x" = "," ++ " " ++ "0x" := by decide
    simp only [dataportPieces, ink_cons, ink_nil, Piece.ink, between, table, control,
      String.append_empty, String.append_assoc]
    rfl

theorem endsInBracket_unsupported (number : Nat) :
    EndsInBracket s!" unsupported shared function ID ({number})" := by
  have opening : NoWordBegins 'm' " unsupported shared function ID" := .literal (by decide)
  have space : NoWordBegins 'm' " " := .literal (by decide)
  have bracket : NoWordBegins 'm' "(" := .literal (by decide)
  refine ⟨" unsupported shared function ID", "(" ++ toString number, ?_, ?_, ?_⟩
  · exact (Avoids.append_iff _ _).mpr ⟨.literal rfl, avoids_whitespace_nat number⟩
  · exact (opening.append space).append (bracket.append (.nat _))
  · have between : toString " unsupported shared function ID (" =
        " unsupported shared function ID" ++ " " ++ "(" := by decide
    simp only [between, String.append_assoc]
    rfl

theorem payload_of_unnamed (unnamed : instr.sfidWord? = none) :
    instr.spacesLengths = false ∧ EndsInBracket (ink instr.payloadPieces) := by
  -- Payloads of shared functions without a word end in a bracket, and nothing sets the lengths off
  -- from it.
  have forms : instr.messageForm = .dataport ∨ instr.messageForm = .unsupported :=
    MessageForm.ofSfid_of_unnamed unnamed
  unfold spacesLengths payloadPieces
  rcases forms with form | form <;> rw [form, unnamed]
  · exact ⟨rfl, instr.endsInBracket_dataportPieces⟩
  · exact ⟨rfl, by simpa [Piece.ink] using endsInBracket_unsupported instr.sfidNumber⟩

theorem spacesLengths_of_named (named : instr.sfidWord?.isSome = true) :
    instr.spacesLengths = true := by
  unfold spacesLengths
  split
  · rfl
  · rfl
  all_goals exact named

theorem secondLine_lengths (sends : instr.isSend = true) :
    ∃ rest, NoWordBegins 'm' rest ∧ (textLines instr.listing.text)[1]? = some
      (Piece.spaces 16 ++ ink (entry "SFID" (.sfid instr.gen) instr.sfidNumber) ++
        ink instr.payloadPieces ++ ((if instr.spacesLengths then " " else "") ++
          instr.lengthText) ++ " " ++ rest) := by
  obtain ⟨gap, positive, line⟩ := instr.secondLine_listing sends
  refine ⟨Piece.spaces (gap - 1) ++ ink instr.settingPieces ++ ";", ?_, ?_⟩
  · exact ((NoWordBegins.spaces _).append instr.noWordBegins_settingPieces).append
      (.literal (by decide))
  · rw [line, messageLine, ink_append, ink_append, ink_lengthPieces, spaces_pos positive]
    simp only [String.append_assoc]

theorem lengths_of_named (sends : instr.isSend = true) (named : instr.sfidWord?.isSome = true) :
    ∃ line, (textLines instr.listing.text)[1]? = some line ∧
      instr.lengthWords "" <:+: words line := by
  obtain ⟨rest, -, line⟩ := instr.secondLine_lengths sends
  refine ⟨_, line, words (Piece.spaces 16 ++
    ink (entry "SFID" (.sfid instr.gen) instr.sfidNumber) ++ ink instr.payloadPieces),
    words rest, ?_⟩
  have nothing : Avoids Char.isWhitespace "" := .literal rfl
  rw [← instr.words_lengthText nothing, instr.spacesLengths_of_named named, if_pos rfl,
    String.empty_append]
  simp only [String.append_assoc]

theorem lengths_of_unnamed (sends : instr.isSend = true) (unnamed : instr.sfidWord? = none) :
    ∃ line front, (textLines instr.listing.text)[1]? = some line ∧
      instr.lengthWords front <:+: words line ∧ "mlen" ∉ words line := by
  obtain ⟨rest, inRest, line⟩ := instr.secondLine_lengths sends
  obtain ⟨unspaced, start, last, solid, inPayload, payload⟩ := instr.payload_of_unnamed unnamed
  have target : entry "SFID" (.sfid instr.gen) instr.sfidNumber =
      [.malformed "SFID" instr.sfidNumber] := by
    rw [entry, show Mnemonics.sfid instr.gen instr.sfidNumber = none from unnamed]
  have notice : NoWordBegins 'm' (Piece.notice "SFID" instr.sfidNumber) :=
    .notice (.literal (by decide)) _
  rw [target, payload, unspaced] at line
  simp only [ink_cons, ink_nil, Piece.ink, String.append_empty, Bool.false_eq_true, if_false,
    String.empty_append] at line
  refine ⟨_, last ++ ")", line, ?_, ?_⟩
  · refine ⟨words (Piece.spaces 16 ++ Piece.notice "SFID" instr.sfidNumber ++ start), words rest, ?_⟩
    rw [← instr.words_lengthText ((Avoids.append_iff _ _).mpr ⟨solid, .literal rfl⟩)]
    simp only [String.append_assoc]
  · -- The bracket takes the letter of the first length into the last word of the payload.
    have first : ")" ++ "mlen " = ")mlen " := by decide
    have lengths : NoWordBegins 'm' (")" ++ instr.lengthText) := by
      have opening : NoWordBegins 'm' ")mlen " := .literal (by decide)
      have between : NoWordBegins 'm' " rlen " := .literal (by decide)
      rw [lengthText, ← String.append_assoc, ← String.append_assoc, ← String.append_assoc, first]
      exact ((opening.append (.nat _)).append between).append (.nat _)
    have space : NoWordBegins 'm' " " := .literal (by decide)
    have whole := (((((NoWordBegins.spaces 16).append notice).append inPayload).append
      lengths).append space).append inRest
    have none : "mlen" ∉ words (Piece.spaces 16 ++ Piece.notice "SFID" instr.sfidNumber ++
        (start ++ " " ++ last) ++ (")" ++ instr.lengthText) ++ " " ++ rest) :=
      whole.not_mem_words (by decide)
    simpa only [String.append_assoc] using none

/-- The second line of a SEND has the lengths of its message. They are words of their own exactly
for a shared function that has a word on the generation; behind any other, the first one is not
set off from the payload. -/
theorem lengths_readable_iff (sends : instr.opcode? = some .send ∨ instr.opcode? = some .sendc) :
    ∃ line front, (textLines instr.listing.text)[1]? = some line ∧
      instr.lengthWords front <:+: words line ∧
      (instr.lengthWords "" <:+: words line ↔ instr.sfidWord?.isSome = true) := by
  have isSend : instr.isSend = true := by
    rw [Instruction.isSend, knownOpcode?]
    rcases sends with isOpcode | isOpcode <;> rw [isOpcode] <;> rfl
  by_cases named : instr.sfidWord?.isSome = true
  · obtain ⟨line, isLine, lengths⟩ := instr.lengths_of_named isSend named
    exact ⟨line, "", isLine, lengths, iff_of_true lengths named⟩
  · obtain ⟨line, front, isLine, lengths, absent⟩ :=
      instr.lengths_of_unnamed isSend (Option.not_isSome_iff_eq_none.mp named)
    have glued : ¬ instr.lengthWords "" <:+: words line :=
      fun inside => absent (inside.subset List.mem_cons_self)
    exact ⟨line, front, isLine, lengths, iff_of_false glued named⟩

def sendTo (target : Nat) : Instruction :=
  (⟨.gen8, 0⟩ : Instruction)
    |> set Layout.gen8.header.opcode (code Opcode.send)
    |> set Generation.gen8.messageFields.sfid target
    |> set Generation.gen8.messageFields.length 8

/-- Listings know no payload of the null function, but they have a word for it. -/
theorem lengths_readable_iff_null :
    (sendTo 0).opcode? = some .send ∧ (sendTo 0).messageForm = .unsupported ∧
      ∃ line, (textLines (sendTo 0).listing.text)[1]? = some line ∧
        ["mlen", "8", "rlen", "0"] <:+: words line := by
  have sends : (sendTo 0).opcode? = some .send := rfl
  obtain ⟨line, -, isLine, -, readable⟩ := (sendTo 0).lengths_readable_iff (Or.inl sends)
  exact ⟨sends, rfl, line, isLine, readable.mpr rfl⟩

/-- The last number stands for no shared function. -/
theorem lengths_glued :
    ¬ ∀ instr : Instruction, instr.opcode? = some .send ∨ instr.opcode? = some .sendc →
      ∃ line, (textLines instr.listing.text)[1]? = some line ∧
        instr.lengthWords "" <:+: words line := by
  intro claim
  obtain ⟨line, isLine, inside⟩ := claim (sendTo 15) (Or.inl rfl)
  obtain ⟨other, -, isOther, -, absent⟩ := (sendTo 15).lengths_of_unnamed rfl rfl
  obtain rfl : line = other := Option.some.inj (isLine.symm.trans isOther)
  exact absent (inside.subset List.mem_cons_self)

end Instruction

end ExecUnit
