import ExecUnit.Proofs.Calls.Basic
import ExecUnit.Proofs.Listing.Text
import ExecUnit.Proofs.Message.Payload
import ExecUnit.Proofs.Text.Cutting

/-!
What a listing says of a message. The second line of SEND has the shared function, the payload
and the lengths as the helper was given them, and the settings at its end have `EOT` if the
message ends the thread: `listing_of_setMessage`.
-/

namespace ExecUnit

namespace MessageCall

def length : MessageCall → Nat
  | .descriptor parts => parts.length
  | .urb _ length _ _ => length
  | .sampler _ length _ _ => length
  | .dataport _ length _ _ _ => length
  | .math _ length _ => length

def responseLength : MessageCall → Nat
  | .descriptor parts => parts.responseLength
  | .urb _ _ responseLength _ => responseLength
  | .sampler _ _ responseLength _ => responseLength
  | .dataport _ _ responseLength _ _ => responseLength
  | .math _ _ responseLength => responseLength

def endOfThread : MessageCall → Bool
  | .descriptor parts => parts.endOfThread
  | .urb _ _ _ endOfThread => endOfThread
  | .dataport _ _ _ _ endOfThread => endOfThread
  | .sampler _ _ _ _ | .math _ _ _ => false

/-- The numbers of the payload fit their fields. Dataport messages are only accepted if
theirs do. -/
def PayloadFits (fields : MessageFields) : MessageCall → Prop
  | .sampler message _ _ _ =>
      message.bindingTable < fields.samplerBindingTable.capacity ∧
        message.sampler < fields.sampler.capacity ∧
        message.type < fields.samplerType.capacity ∧ message.mode < fields.samplerMode.capacity
  | .urb message _ _ _ =>
      message.opcode < fields.urbOpcode.capacity ∧ message.offset < fields.urbOffset.capacity
  | .descriptor _ | .dataport _ _ _ _ _ | .math _ _ _ => True

structure Fits (gen : Generation) (call : MessageCall) : Prop where
  length : call.length < gen.messageFields.length.capacity
  response : call.responseLength < gen.messageFields.responseLength.capacity
  payload : call.PayloadFits gen.messageFields

/-- The message in words, up to its lengths. Not every URB opcode and not every shared function
has a word, and a descriptor alone is no message. -/
def wording? (gen : Generation) : MessageCall → Option String
  | .descriptor _ => none
  | .sampler message _ _ _ =>
      some s!"sampler ({message.bindingTable}, {message.sampler}, {message.type}, {message.mode})"
  | .urb message _ _ _ =>
      (Mnemonics.urbOpcode gen message.opcode).map fun name =>
        "URB " ++ name ++ (if 7 ≤ gen.number ∧ message.interleave then " interleaved" else "") ++
          s!" {message.offset} 0" ++
          (if gen.number < 8 ∧ message.complete then " complete" else "")
  | .dataport message _ _ _ _ =>
      (message.sfid.word? gen).map fun target =>
        let control := message.bindingTable + 256 * message.control + 16384 * message.type
        target ++ s!" ({message.bindingTable}, 0x{Numeral.hex control})"
  | .math function _ _ => some ("math " ++ function.word)

end MessageCall

def lengthWording (length responseLength : Nat) : String :=
  s!" mlen {length} rlen {responseLength}"

/-- The second line of the text is the indented message, and behind a gap the settings of the
instruction, which have `EOT` or not. -/
def SaysMessage (text message : String) (endOfThread : Bool) : Prop :=
  ∃ gap settings, 0 < gap ∧
    (textLines text)[1]? = some (Piece.spaces 16 ++ message ++ Piece.spaces gap ++
      "\x7b" ++ settings ++ "\x7d;") ∧
    ("EOT".toList <:+: settings.toList ↔ endOfThread = true)

section Frame

theorem Generation.opcode_apart_message (gen : Generation) :
    Apart [gen.layout.header.opcode.toBitRange] gen.layout.operandRanges ∧
      Apart [gen.layout.header.opcode.toBitRange] gen.messageFields.descriptorRanges ∧
      Apart [gen.layout.header.opcode.toBitRange] gen.messageFields.payloadRanges := by
  cases gen <;> decide

namespace Instruction

def KeepsOpcode (instr : Instruction) (after : Encoding) : Prop :=
  Encoding.Agree [instr.layout.header.opcode.toBitRange] after instr.bits

namespace KeepsOpcode

variable {instr : Instruction} {bits : Encoding}

theorem of_descriptor {descriptor : MessageDescriptor} {described : Instruction}
    (accepted : instr.setMessageDescriptor descriptor = .ok described) :
    ∃ after, described = ⟨instr.gen, after⟩ ∧ instr.KeepsOpcode after := by
  obtain ⟨operands, descriptors, -⟩ := instr.gen.opcode_apart_message
  exact ⟨_, setMessageDescriptor_eq_ok accepted, agree_described descriptor instr.bits
    (operands.mono (List.Subset.refl _) (instr.layout.source_ranges_subset .src1)) descriptors⟩

theorem assign (keeps : instr.KeepsOpcode bits) {ranges : List BitRange}
    (apart : Apart [instr.layout.header.opcode.toBitRange] ranges) {writes : List Assignment}
    (inside : writes.map (·.range) ⊆ ranges) : instr.KeepsOpcode (bits.assign writes) :=
  fun range member =>
    (Encoding.agree_assign (apart.mono (List.Subset.refl _) inside) bits range member).trans
      (keeps range member)

theorem assign_src0 (keeps : instr.KeepsOpcode bits) {writes : List Assignment}
    (inside : writes.map (·.range) ⊆ instr.layout.src0.ranges) :
    instr.KeepsOpcode (bits.assign writes) :=
  keeps.assign instr.gen.opcode_apart_message.1
    (List.Subset.trans inside (instr.layout.slotRanges_subset (.source .src0)))

theorem assign_payload (keeps : instr.KeepsOpcode bits) {writes : List Assignment}
    (inside : writes.map (·.range) ⊆ instr.gen.messageFields.payloadRanges) :
    instr.KeepsOpcode (bits.assign writes) :=
  keeps.assign instr.gen.opcode_apart_message.2.2 inside

end KeepsOpcode

theorem opcode_of_setMessage {call : MessageCall} {instr written : Instruction}
    (accepted : instr.setMessage call = .ok written) :
    written.gen = instr.gen ∧ written.opcode? = instr.opcode? := by
  obtain ⟨after, rfl, keeps⟩ :
      ∃ after, written = ⟨instr.gen, after⟩ ∧ instr.KeepsOpcode after := by
    cases call with
    | descriptor parts => exact KeepsOpcode.of_descriptor accepted
    | urb message length response endOfThread =>
        obtain ⟨described, isDescribed, accepted⟩ := (bind_eq_ok_iff _ _ _).mp accepted
        obtain ⟨loaded, isLoaded, made⟩ := (bind_eq_ok_iff _ _ _).mp accepted
        obtain ⟨bits, rfl, keeps⟩ := KeepsOpcode.of_descriptor isDescribed
        obtain ⟨writes, inSrc0, rfl, -⟩ := loaded_of_setSrc0 isLoaded
        rw [pure_eq_ok_iff, writeUrb_eq] at made
        refine ⟨_, made, (keeps.assign_src0 inSrc0).assign_payload ?_⟩
        rw [MessageFields.map_range_urbPayload]
        exact instr.gen.messageFields.urbRanges_subset
    | sampler message length response header =>
        obtain ⟨described, isDescribed, made⟩ := (bind_eq_ok_iff _ _ _).mp accepted
        obtain ⟨bits, rfl, keeps⟩ := KeepsOpcode.of_descriptor isDescribed
        simp only [set_eq_assign, ← Encoding.assign_append, pure_eq_ok_iff] at made
        exact ⟨_, made, keeps.assign_payload instr.gen.messageFields.samplerRanges_subset⟩
    | dataport message length response header endOfThread =>
        simp only [setMessage, setDataportMessage, bind_eq_ok_iff] at accepted
        obtain ⟨_, -, _, -, _, -, _, -, _, -, described, isDescribed, made⟩ := accepted
        obtain ⟨bits, rfl, keeps⟩ := KeepsOpcode.of_descriptor isDescribed
        rw [pure_eq_ok_iff, set_eq_assign] at made
        exact ⟨_, made, keeps.assign_payload instr.gen.messageFields.functionControl_subset⟩
    | math function length response =>
        obtain ⟨field, found, accepted⟩ := (bind_eq_ok_iff _ _ _).mp accepted
        obtain ⟨described, isDescribed, made⟩ := (bind_eq_ok_iff _ _ _).mp accepted
        obtain ⟨bits, rfl, keeps⟩ := KeepsOpcode.of_descriptor isDescribed
        rw [pure_eq_ok_iff, set_eq_assign] at made
        have present := (orRefuse_eq_ok_iff _ _ _).mp found
        exact ⟨_, made, keeps.assign_payload (MessageFields.mathFunction_subset present)⟩
  exact ⟨rfl, congrArg Coded.ofCode? (keeps _ List.mem_cons_self)⟩

end Instruction

end Frame

section EndOfThread

namespace Avoids

theorem notice {what : String} (named : Avoids (· == 'T') what) (value : Nat) :
    Avoids (· == 'T') (Piece.notice what value) := by
  have opening : Avoids (· == 'T') "*** invalid " := .literal rfl
  have between : Avoids (· == 'T') " value " := .literal rfl
  have space : Avoids (· == 'T') " " := .literal rfl
  have number : Avoids (· == 'T') (toString value) := digits (by decide) value
  simp only [Piece.notice, append_iff]
  exact ⟨⟨⟨⟨opening, named⟩, between⟩, number⟩, space⟩

theorem spaced {what : String} {words : Mnemonics} {value : Nat}
    (known : ∀ word, words value = some word → Avoids (· == 'T') word)
    (named : Avoids (· == 'T') what) :
    Avoids (· == 'T') (ink (spaced what words value)) := by
  have space : Avoids (· == 'T') " " := .literal rfl
  unfold ExecUnit.spaced
  split
  · next word found =>
    split
    · exact .literal rfl
    · simp [Piece.ink, space, known word found]
  · simp [Piece.ink, notice named value]

theorem ofWord {α : Type} [Coded α] {stop : Char → Bool} {word : α → String}
    (avoid : ∀ value, Avoids stop (word value)) {number : Nat} {found : String}
    (known : Mnemonics.ofCoded (some ∘ word) number = some found) : Avoids stop found := by
  obtain ⟨value, -, isWord⟩ := Option.bind_eq_some_iff.mp known
  exact Option.some.inj isWord ▸ avoid value

end Avoids

namespace Instruction

variable (instr : Instruction)

theorem avoids_quarterPieces : Avoids (· == 'T') (ink instr.quarterPieces) := by
  have space : Avoids (· == 'T') " " := .literal rfl
  have quarter : Avoids (· == 'T') "Q" := .literal rfl
  have half (control : Nat) : Avoids (· == 'T') (if control < 2 then " 1H" else " 2H") := by
    split <;> exact .literal rfl
  have compression : ∀ word ∈ ["", "sechalf", "compr"], Avoids (· == 'T') word := by
    simp only [List.forall_mem_cons]
    exact ⟨.literal rfl, .literal rfl, .literal rfl, List.forall_mem_nil _⟩
  unfold quarterPieces
  dsimp only
  split
  · split
    · simp only [ink_cons, ink_nil, Piece.ink, String.append_empty, Avoids.append_iff]
      exact ⟨⟨space, Avoids.digits (by decide) _⟩, quarter⟩
    · simp only [ink_cons, ink_nil, Piece.ink, String.append_empty]
      exact half _
    · exact .literal rfl
  · exact .spaced (fun word found => compression word (List.mem_of_getElem? found)) (.literal rfl)

-- The only capital T in the cluster of settings is that of `EOT`.
theorem ink_settingPieces : ∃ front, Avoids (· == 'T') front ∧ ink instr.settingPieces =
    "\x7b" ++ (front ++ ink instr.endOfThreadPieces ++ " ") ++ "\x7d" := by
  let header := instr.layout.header
  have space : Avoids (· == 'T') " " := .literal rfl
  have mode : Avoids (· == 'T') instr.accessMode.word := by
    cases instr.accessMode <;> exact .literal rfl
  have mask (value : Nat) : Avoids (· == 'T') (ink (spaced "mask control" .maskControl value)) :=
    .spaced (fun _ => .ofWord fun value => by cases value <;> exact .literal rfl) (.literal rfl)
  have dependency (value : Nat) :
      Avoids (· == 'T') (ink (spaced "dependency control" .dependencyControl value)) :=
    .spaced (fun _ => .ofWord fun value => by cases value <;> exact .literal rfl) (.literal rfl)
  have thread (value : Nat) :
      Avoids (· == 'T') (ink (spaced "thread control" .threadControl value)) :=
    .spaced (fun _ => .ofWord fun value => by cases value <;> exact .literal rfl) (.literal rfl)
  have accumulator : Avoids (· == 'T') (ink
      (if instr.isSet header.accWriteControl then [.text " AccWrEnable"] else [])) := by
    split <;> exact .literal rfl
  refine ⟨" " ++ instr.accessMode.word ++
    ink (spaced "mask control" .maskControl (instr.get header.maskControl)) ++
    ink (spaced "dependency control" .dependencyControl (instr.get header.dependencyControl)) ++
    ink instr.quarterPieces ++
    ink (spaced "thread control" .threadControl (instr.get header.threadControl)) ++
    ink (if instr.isSet header.accWriteControl then [.text " AccWrEnable"] else []), ?_, ?_⟩
  · simp only [Avoids.append_iff]
    exact ⟨⟨⟨⟨⟨⟨space, mode⟩, mask _⟩, dependency _⟩, instr.avoids_quarterPieces⟩, thread _⟩,
      accumulator⟩
  · have ending : " \x7d" = " " ++ "\x7d" := by decide
    simp only [settingPieces, ink_append, ink_cons, ink_nil, Piece.ink, ending, header,
      String.append_assoc, String.append_empty]

/-- Settings in braces say whether the instruction is a SEND that ends its thread. -/
theorem settings_endOfThread : ∃ settings,
    ink instr.settingPieces = "\x7b" ++ settings ++ "\x7d" ∧
    ("EOT".toList <:+: settings.toList ↔
      instr.isSend = true ∧ instr.isSet instr.gen.messageFields.eot = true) := by
  obtain ⟨front, capitals, isCluster⟩ := instr.ink_settingPieces
  refine ⟨_, isCluster, ?_⟩
  have word : "EOT".toList = ['E', 'O', 'T'] := String.toList_ofList
  by_cases ends : instr.isSend = true ∧ instr.isSet instr.gen.messageFields.eot = true
  · have here : ink instr.endOfThreadPieces = " " ++ "EOT" := by
      rw [endOfThreadPieces, if_pos ends]
      decide
    refine iff_of_true ⟨(front ++ " ").toList, " ".toList, ?_⟩ ends
    simp only [here, String.toList_append, List.append_assoc]
  · have nowhere : ink instr.endOfThreadPieces = "" := by
      rw [endOfThreadPieces, if_neg ends]
      rfl
    have space : Avoids (· == 'T') " " := .literal rfl
    have absent : Avoids (· == 'T') (front ++ ink instr.endOfThreadPieces ++ " ") := by
      simp only [nowhere, String.append_empty, Avoids.append_iff]
      exact ⟨capitals, space⟩
    refine iff_of_false (fun found => ?_) ends
    rw [word] at found
    exact absurd (absent 'T' (found.subset (by decide))) (by decide)

end Instruction

end EndOfThread

section Wording

namespace Instruction

variable {instr written : Instruction}

theorem Carries.descriptorFields {gen : Generation} {descriptor : MessageDescriptor}
    {payload : List Assignment} (carries : written.Carries gen descriptor payload) :
    written.sfidNumber = code descriptor.sfid ∧
      written.get gen.messageFields.length = descriptor.length % 16 ∧
      written.get gen.messageFields.responseLength =
        descriptor.responseLength % (if gen = .gen4 then 16 else 32) ∧
      written.isSet gen.messageFields.eot = descriptor.endOfThread := by
  obtain ⟨gen', bits⟩ := written
  obtain rfl : gen' = gen := carries.sameGen
  obtain ⟨sfid, decoded, isKept⟩ := (bind_eq_ok_iff _ _ _).mp carries.described
  have kept := (pure_eq_ok_iff _ _).mp isKept
  have sameSfid : sfid = descriptor.sfid := (congrArg MessageDescriptor.sfid kept).symm
  refine ⟨?_, (congrArg MessageDescriptor.length kept).symm,
    (congrArg MessageDescriptor.responseLength kept).symm,
    (congrArg MessageDescriptor.endOfThread kept).symm⟩
  rw [← sameSfid]
  exact ((decodeCode_eq_ok_iff _ _ _).mp decoded).symm

theorem ink_messageLine {sfid : Sfid} {target : String} (atSfid : instr.sfidNumber = code sfid)
    (word : sfid.word? instr.gen = some target) :
    ink instr.messageLine = target ++ ink instr.payloadPieces ++
      lengthWording (instr.get instr.gen.messageFields.length)
        (instr.get instr.gen.messageFields.responseLength) := by
  have found : Mnemonics.sfid instr.gen instr.sfidNumber = some target := by
    rw [atSfid, Mnemonics.sfid, Mnemonics.ofCoded, Coded.ofCode?_code]
    exact word
  have spaced : instr.spacesLengths = true := by
    unfold spacesLengths sfidWord?
    split <;> simp [found]
  have opening : " mlen " = " " ++ "mlen " := by decide
  rw [messageLine, ink_append, ink_append, ink_entry found, lengthPieces, spaced]
  simp only [ink_cons, ink_nil, Piece.ink, if_pos, lengthWording, opening, String.append_assoc,
    String.append_empty]
  rfl

section Payloads

variable {gen : Generation} {bits : Encoding}

theorem messageForm_of_sfid {sfid : Sfid} (atSfid : sfidNumber ⟨gen, bits⟩ = code sfid) :
    messageForm ⟨gen, bits⟩ = .ofSfid gen.messageFields (some sfid) := by
  rw [messageForm, atSfid, Coded.ofCode?_code]

theorem ink_flagPieces {word : String} {field? : Option Field} {flag : Bool}
    (stored : bits.Stores (field?.toList.map (⟨·.toBitRange, flag.toNat⟩))) :
    ink (flagPieces word field? ⟨gen, bits⟩) =
      if field?.isSome ∧ flag then " " ++ word else "" := by
  cases field? with
  | none => rfl
  | some field =>
      have held : field.get bits = flag.toNat % field.capacity := stored _ List.mem_cons_self
      rw [BitRange.toNat_mod_capacity] at held
      have isSet : isSet field ⟨gen, bits⟩ = flag := by
        unfold Instruction.isSet get
        cases flag <;> simp [held]
      cases flag <;> simp [flagPieces, isSet, Piece.ink]

theorem ink_samplerPayload {sampler : SamplerMessage} {length response : Nat} {header : Bool}
    (atSfid : sfidNumber ⟨gen, bits⟩ = code Sfid.sampler)
    (stored : bits.Stores (gen.messageFields.samplerPayload sampler))
    (fits : (MessageCall.sampler sampler length response header).PayloadFits gen.messageFields) :
    ink (payloadPieces ⟨gen, bits⟩) =
      s!" ({sampler.bindingTable}, {sampler.sampler}, {sampler.type}, {sampler.mode})" := by
  obtain ⟨tableFits, samplerFits, typeFits, modeFits⟩ := fits
  simp only [MessageFields.samplerPayload, Encoding.stores_cons] at stored
  obtain ⟨table, number, type, mode, -⟩ := stored
  rw [Nat.mod_eq_of_lt tableFits] at table
  rw [Nat.mod_eq_of_lt samplerFits] at number
  rw [Nat.mod_eq_of_lt typeFits] at type
  rw [Nat.mod_eq_of_lt modeFits] at mode
  have form : messageForm ⟨gen, bits⟩ = .sampler := messageForm_of_sfid atSfid
  rw [payloadPieces, form]
  simp only [samplerPieces, get, table, number, type, mode, ink_cons, ink_nil, Piece.ink,
    String.append_empty]

theorem urbOpcode_ne_empty {number : Nat} {name : String}
    (named : Mnemonics.urbOpcode gen number = some name) : name ≠ "" := by
  have words : ∀ word ∈ ["write", "ff_sync", "write HWord", "write OWord", "read HWord",
      "read OWord", "atomic mov", "atomic inc", "atomic add", "SIMD8 write", "SIMD8 read"],
      word ≠ "" := by
    decide
  have member := List.mem_of_getElem? named
  apply words
  split at member
  · exact List.mem_append_left _ member
  · exact List.mem_append_right ["write", "ff_sync"] member

theorem urbFlags_isSome (gen : Generation) :
    (gen.messageFields.urbInterleave.isSome ↔ 7 ≤ gen.number) ∧
      (gen.messageFields.urbComplete.isSome ↔ gen.number < 8) := by
  cases gen <;> decide

theorem ink_urbPayload {urb : UrbMessage} {length response : Nat} {endOfThread : Bool}
    {name : String} (atSfid : sfidNumber ⟨gen, bits⟩ = code Sfid.urb)
    (stored : bits.Stores (gen.messageFields.urbPayload urb))
    (fits : (MessageCall.urb urb length response endOfThread).PayloadFits gen.messageFields)
    (named : Mnemonics.urbOpcode gen urb.opcode = some name) :
    ink (payloadPieces ⟨gen, bits⟩) =
      " " ++ name ++ (if 7 ≤ gen.number ∧ urb.interleave then " interleaved" else "") ++
        s!" {urb.offset} 0" ++ (if gen.number < 8 ∧ urb.complete then " complete" else "") := by
  obtain ⟨opcodeFits, offsetFits⟩ := fits
  simp only [MessageFields.urbPayload, Encoding.stores_append, Encoding.stores_cons] at stored
  obtain ⟨⟨⟨⟨opcode, offset, -⟩, interleave⟩, slots⟩, complete⟩ := stored
  rw [Nat.mod_eq_of_lt opcodeFits] at opcode
  rw [Nat.mod_eq_of_lt offsetFits] at offset
  -- Generations without per-slot offsets print a zero all the same.
  have slotOffset : gen.messageFields.urbPerSlotOffset.elim 0 (·.get bits) = 0 := by
    cases present : gen.messageFields.urbPerSlotOffset with
    | none => rfl
    | some field =>
        rw [present] at slots
        exact (slots _ List.mem_cons_self).trans (Nat.zero_mod _)
  obtain ⟨hasInterleave, hasComplete⟩ := urbFlags_isSome gen
  have interleaved : ink (flagPieces "interleaved" gen.messageFields.urbInterleave ⟨gen, bits⟩) =
      if 7 ≤ gen.number ∧ urb.interleave then " interleaved" else "" := by
    have word : " interleaved" = " " ++ "interleaved" := by decide
    simp only [ink_flagPieces interleave, hasInterleave, word]
  have completed : ink (flagPieces "complete" gen.messageFields.urbComplete ⟨gen, bits⟩) =
      if gen.number < 8 ∧ urb.complete then " complete" else "" := by
    have word : " complete" = " " ++ "complete" := by decide
    simp only [ink_flagPieces complete, hasComplete, word]
  have form : messageForm ⟨gen, bits⟩ = .urb := messageForm_of_sfid atSfid
  have spoken : ink (spaced "urb opcode" (.urbOpcode gen) urb.opcode) = " " ++ name :=
    ink_spaced named (urbOpcode_ne_empty named)
  have zero : toString " 0" = toString " " ++ toString 0 := by decide
  rw [payloadPieces, form]
  simp only [urbPieces, ink_append, get, opcode, offset, slotOffset, spoken, interleaved, completed,
    ink_cons, ink_nil, Piece.ink, zero, String.append_assoc, String.append_empty]

theorem ink_dataportPayload {dataport : DataportMessage}
    (port : dataport.sfid.isDataport = true)
    (atSfid : sfidNumber ⟨gen, bits⟩ = code dataport.sfid)
    (table : gen.messageFields.dataportBindingTable.get bits = dataport.bindingTable)
    (control : gen.messageFields.functionControl.get bits =
      dataport.bindingTable + 256 * dataport.control + 16384 * dataport.type) :
    ink (payloadPieces ⟨gen, bits⟩) =
      s!" ({dataport.bindingTable}, 0x{Numeral.hex (dataport.bindingTable +
        256 * dataport.control + 16384 * dataport.type)})" := by
  have form : messageForm ⟨gen, bits⟩ = .dataport := by
    rw [messageForm_of_sfid atSfid]
    cases target : dataport.sfid <;> rw [target] at port <;> first | rfl | cases port
  rw [payloadPieces, form]
  simp only [dataportPieces, get, table, control, ink_cons, ink_nil, Piece.ink, String.append_empty]

theorem ink_mathPayload {function : MathFunction} {field : Field}
    (present : gen.messageFields.mathFunction = some field)
    (atSfid : sfidNumber ⟨gen, bits⟩ = code Sfid.math)
    (stored : bits.Stores (gen.messageFields.mathPayload function)) :
    ink (payloadPieces ⟨gen, bits⟩) = " " ++ function.word := by
  have room : field.capacity = 16 := by
    cases gen <;> cases present <;> rfl
  have small : code function < 16 := by cases function <;> decide
  have held : field.get bits = code function := by
    rw [MessageFields.mathPayload, present] at stored
    rw [stored _ List.mem_cons_self, room, Nat.mod_eq_of_lt small]
  have form : messageForm ⟨gen, bits⟩ = .math field := by
    simp only [messageForm_of_sfid atSfid, MessageForm.ofSfid, present]
  have word : Mnemonics.mathFunction (code function) = some function.word := by
    rw [Mnemonics.mathFunction, Mnemonics.ofCoded, Coded.ofCode?_code]
    rfl
  rw [payloadPieces, form]
  simp only [get, held]
  exact ink_spaced word (by cases function <;> decide)

end Payloads

theorem saysMessage_of_carries {descriptor : MessageDescriptor} {payload : List Assignment}
    {target message : String} (sends : written.isSend = true)
    (carries : written.Carries instr.gen descriptor payload)
    (lengthFits : descriptor.length < instr.gen.messageFields.length.capacity)
    (responseFits : descriptor.responseLength < instr.gen.messageFields.responseLength.capacity)
    (word : descriptor.sfid.word? instr.gen = some target)
    (isMessage : ink written.payloadPieces = message) :
    SaysMessage written.listing.text
      (target ++ message ++ lengthWording descriptor.length descriptor.responseLength)
      descriptor.endOfThread := by
  obtain ⟨atSfid, length, response, ends⟩ := carries.descriptorFields
  obtain ⟨-, lengthRoom, responseRoom, -⟩ := instr.gen.descriptor_sized
  rw [lengthRoom] at lengthFits
  rw [responseRoom] at responseFits
  rw [Nat.mod_eq_of_lt lengthFits] at length
  rw [Nat.mod_eq_of_lt responseFits] at response
  obtain ⟨gap, positive, line⟩ := written.secondLine_listing sends
  obtain ⟨settings, cluster, endOfThread⟩ := written.settings_endOfThread
  have said := ink_messageLine atSfid (carries.sameGen ▸ word)
  rw [carries.sameGen] at said endOfThread
  rw [isMessage, length, response] at said
  refine ⟨gap, settings, positive, ?_, ?_⟩
  · have closing : "\x7d;" = "\x7d" ++ ";" := by decide
    rw [line, said, cluster, closing]
    simp only [String.append_assoc]
  · rw [endOfThread, ends]
    exact and_iff_right sends

section Helpers

variable {gen : Generation} {bits : Encoding} {wording : String} {length responseLength : Nat}
  (atGen : instr.gen = gen) (sends : isSend ⟨gen, bits⟩ = true)
include atGen sends

theorem saysMessage_of_sampler {message : SamplerMessage} {headerPresent : Bool}
    (fits : (MessageCall.sampler message length responseLength headerPresent).Fits gen)
    (accepted : instr.setSamplerMessage message length responseLength headerPresent =
      .ok ⟨gen, bits⟩)
    (worded : (MessageCall.sampler message length responseLength headerPresent).wording? gen =
      some wording) :
    SaysMessage (listing ⟨gen, bits⟩).text (wording ++ lengthWording length responseLength)
      false := by
  subst atGen
  have carries := carries_of_sampler accepted
  have word : Sfid.sampler.word? instr.gen = some "sampler" := by
    unfold Sfid.word?
    split <;> rfl
  have payload := ink_samplerPayload carries.descriptorFields.1 carries.stored fits.payload
  have said := saysMessage_of_carries sends carries fits.length fits.response word payload
  obtain rfl := Option.some.inj worded
  have opening : toString "sampler (" = "sampler" ++ toString " (" := by decide
  simp only [opening, String.append_assoc] at said ⊢
  exact said

theorem saysMessage_of_urb {message : UrbMessage} {endOfThread : Bool}
    (fits : (MessageCall.urb message length responseLength endOfThread).Fits gen)
    (accepted : instr.setUrbMessage message length responseLength endOfThread = .ok ⟨gen, bits⟩)
    (worded : (MessageCall.urb message length responseLength endOfThread).wording? gen =
      some wording) :
    SaysMessage (listing ⟨gen, bits⟩).text (wording ++ lengthWording length responseLength)
      endOfThread := by
  subst atGen
  obtain ⟨carries, -⟩ := carries_of_urb accepted
  have word : Sfid.urb.word? instr.gen = some "URB" := by
    unfold Sfid.word?
    split <;> rfl
  obtain ⟨name, named, rfl⟩ := Option.map_eq_some_iff.mp worded
  have payload := ink_urbPayload carries.descriptorFields.1 carries.stored fits.payload named
  have said := saysMessage_of_carries sends carries fits.length fits.response word payload
  have opening : "URB " = "URB" ++ " " := by decide
  simp only [opening, String.append_assoc] at said ⊢
  exact said

theorem saysMessage_of_dataport {message : DataportMessage} {headerPresent endOfThread : Bool}
    (fits : (MessageCall.dataport message length responseLength headerPresent endOfThread).Fits gen)
    (accepted : instr.setDataportMessage message length responseLength headerPresent endOfThread =
      .ok ⟨gen, bits⟩)
    (worded : (MessageCall.dataport message length responseLength headerPresent
      endOfThread).wording? gen = some wording) :
    SaysMessage (listing ⟨gen, bits⟩).text (wording ++ lengthWording length responseLength)
      endOfThread := by
  subst atGen
  obtain ⟨⟨late, port, table, type, control⟩, carries⟩ := carriesControl_of_dataport accepted
  obtain ⟨target, word, rfl⟩ := Option.map_eq_some_iff.mp worded
  have whole := get_functionControl late table type control (carries.stored _ List.mem_cons_self)
  have room : instr.gen.messageFields.dataportBindingTable.capacity = 256 := by
    generalize instr.gen = gen
    cases gen <;> rfl
  have atTable : instr.gen.messageFields.dataportBindingTable.get bits = message.bindingTable := by
    have held := (carries_of_dataport accepted).stored _ List.mem_cons_self
    rwa [room, Nat.mod_eq_of_lt (Nat.lt_succ_of_le table)] at held
  have payload := ink_dataportPayload port carries.descriptorFields.1 atTable whole
  have said := saysMessage_of_carries sends carries fits.length fits.response word payload
  simp only [String.append_assoc] at said ⊢
  exact said

theorem saysMessage_of_math {function : MathFunction}
    (fits : (MessageCall.math function length responseLength).Fits gen)
    (accepted : instr.setMathMessage function length responseLength = .ok ⟨gen, bits⟩)
    (worded : (MessageCall.math function length responseLength).wording? gen = some wording) :
    SaysMessage (listing ⟨gen, bits⟩).text (wording ++ lengthWording length responseLength)
      false := by
  subst atGen
  have carries := carries_of_math accepted
  obtain ⟨field, found, -⟩ := (bind_eq_ok_iff _ _ _).mp accepted
  have present := (orRefuse_eq_ok_iff _ _ _).mp found
  have word : Sfid.math.word? instr.gen = some "math" := by
    generalize instr.gen = gen at present ⊢
    cases gen <;> first | rfl | cases present
  have payload := ink_mathPayload present carries.descriptorFields.1 carries.stored
  have said := saysMessage_of_carries sends carries fits.length fits.response word payload
  obtain rfl := Option.some.inj worded
  have opening : "math " = "math" ++ " " := by decide
  simp only [opening, String.append_assoc] at said ⊢
  exact said

end Helpers

/-- The second line of a SEND says of the message what its helper was told: every number is the
one given, as long as it fits its field. -/
theorem listing_of_setMessage (call : MessageCall) (instr written : Instruction)
    (sends : instr.opcode? = some .send ∨ instr.opcode? = some .sendc) (fits : call.Fits instr.gen)
    (accepted : instr.setMessage call = .ok written) (wording : String)
    (worded : call.wording? instr.gen = some wording) :
    SaysMessage written.listing.text (wording ++ lengthWording call.length call.responseLength)
      call.endOfThread := by
  obtain ⟨sameGen, sameOpcode⟩ := opcode_of_setMessage accepted
  have stillSends : written.isSend = true := by
    rw [isSend, knownOpcode?, sameOpcode]
    rcases sends with isOpcode | isOpcode <;> rw [isOpcode] <;> rfl
  obtain ⟨gen, bits⟩ := written
  obtain rfl : gen = instr.gen := sameGen
  cases call with
  | descriptor parts => cases worded
  | sampler => exact saysMessage_of_sampler rfl stillSends fits accepted worded
  | urb => exact saysMessage_of_urb rfl stillSends fits accepted worded
  | dataport => exact saysMessage_of_dataport rfl stillSends fits accepted worded
  | math => exact saysMessage_of_math rfl stillSends fits accepted worded

def sendOnGen7 : Instruction :=
  (eightChannels .gen7).set Layout.gen4.header.opcode (code Opcode.send)

theorem listing_of_setMessage_urb :
    ∃ written, sendOnGen7.setUrbMessage ⟨0, 5, true, true⟩ 3 1 true = .ok written ∧
      SaysMessage written.listing.text
        "URB write HWord interleaved 5 0 complete mlen 3 rlen 1" true := by
  obtain ⟨written, accepted⟩ :
      ∃ written, sendOnGen7.setUrbMessage ⟨0, 5, true, true⟩ 3 1 true = .ok written := ⟨_, rfl⟩
  have fits : (MessageCall.urb ⟨0, 5, true, true⟩ 3 1 true).Fits .gen7 :=
    ⟨by decide, by decide, by decide, by decide⟩
  exact ⟨written, accepted, listing_of_setMessage (.urb ⟨0, 5, true, true⟩ 3 1 true) sendOnGen7
    written (Or.inl rfl) fits accepted "URB write HWord interleaved 5 0 complete" (by decide)⟩

end Instruction

end Wording

end ExecUnit
