import ExecUnit.Proofs.Program.Units
import ExecUnit.Proofs.Text.HexNumerals

/-!
The formats of a program agree (`formats_agree`). A format is right when it writes the units
of the instructions, so each is compared with these and never with another format.
-/

namespace ExecUnit

namespace Program

open HexLiteral

section Words

theorem arrayLine_toList (bits : Encoding) : (arrayLine bits).toList =
    [' ', ' ', ' ', '{', ' '] ++ written 8
      [((bits.word 0).toNat, [',', ' ']), ((bits.word 1).toNat, [',', ' ']),
        ((bits.word 2).toNat, [',', ' ']), ((bits.word 3).toNat, [' ', '}', ',', '\n'])] := by
  simp [arrayLine, Encoding.words, written, String.intercalate_cons_cons]

theorem scan_arrayLine (bits : Encoding) (rest : List Char) :
    scan 8 0 ((arrayLine bits).toList ++ rest) = InputUnit.word.units bits ++ scan 8 0 rest := by
  have fit : ∀ index, (bits.word index).toNat < Nat.pow 16 8 := fun index => (bits.word index).isLt
  rw [arrayLine_toList, List.append_assoc, scan_separator (by decide), scan_written (by decide)]
  · rw [Encoding.units_word]
    rfl
  · simp only [List.forall_mem_cons, fit, true_and]
    exact List.forall_mem_nil _
  · simp only [List.forall_mem_cons]
    exact ⟨by decide, by decide, by decide, by decide, List.forall_mem_nil _⟩

theorem values_toArray (program : Program) :
    values 8 program.toArray = program.instructions.flatMap InputUnit.word.units := by
  obtain ⟨instructions⟩ := program
  rw [values, toArray, String.toList_join, List.flatMap_map]
  induction instructions with
  | nil => rfl
  | cons bits instructions ih => rw [List.flatMap_cons, List.flatMap_cons, scan_arrayLine, ih]

end Words

section Bytes

/-- Bytes as a text, each with what stands between it and the next. -/
def byteText (listed : List (UInt8 × String)) : String :=
  String.join (listed.map fun entry => "0x" ++ Numeral.hexPadded 2 entry.1.toNat ++ entry.2)

theorem values_byteText {listed : List (UInt8 × String)}
    (apart : ∀ entry ∈ listed, '0' ∉ entry.2.toList) :
    values 2 (byteText listed) = listed.map fun entry => entry.1.toNat := by
  have text : (byteText listed).toList =
      written 2 (listed.map fun entry => (entry.1.toNat, entry.2.toList)) ++ [] := by
    rw [List.append_nil, byteText, String.toList_join, List.flatMap_map, written, List.flatMap_map]
    simp
  rw [values, text, scan_written (by decide)]
  · simp [scan]
  · intro entry member
    obtain ⟨listed, -, rfl⟩ := List.mem_map.mp member
    exact listed.1.toNat_lt
  · intro entry member
    obtain ⟨listed, inside, rfl⟩ := List.mem_map.mp member
    exact apart listed inside

theorem map_toNat_toBytes (program : Program) :
    program.toBytes.map UInt8.toNat = program.instructions.flatMap InputUnit.byte.units := by
  rw [toBytes, List.map_flatMap]
  exact congrArg program.instructions.flatMap (funext fun bits => (Encoding.units_byte bits).symm)

theorem toNat_lt_base {bytes : List UInt8} :
    ∀ value ∈ bytes.map UInt8.toNat, value < InputUnit.byte.base := by
  intro value member
  obtain ⟨byte, -, rfl⟩ := List.mem_map.mp member
  exact byte.toNat_lt

theorem toBytes_ofBytes (bytes : List UInt8) :
    (Loaded.ofBytes bytes).program.toBytes = bytes.take (16 * (bytes.length / 16)) := by
  have same : ((Loaded.ofBytes bytes).program.toBytes).map UInt8.toNat =
      (bytes.take (16 * (bytes.length / 16))).map UInt8.toNat := by
    rw [map_toNat_toBytes, Loaded.ofBytes, Loaded.flatMap_units_ofUnits .byte toNat_lt_base,
      List.length_map, List.map_take]
    rfl
  exact (List.map_inj_right fun _ _ equal => UInt8.toNat_inj.mp equal).mp same

end Bytes

section Readers

theorem ofText_toArray (program : Program) :
    (Loaded.ofText .word program.toArray).program = program := by
  have read := Loaded.ofUnits_exactly .word program
  rw [← values_toArray] at read
  exact congrArg Loaded.program read

theorem ofText_byteText (program : Program) {listed : List (UInt8 × String)}
    (bytes : listed.map Prod.fst = program.toBytes)
    (apart : ∀ entry ∈ listed, '0' ∉ entry.2.toList) :
    (Loaded.ofText .byte (byteText listed)).program = program := by
  have units : values 2 (byteText listed) =
      program.instructions.flatMap InputUnit.byte.units := by
    rw [values_byteText apart, ← map_toNat_toBytes, ← bytes, List.map_map]
    rfl
  have read := Loaded.ofUnits_exactly .byte program
  rw [← units] at read
  exact congrArg Loaded.program read

theorem ofBytes_toBytes_append (program : Program) {extra : List UInt8}
    (short : extra.length ≤ 15) :
    (Loaded.ofBytes (program.toBytes ++ extra)).program = program := by
  have fits : (extra.map UInt8.toNat).length < InputUnit.byte.perInstruction := by
    rw [List.length_map]
    exact Nat.lt_succ_of_le short
  have read := Loaded.ofUnits_units .byte program fits
  rw [← map_toNat_toBytes, ← List.map_append] at read
  exact congrArg Loaded.program read

end Readers

end Program

namespace Loaded

def WarnsOf (log : List LogEntry) (unit : String) (remainder : Nat) : Prop :=
  (log = [] ↔ remainder = 0) ∧
    (remainder ≠ 0 → log =
      [⟨.warn, s!"Ignoring {remainder} trailing {unit}(s) that don't form a whole instruction"⟩])

theorem warnsOf_log (loaded : Loaded) :
    WarnsOf loaded.log loaded.unit.name loaded.trailing := by
  by_cases whole : loaded.trailing = 0
  · simp [WarnsOf, log, whole]
  · simp [WarnsOf, log, whole]

end Loaded

open HexLiteral in
/-- Each format is read back as the program it was written from, whatever separates its bytes
and whatever is too short for one more instruction. Raw bytes come back up to the last whole
instruction, and each reader warns of the units that it leaves out. -/
theorem Program.formats_agree :
    (∀ program : Program,
      (Loaded.ofText .word program.toArray).program = program ∧
      (∀ listed : List (UInt8 × String), listed.map Prod.fst = program.toBytes →
        (∀ entry ∈ listed, ∀ char ∈ entry.2.toList, char ∈ [',', ' ', '\n']) →
        (Loaded.ofText .byte (byteText listed)).program = program) ∧
      ∀ extra : List UInt8, extra.length ≤ 15 →
        (Loaded.ofBytes (program.toBytes ++ extra)).program = program) ∧
    (∀ bytes : List UInt8,
      (Loaded.ofBytes bytes).program.toBytes = bytes.take (16 * (bytes.length / 16)) ∧
      Loaded.WarnsOf (Loaded.ofBytes bytes).log "byte" (bytes.length % 16)) ∧
    ∀ text : String,
      Loaded.WarnsOf (Loaded.ofText .word text).log "word" ((values 8 text).length % 4) ∧
      Loaded.WarnsOf (Loaded.ofText .byte text).log "byte" ((values 2 text).length % 16) := by
  refine ⟨?_, ?_, ?_⟩
  · intro program
    refine ⟨ofText_toArray program, ?_, fun extra short => ofBytes_toBytes_append program short⟩
    intro listed bytes separators
    apply ofText_byteText program bytes
    intro entry member zero
    exact absurd (separators entry member '0' zero) (by decide)
  · intro bytes
    refine ⟨toBytes_ofBytes bytes, ?_⟩
    have warns := (Loaded.ofBytes bytes).warnsOf_log
    rwa [show (Loaded.ofBytes bytes).trailing = bytes.length % 16 from
      congrArg (· % 16) (List.length_map _)] at warns
  · intro text
    exact ⟨(Loaded.ofText .word text).warnsOf_log, (Loaded.ofText .byte text).warnsOf_log⟩

/-- A move, listed with a comma and a blank behind each byte, and stored with three more bytes
behind it. -/
theorem Program.formats_agree_move :
    (Loaded.ofText .byte (byteText
      ((toBytes ⟨[0x28a0008400600001#128]⟩).map fun byte => (byte, ", ")))).program =
      ⟨[0x28a0008400600001#128]⟩ ∧
    (Loaded.ofBytes (toBytes ⟨[0x28a0008400600001#128]⟩ ++ [1, 2, 3])).program =
      ⟨[0x28a0008400600001#128]⟩ := by
  obtain ⟨-, fromText, fromBytes⟩ := formats_agree.1 ⟨[0x28a0008400600001#128]⟩
  refine ⟨fromText _ ?_ ?_, fromBytes [1, 2, 3] (by decide)⟩
  · rw [List.map_map]
    exact List.map_id _
  · intro entry member char inside
    obtain ⟨byte, -, rfl⟩ := List.mem_map.mp member
    have chars : ", ".toList = [',', ' '] := by simp
    rcases List.mem_cons.mp (chars ▸ inside) with rfl | later
    · decide
    · obtain rfl := List.mem_singleton.mp later
      decide

end ExecUnit
