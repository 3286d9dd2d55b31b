import ExecUnit.CommandLine.Tree
import ExecUnit.Proofs.CommandLine.Choices
import ExecUnit.Proofs.CommandLine.Runs
import ExecUnit.Proofs.Program.Formats
import ExecUnit.Proofs.Text.Utf8

/-!
The disassembler lists a program from each of its formats alike (`run_renders`): from a file
or standard input, to a file or standard output, and with its arguments in any order.
-/

namespace ExecUnit.CommandLine

inductive Format where
  | wordArray
  | byteArray
  | raw
  deriving DecidableEq, Repr

namespace Format

def choices : Format → List Choice
  | .wordArray => []
  | .byteArray => [.binary]
  | .raw => [.raw]

/-- The bytes of an array can have blanks and line ends between them. -/
inductive Holds (program : Program) : Format → List UInt8 → Prop where
  | wordArray : Holds program .wordArray (Utf8.encode program.toArray)
  | byteArray (listed : List (UInt8 × String)) (bytes : listed.map Prod.fst = program.toBytes)
      (separators : ∀ entry ∈ listed, ∀ char ∈ entry.2.toList, char ∈ [',', ' ', '\n']) :
      Holds program .byteArray (Utf8.encode (Program.byteText listed))
  | raw : Holds program .raw program.toBytes

end Format

def Options.plain (input : String) (output? : Option String) (gen : Generation)
    (format : Format) : Options where
  input := input
  output? := output?
  gen := gen
  binary := format = .byteArray
  raw := format = .raw
  verbosity := 0

section Settings

variable (input : String) (output? : Option String) (gen : Generation) {format : Format}

theorem Options.load_plain {program : Program} {content : List UInt8}
    (holds : format.Holds program content) :
    ∃ loaded, (plain input output? gen format).load content = .ok loaded ∧
      loaded.program = program := by
  cases holds with
  | wordArray =>
      have text := (Utf8.decode_eq_ok_iff _ _).mpr (Eq.refl (Utf8.encode program.toArray))
      exact ⟨_, by simp [load, plain, text], program.ofText_toArray⟩
  | byteArray listed bytes separators =>
      have text := (Utf8.decode_eq_ok_iff _ _).mpr (Eq.refl (Utf8.encode (Program.byteText listed)))
      have apart : ∀ entry ∈ listed, '0' ∉ entry.2.toList := by
        intro entry member zero
        exact absurd (separators entry member '0' zero) (by decide)
      exact ⟨_, by simp [load, plain, text], program.ofText_byteText bytes apart⟩
  | raw =>
      have short : ([] : List UInt8).length ≤ 15 := by decide
      have read := program.ofBytes_toBytes_append short
      rw [List.append_nil] at read
      exact ⟨_, by simp [load, plain], read⟩

def Options.choices (format : Format) : List Choice :=
  .generation gen :: format.choices ++ output?.toList.map .output ++ [.input input]

theorem Options.finish_choices :
    ((choices input output? gen format).foldl Choice.fill .start).finish =
      .ok (plain input output? gen format) := by
  cases format <;> cases output? <;> rfl

theorem Options.nodup_choices :
    ((choices input output? gen format).map Choice.option?).Nodup := by
  cases format <;> cases output? <;> simp [choices, Format.choices, Choice.option?]

end Settings

/-- A name that cannot be taken for an option. -/
def FileName (path : String) : Prop :=
  path ≠ "" ∧ Path.startsWith '-' path = false

namespace FileName

variable {path : String}

theorem isValue (name : FileName path) : Draft.isValue path = true := by
  unfold Draft.isValue
  split
  · next dashed =>
    have starts : Path.startsWith '-' path = true := by simp [Path.startsWith, dashed]
    exact absurd starts (by simp [name.2])
  · rfl

theorem not_stream (name : FileName path) : Path.isStream path = false := by
  simp [Path.isStream, name.2]

end FileName

theorem isStream_dash : Path.isStream "-" = true := by
  decide

variable {F : Type} [FileSystem F]

inductive Readable (world : World F) (streams : Streams) : String → List UInt8 → Prop where
  | stream (works : streams.inputFault? = none) : Readable world streams "-" world.input
  | file {path : String} {content : List UInt8} (name : FileName path)
      (found : world.readFile path streams = .ok content) : Readable world streams path content

inductive Writable (text : String) (world : World F) (streams : Streams) :
    Option String → Prop where
  | omitted (works : streams.outputFault? = none) : Writable text world streams none
  | stream (works : streams.outputFault? = none) : Writable text world streams (some "-")
  | file {path : String} {target : Target (FileSystem.File F)} (name : FileName path)
      (leads : FileSystem.target world.files path (Utf8.encode text) = .ok target)
      (works : target = .output → streams.outputFault? = none) :
      Writable text world streams (some path)

section Ends

variable {world : World F} {streams : Streams}

theorem Readable.fetch_eq {path : String} {content : List UInt8}
    (readable : Readable world streams path content) :
    world.fetch streams path = .ok content := by
  cases readable with
  | stream works =>
      rw [World.fetch, isStream_dash, World.readInput, works]
      rfl
  | file name found =>
      rw [World.fetch, name.not_stream, found]
      rfl

theorem Readable.proper {path : String} {content : List UInt8}
    (readable : Readable world streams path content) : (Choice.input path).Proper := by
  cases readable with
  | stream works => exact ⟨by decide, by decide⟩
  | file name found => exact ⟨name.1, name.isValue⟩

variable {text : String} {output? : Option String}

theorem Writable.proper (writable : Writable text world streams output?) :
    ∀ path ∈ output?, (Choice.output path).Proper := by
  intro path chosen
  cases writable with
  | omitted works => cases chosen
  | stream works =>
      obtain rfl := Option.some.inj chosen
      exact ⟨by decide, by decide⟩
  | file name leads works =>
      obtain rfl := Option.some.inj chosen
      exact ⟨name.1, name.isValue⟩

theorem Writable.not_refused (writable : Writable text world streams output?) :
    ¬Refused output? text world streams := by
  rintro (⟨destination, broken⟩ | ⟨rfl, named, refused⟩)
  · cases writable with
    | omitted works | stream works => exact broken works
    | file name leads works =>
        -- A name without a dash can still be that of the device of standard output.
        cases destination with
        | stream dash => exact absurd dash (by simp [name.not_stream])
        | named _ leads' => exact broken (works (Except.ok.inj (leads.symm.trans leads')))
  · cases writable with
    | stream works => exact absurd isStream_dash (by simp [named])
    | file name leads works => exact absurd (leads.symm.trans refused) nofun

end Ends

theorem Options.proper_choices {input : String} {output? : Option String}
    (inputProper : (Choice.input input).Proper)
    (outputProper : ∀ path ∈ output?, (Choice.output path).Proper) (gen : Generation)
    (format : Format) : ∀ choice ∈ choices input output? gen format, choice.Proper := by
  intro choice member
  simp only [choices, List.cons_append, List.mem_cons, List.mem_append, List.mem_map,
    Option.mem_toList, List.not_mem_nil, or_false] at member
  rcases member with rfl | (asked | ⟨path, chosen, rfl⟩) | rfl
  · trivial
  · cases format with
    | wordArray => cases asked
    | byteArray | raw => obtain rfl := List.mem_singleton.mp asked; trivial
  · exact outputProper path chosen
  · exact inputProper

/-- A program is listed alike from all formats, wherever it is read from and the listing goes,
and in whatever order this is asked for. -/
theorem World.run_renders {program : Program} (some_instruction : 0 < program.size)
    (gen : Generation) {format : Format} {content : List UInt8}
    (holds : format.Holds program content) {world : World F} {streams : Streams} {input : String}
    (readable : Readable world streams input content) {output? : Option String}
    (writable : Writable (program.listing gen).text world streams output?)
    {ordered : List Choice} (order : (Options.choices input output? gen format).Perm ordered) :
    let outcome := world.run (ordered.flatMap Choice.arguments) streams
    outcome.exitCode = 0 ∧ outcome.complaint = "" ∧
      Delivered output? (program.listing gen).text world outcome := by
  have parsed := Options.ofArguments_choices (Options.nodup_choices input output? gen)
    (Options.proper_choices readable.proper writable.proper gen format) order
  rw [Options.finish_choices] at parsed
  obtain ⟨loaded, loads, rfl⟩ := Options.load_plain input output? gen holds
  have read : world.fetch streams (Options.plain input output? gen format).input = .ok content :=
    readable.fetch_eq
  have found := World.program_of_loaded read loads some_instruction
  rw [World.run_of_options world streams parsed, found]
  dsimp only [Options.plain]
  cases delivered : (System.start world streams).delivered output?
      (loaded.program.listing gen).text with
  | error fault => exact absurd (refused_iff.mpr ⟨fault, delivered⟩) writable.not_refused
  | ok after => exact ⟨rfl, rfl, delivered_of_ok delivered .done⟩

/-- A raw move, read from a file and listed into another one beside it, with the generation
given last. -/
theorem World.run_renders_move :
    let program : Program := ⟨[0x28a0008400600001#128]⟩
    let nodes : List (List String × Node) :=
      [(["tmp"], .directory), (["prog.bin", "tmp"], .file program.toBytes)]
    let world : World Tree := ⟨[], ⟨nodes, []⟩⟩
    let outcome := world.run ["-o", "/tmp/out.txt", "/tmp/prog.bin", "-r", "-g", "8"] {}
    outcome.exitCode = 0 ∧ outcome.complaint = "" ∧
      Delivered (some "/tmp/out.txt") (program.listing .gen8).text world outcome := by
  intro program nodes world
  have some_instruction : 0 < program.size := Nat.one_pos
  have readable : Readable world {} "/tmp/prog.bin" program.toBytes :=
    .file ⟨by decide, by decide⟩ rfl
  have leads : FileSystem.target world.files "/tmp/out.txt"
      (Utf8.encode (program.listing .gen8).text) = .ok (.file ["out.txt", "tmp"]) := rfl
  have writable : Writable (program.listing .gen8).text world {} (some "/tmp/out.txt") :=
    .file ⟨by decide, by decide⟩ leads nofun
  have order : (Options.choices "/tmp/prog.bin" (some "/tmp/out.txt") .gen8 .raw).Perm
      [.output "/tmp/out.txt", .input "/tmp/prog.bin", .raw, .generation .gen8] := by
    decide
  exact World.run_renders some_instruction .gen8 .raw readable writable order

end ExecUnit.CommandLine
