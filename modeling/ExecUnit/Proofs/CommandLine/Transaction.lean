import ExecUnit.Proofs.CommandLine.Runs
import ExecUnit.Proofs.Listing.Accounting
import ExecUnit.Proofs.Text.Utf8

/-!
A run is a transaction (`run_transaction`): one that fails leaves neither output nor files
behind, and one that lists a program delivers the whole listing to one place. Malformed
fields are part of the listing and no reason to fail.
-/

namespace ExecUnit.CommandLine

variable {F : Type} [FileSystem F]

/-- What ends a run with a failure. -/
inductive Fails (arguments : List String) (world : World F) (streams : Streams) : Prop where
  | arguments {fault : ArgumentFault}
      (bad : Options.ofArguments arguments = .error (.fault fault))
  | input {options : Options} {fault : RunFault}
      (parsed : Options.ofArguments arguments = .ok options)
      (unreadable : world.fetch streams options.input = .error fault)
  | encoding {options : Options} {bytes : List UInt8}
      (parsed : Options.ofArguments arguments = .ok options)
      (read : world.fetch streams options.input = .ok bytes)
      (text : options.raw = false) (illFormed : ∀ text, Utf8.encode text ≠ bytes)
  | program {options : Options} {bytes : List UInt8} {loaded : Loaded}
      (parsed : Options.ofArguments arguments = .ok options)
      (read : world.fetch streams options.input = .ok bytes)
      (loads : options.load bytes = .ok loaded) (empty : loaded.program.size = 0)
  | output {options : Options} {bytes : List UInt8} {loaded : Loaded}
      (parsed : Options.ofArguments arguments = .ok options)
      (read : world.fetch streams options.input = .ok bytes)
      (loads : options.load bytes = .ok loaded) (whole : 0 < loaded.program.size)
      (refused : Refused options.output? (loaded.program.listing options.gen).text world streams)

/-- What a run without a failure has done. -/
inductive Succeeds (arguments : List String) (world : World F) (streams : Streams)
    (outcome : Outcome F) : Prop where
  | informed (asked : Options.ofArguments arguments = .error .version ∨
        Options.ofArguments arguments = .error .help)
      (files : outcome.files = world.files)
  | listed {options : Options} {bytes : List UInt8} {loaded : Loaded}
      (parsed : Options.ofArguments arguments = .ok options)
      (read : world.fetch streams options.input = .ok bytes)
      (loads : options.load bytes = .ok loaded) (whole : 0 < loaded.program.size)
      (nonempty : (loaded.program.listing options.gen).text ≠ "")
      (delivered :
        Delivered options.output? (loaded.program.listing options.gen).text world outcome)

/-- A failure that nothing shows but its status and what it complains of. -/
structure Effectless (world : World F) (outcome : Outcome F) : Prop where
  exitCode : outcome.exitCode = 1
  output : outcome.output = ""
  files : outcome.files = world.files

theorem Options.load_eq_error_iff (options : Options) (bytes : List UInt8) :
    (∃ fault, options.load bytes = .error fault) ↔
      options.raw = false ∧ ∀ text, Utf8.encode text ≠ bytes := by
  cases raw : options.raw with
  | true => simp [load, raw]
  | false =>
      simp only [load, raw, true_and]
      cases decoded : Utf8.decode bytes with
      | error fault =>
          have never : ∀ text, Utf8.encode text ≠ bytes := by
            intro text encoded
            rw [(Utf8.decode_eq_ok_iff bytes text).mpr encoded] at decoded
            cases decoded
          exact iff_of_true ⟨_, rfl⟩ never
      | ok text =>
          refine iff_of_false ?_ fun never => never text ((Utf8.decode_eq_ok_iff _ _).mp decoded)
          rintro ⟨fault, failed⟩
          cases failed

section Runs

variable {arguments : List String} {options : Options} {world : World F} {streams : Streams}

theorem fails_of_program (parsed : Options.ofArguments arguments = .ok options) {fault : RunFault}
    (nothing : world.program streams options = .error fault) : Fails arguments world streams := by
  unfold World.program at nothing
  split at nothing
  · next unreadable => exact .input parsed unreadable
  · next bytes read =>
    split at nothing
    · next unloaded =>
      obtain ⟨text, illFormed⟩ := (options.load_eq_error_iff bytes).mp ⟨_, unloaded⟩
      exact .encoding parsed read text illFormed
    · next loaded loads =>
      split at nothing
      · next empty => exact .program parsed read loads (loaded.program.isEmpty_iff.mp empty)
      · cases nothing

-- A run with good arguments fails if there is nothing to list or nowhere to deliver it.
theorem exitCode_of_options (parsed : Options.ofArguments arguments = .ok options)
    (fails : ∀ program, world.program streams options = .ok program →
      Refused options.output? (program.listing options.gen).text world streams) :
    (world.run arguments streams).exitCode = 1 := by
  rw [World.run_of_options _ _ parsed]
  cases found : world.program streams options with
  | error fault => rfl
  | ok program =>
      obtain ⟨fault, refused⟩ := refused_iff.mp (fails program found)
      dsimp only
      rw [refused]
      rfl

theorem exitCode_of_fails (fails : Fails arguments world streams) :
    (world.run arguments streams).exitCode = 1 := by
  cases fails with
  | arguments bad =>
      rw [World.run_of_fault _ _ bad]
      rfl
  | input parsed unreadable =>
      apply exitCode_of_options parsed
      intro program found
      simp [World.program, unreadable] at found
  | encoding parsed read text illFormed =>
      obtain ⟨fault, unloaded⟩ := (Options.load_eq_error_iff _ _).mpr ⟨text, illFormed⟩
      apply exitCode_of_options parsed
      intro program found
      simp [World.program, read, unloaded] at found
  | program parsed read loads empty =>
      apply exitCode_of_options parsed
      intro program found
      simp [World.program, read, loads, (Program.isEmpty_iff _).mpr empty] at found
  | output parsed read loads whole refused =>
      apply exitCode_of_options parsed
      intro program found
      obtain rfl := Except.ok.inj ((World.program_of_loaded read loads whole).symm.trans found)
      exact refused

theorem effect_of_options (parsed : Options.ofArguments arguments = .ok options) :
    let outcome := world.run arguments streams
    Effectless world outcome ∧ Fails arguments world streams ∨
      outcome.exitCode = 0 ∧ Succeeds arguments world streams outcome := by
  rw [World.run_of_options world streams parsed]
  cases found : world.program streams options with
  | error fault => exact Or.inl ⟨⟨rfl, rfl, rfl⟩, fails_of_program parsed found⟩
  | ok program =>
      obtain ⟨bytes, loaded, read, loads, whole, rfl⟩ := World.loaded_of_program found
      dsimp only
      cases delivered : (System.start world streams).delivered options.output?
          (loaded.program.listing options.gen).text with
      | error fault =>
          have refused := refused_iff.mpr ⟨fault, delivered⟩
          exact Or.inl ⟨⟨rfl, rfl, rfl⟩, .output parsed read loads whole refused⟩
      | ok after =>
          have nonempty := Program.text_listing_ne_empty options.gen whole
          have arrived := delivered_of_ok delivered .done
          exact Or.inr ⟨rfl, .listed parsed read loads whole nonempty arrived⟩

theorem World.effect_of_run (arguments : List String) (world : World F) (streams : Streams) :
    let outcome := world.run arguments streams
    Effectless world outcome ∧ Fails arguments world streams ∨
      outcome.exitCode = 0 ∧ Succeeds arguments world streams outcome := by
  intro outcome
  cases parsed : Options.ofArguments arguments with
  | ok options => exact effect_of_options parsed
  | error stop =>
      cases stop with
      | fault fault =>
          have failed : outcome = _ := World.run_of_fault world streams parsed
          exact Or.inl ⟨failed ▸ ⟨rfl, rfl, rfl⟩, .arguments parsed⟩
      | version =>
          obtain ⟨code, files⟩ := World.run_of_asked world streams (Or.inl parsed)
          exact Or.inr ⟨code, .informed (Or.inl parsed) files⟩
      | help =>
          obtain ⟨code, files⟩ := World.run_of_asked world streams (Or.inr parsed)
          exact Or.inr ⟨code, .informed (Or.inr parsed) files⟩

/-- A run either fails without any effect or does all that it is asked for. -/
theorem World.run_transaction (arguments : List String) (world : World F) (streams : Streams) :
    let outcome := world.run arguments streams
    (Effectless world outcome ∧ Fails arguments world streams) ∨
      (outcome.exitCode = 0 ∧ ¬Fails arguments world streams ∧
        Succeeds arguments world streams outcome) := by
  intro outcome
  -- Whatever makes a run fail shows in its status, so a successful run had no reason to fail.
  rcases World.effect_of_run arguments world streams with failed | ⟨code, done⟩
  · exact Or.inl failed
  · have not_fails : ¬Fails arguments world streams := fun fails =>
      absurd (code.symm.trans (exitCode_of_fails fails)) (by decide)
    exact Or.inr ⟨code, not_fails, done⟩

end Runs

end ExecUnit.CommandLine
