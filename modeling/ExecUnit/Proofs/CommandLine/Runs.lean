import ExecUnit.Proofs.CommandLine.Delivery

/-!
What a run does to its system. Reading and reporting leave standard output and the files
alone, so a run is all of the delivery at its end or nothing (`run_of_options`).
-/

namespace ExecUnit

theorem Program.isEmpty_iff (program : Program) : program.isEmpty = true ↔ program.size = 0 := by
  rw [isEmpty, size, List.isEmpty_iff, List.length_eq_zero_iff]

namespace CommandLine

variable {F : Type}

namespace System

variable {system after : System F}

theorem run_bind_ok {α β : Type} {action : ExceptT RunFault (StateM (System F)) α} {value : α}
    (done : action.run.run system = (.ok value, after))
    (next : α → ExceptT RunFault (StateM (System F)) β) :
    (action >>= next).run.run system = (next value).run.run after := by
  rw [ExceptT.run_bind, StateT.run_bind, done]
  rfl

theorem run_bind_error {α β : Type} {action : ExceptT RunFault (StateM (System F)) α}
    {fault : RunFault} (failed : action.run.run system = (.error fault, after))
    (next : α → ExceptT RunFault (StateM (System F)) β) :
    (action >>= next).run.run system = (.error fault, after) := by
  rw [ExceptT.run_bind, StateT.run_bind, failed]
  rfl

theorem run_change (system : System F) (operation : System F → Except FileFault (System F))
    (fault : FileFault → RunFault) :
    (ExceptT.mk ((·.mapError fault) <$> change operation)).run.run system =
      match (operation system).mapError fault with
      | .ok after => (.ok (), after)
      | .error problem => (.error problem, system) := by
  have changed : ((·.mapError fault) <$> change operation).run system =
      ((change operation system).1.mapError fault, (change operation system).2) := rfl
  rw [ExceptT.run_mk, changed, change]
  cases operation system <;> rfl

end System

variable [FileSystem F]

namespace World

variable (streams : Streams) (world : World F)

def fetch (path : String) : Except RunFault (List UInt8) :=
  if Path.isStream path then (world.readInput streams).mapError .noInput
  else (world.readFile path streams).mapError (.unreadable path)

def program (options : Options) : Except RunFault Program :=
  match world.fetch streams options.input with
  | .error fault => .error fault
  | .ok bytes =>
      match options.load bytes with
      | .error fault => .error fault
      | .ok loaded =>
          if loaded.program.isEmpty then .error (.noInstructions options.input)
          else .ok loaded.program

variable {streams world} {options : Options}

theorem loaded_of_program {program : Program}
    (found : world.program streams options = .ok program) :
    ∃ bytes loaded, world.fetch streams options.input = .ok bytes ∧
      options.load bytes = .ok loaded ∧ 0 < loaded.program.size ∧ loaded.program = program := by
  unfold World.program at found
  split at found
  · cases found
  · next bytes read =>
    split at found
    · cases found
    · next loaded loads =>
      split at found
      · cases found
      · next some_line =>
        have whole : loaded.program.size ≠ 0 := mt loaded.program.isEmpty_iff.mpr some_line
        exact ⟨bytes, loaded, read, loads, Nat.pos_of_ne_zero whole, Except.ok.inj found⟩

theorem program_of_loaded {bytes : List UInt8} {loaded : Loaded}
    (read : world.fetch streams options.input = .ok bytes)
    (loads : options.load bytes = .ok loaded) (whole : 0 < loaded.program.size) :
    world.program streams options = .ok loaded.program := by
  have some_line : ¬loaded.program.isEmpty = true :=
    mt loaded.program.isEmpty_iff.mp (Nat.ne_of_gt whole)
  simp only [World.program, read, loads, if_neg some_line]

end World

namespace System

variable (system : System F)

theorem run_read (path : String) :
    (host.read path).run.run system = (system.world.fetch system.streams path, system) := by
  unfold Host.read World.fetch
  split <;> rfl

theorem run_reportAll (verbosity : Nat) (log : List LogEntry) :
    ∃ log', (host.reportAll verbosity log).run.run system =
      (.ok (), { system with log := log' }) := by
  unfold Host.reportAll
  generalize log.filter _ = shown
  induction shown generalizing system with
  | nil => exact ⟨system.log, rfl⟩
  | cons entry shown ih => exact ih { system with log := system.log ++ [entry] }

theorem run_deliver (output? : Option String) (text : String) :
    (host.deliver output? text).run.run system =
      match system.delivered output? text with
      | .ok after => (.ok (), after)
      | .error fault => (.error fault, system) := by
  unfold Host.deliver delivered
  cases output?.filter (!Path.isStream ·) with
  | none => exact run_change system (print text) .noOutput
  | some path => exact run_change system (writeFile path text) (.unwritable path)

-- A run until its delivery: all that is left behind are reports.
theorem run_disassemble (options : Options) :
    ∃ log, (host.disassemble options).run.run system =
      match system.world.program system.streams options with
      | .error fault => (.error fault, { system with log := log })
      | .ok program => (host.deliver options.output? (program.listing options.gen).text).run.run
          { system with log := log } := by
  have read := run_read system options.input
  unfold Host.disassemble World.program
  cases fetched : system.world.fetch system.streams options.input with
  | error fault => exact ⟨system.log, run_bind_error (fetched ▸ read) _⟩
  | ok bytes =>
      have loading : (ExceptT.mk (pure (options.load bytes)) :
          ExceptT RunFault (StateM (System F)) Loaded).run.run system =
            (options.load bytes, system) := rfl
      simp only [run_bind_ok (fetched ▸ read)]
      cases loads : options.load bytes with
      | error fault => exact ⟨system.log, run_bind_error (loads ▸ loading) _⟩
      | ok loaded =>
          obtain ⟨log, reported⟩ := run_reportAll system options.verbosity loaded.log
          rw [loads] at loading
          simp only [run_bind_ok loading, run_bind_ok reported]
          cases none : loaded.program.isEmpty with
          | true => exact ⟨log, rfl⟩
          | false =>
              obtain ⟨log', listed⟩ := run_reportAll { system with log := log } options.verbosity
                (options.programLog loaded.program)
              exact ⟨log', run_bind_ok listed _⟩

end System

section Runs

variable {arguments : List String} {options : Options} (world : World F) (streams : Streams)

theorem main_of_options (system : System F) (parsed : Options.ofArguments arguments = .ok options) :
    (System.host.main arguments).run system =
      match (System.host.disassemble options).run.run system with
      | (.ok _, after) => (.done, after)
      | (.error fault, after) => (.failed fault, after) := by
  unfold Host.main
  rw [parsed, StateT.run_bind]
  obtain ⟨answer, after⟩ := (System.host.disassemble options).run.run system
  cases answer <;> rfl

/-- A run is all of its delivery or nothing. -/
theorem World.run_of_options (parsed : Options.ofArguments arguments = .ok options) :
    world.run arguments streams =
      match world.program streams options with
      | .error fault => ⟨.failed fault, "", world.files⟩
      | .ok program =>
          match (System.start world streams).delivered options.output?
              (program.listing options.gen).text with
          | .error fault => ⟨.failed fault, "", world.files⟩
          | .ok after => ⟨.done, after.output, after.world.files⟩ := by
  obtain ⟨log, ran⟩ := System.run_disassemble (.start world streams) options
  have started : (System.start world streams).world.program (System.start world streams).streams
      options = world.program streams options := rfl
  rw [World.run, main_of_options _ parsed, ran, started]
  cases world.program streams options with
  | error fault => rfl
  | ok program =>
      -- The system that the text is delivered to differs from the first one in its log.
      have logged := System.delivered_log (.start world streams) log options.output?
        (program.listing options.gen).text
      dsimp only
      rw [System.run_deliver, logged]
      cases (System.start world streams).delivered options.output? (program.listing _).text <;> rfl

theorem World.run_of_fault {fault : ArgumentFault}
    (bad : Options.ofArguments arguments = .error (.fault fault)) :
    world.run arguments streams = ⟨.usage fault, "", world.files⟩ := by
  unfold World.run Host.main
  rw [bad]
  rfl

-- Texts that are asked for instead of a run can only be printed.
theorem World.run_of_asked (asked : Options.ofArguments arguments = .error .version ∨
      Options.ofArguments arguments = .error .help) :
    (world.run arguments streams).exitCode = 0 ∧
      (world.run arguments streams).files = world.files := by
  obtain ⟨inputFault?, outputFault?⟩ := streams
  unfold World.run Host.main
  rcases asked with version | help
  · rw [version]
    cases outputFault? <;> exact ⟨rfl, rfl⟩
  · rw [help]
    cases outputFault? <;> exact ⟨rfl, rfl⟩

end Runs

end CommandLine

end ExecUnit
