import ExecUnit.CommandLine.System

/-!
Where the text of a run goes. A delivery works as a whole or not at all: either the text is
in one place and all others are as before (`delivered_of_ok`), or that place refuses it
(`refused_iff`).
-/

namespace ExecUnit.CommandLine

variable {F : Type} [FileSystem F]

/-- Where a text is to go: to standard output, unless another place is named. -/
inductive Destination (files : F) (text : String) :
    Option String → Target (FileSystem.File F) → Prop where
  | omitted : Destination files text none .output
  | stream {path : String} (dash : Path.isStream path = true) :
      Destination files text (some path) .output
  | named {path : String} {target : Target (FileSystem.File F)}
      (name : Path.isStream path = false)
      (leads : FileSystem.target files path (Utf8.encode text) = .ok target) :
      Destination files text (some path) target

/-- A text is in one place, and all others are as they were. -/
inductive Arrived (text : String) (world : World F) (outcome : Outcome F) :
    Target (FileSystem.File F) → Prop where
  | printed (output : outcome.output = text) (files : outcome.files = world.files) :
      Arrived text world outcome .output
  | stored {file : FileSystem.File F} (output : outcome.output = "")
      (held : FileSystem.content? outcome.files file = some (Utf8.encode text))
      (kept : ∀ other, other ≠ file →
        FileSystem.content? outcome.files other = FileSystem.content? world.files other) :
      Arrived text world outcome (.file file)
  | dropped (output : outcome.output = "") (files : outcome.files = world.files) :
      Arrived text world outcome .void

def Delivered (output? : Option String) (text : String) (world : World F)
    (outcome : Outcome F) : Prop :=
  ∃ target, Destination world.files text output? target ∧ Arrived text world outcome target

/-- The place where a text should go does not take it. -/
inductive Refused (output? : Option String) (text : String) (world : World F)
    (streams : Streams) : Prop where
  | printed (destination : Destination world.files text output? .output)
      (broken : streams.outputFault? ≠ none)
  | named {path : String} {fault : FileFault} (chosen : output? = some path)
      (name : Path.isStream path = false)
      (refused : FileSystem.target world.files path (Utf8.encode text) = .error fault)

namespace System

variable (system : System F)

def delivered (output? : Option String) (text : String) : Except RunFault (System F) :=
  match output?.filter (!Path.isStream ·) with
  | none => (system.print text).mapError .noOutput
  | some path => (system.writeFile path text).mapError (.unwritable path)

-- Reports do not bear on a delivery.
theorem delivered_log (log : List LogEntry) (output? : Option String) (text : String) :
    { system with log := log }.delivered output? text =
      (system.delivered output? text).map fun after => { after with log := log } := by
  obtain ⟨world, ⟨inputFault?, outputFault?⟩, output, log'⟩ := system
  unfold delivered writeFile put print
  split
  · cases outputFault? <;> rfl
  · dsimp only
    cases FileSystem.target world.files _ _ with
    | error fault => rfl
    | ok target => cases target <;> cases outputFault? <;> rfl

variable (text : String)

theorem delivered_some (path : String) : system.delivered (some path) text =
    if Path.isStream path then (system.print text).mapError .noOutput
    else (system.writeFile path text).mapError (.unwritable path) := by
  rw [delivered, Option.filter_some]
  cases Path.isStream path <;> rfl

variable {text}

theorem delivered_of_destination {output? : Option String} {target : Target (FileSystem.File F)}
    (destination : Destination system.world.files text output? target) :
    ∃ refusal, system.delivered output? text = (system.put target text).mapError refusal := by
  cases destination with
  | omitted => exact ⟨.noOutput, rfl⟩
  | stream dash => exact ⟨.noOutput, by rw [delivered_some, if_pos dash]; rfl⟩
  | @named path _ name leads =>
      refine ⟨.unwritable path, ?_⟩
      rw [delivered_some, name, if_neg Bool.false_ne_true, writeFile, leads]

theorem delivered_eq_ok_iff {output? : Option String} {target : Target (FileSystem.File F)}
    (destination : Destination system.world.files text output? target) {after : System F} :
    system.delivered output? text = .ok after ↔ system.put target text = .ok after := by
  obtain ⟨refusal, delivered⟩ := system.delivered_of_destination destination
  rw [delivered]
  cases system.put target text with
  | ok written =>
      constructor
      · exact fun done => congrArg Except.ok (Except.ok.inj done)
      · exact fun done => congrArg Except.ok (Except.ok.inj done)
  | error fault => exact iff_of_false nofun nofun

theorem delivered_eq_error_iff {output? : Option String} {target : Target (FileSystem.File F)}
    (destination : Destination system.world.files text output? target) :
    (∃ fault, system.delivered output? text = .error fault) ↔
      ∃ fault, system.put target text = .error fault := by
  obtain ⟨refusal, delivered⟩ := system.delivered_of_destination destination
  rw [delivered]
  cases system.put target text with
  | ok written => exact iff_of_false (fun failed => nomatch failed) (fun failed => nomatch failed)
  | error fault => exact iff_of_true ⟨refusal fault, rfl⟩ ⟨fault, rfl⟩

theorem delivered_of_refused {path : String} {fault : FileFault}
    (name : Path.isStream path = false)
    (refused : FileSystem.target system.world.files path (Utf8.encode text) = .error fault) :
    system.delivered (some path) text = .error (.unwritable path fault) := by
  rw [delivered_some, name, if_neg Bool.false_ne_true, writeFile, refused]
  rfl

end System

section Start

variable {output? : Option String} {text : String} {world : World F} {streams : Streams}

theorem destination_or_refused (files : F) (output? : Option String) (text : String) :
    (∃ target, Destination files text output? target) ∨
      ∃ path fault, output? = some path ∧ Path.isStream path = false ∧
        FileSystem.target files path (Utf8.encode text) = .error fault := by
  cases output? with
  | none => exact Or.inl ⟨.output, .omitted⟩
  | some path =>
      cases name : Path.isStream path with
      | true => exact Or.inl ⟨.output, .stream name⟩
      | false =>
          cases leads : FileSystem.target files path (Utf8.encode text) with
          | ok target => exact Or.inl ⟨target, .named name leads⟩
          | error fault => exact Or.inr ⟨path, fault, rfl, name, leads⟩

-- A place that a path leads to takes any text, if it is not a broken stream.
theorem put_eq_error_iff (world : World F) (text : String) {target : Target (FileSystem.File F)} :
    (∃ fault, (System.start world streams).put target text = .error fault) ↔
      target = .output ∧ streams.outputFault? ≠ none := by
  cases target with
  | file | void => simp [System.put]
  | output =>
      cases broken : streams.outputFault? <;> simp [System.put, System.print, System.start, broken]

theorem arrived_of_put {target : Target (FileSystem.File F)} {after : System F}
    (done : (System.start world streams).put target text = .ok after) (ending : Ending) :
    Arrived text world ⟨ending, after.output, after.world.files⟩ target := by
  cases target with
  | output =>
      rw [System.put, System.print] at done
      split at done
      · obtain rfl := Except.ok.inj done
        exact .printed String.empty_append rfl
      · cases done
  | void =>
      obtain rfl := Except.ok.inj done
      exact .dropped rfl rfl
  | file file =>
      obtain rfl := Except.ok.inj done
      exact .stored rfl (FileSystem.content?_store_self world.files _ _) fun other different =>
        FileSystem.content?_store_of_ne world.files different _

theorem delivered_of_ok {after : System F}
    (done : (System.start world streams).delivered output? text = .ok after) (ending : Ending) :
    Delivered output? text world ⟨ending, after.output, after.world.files⟩ := by
  rcases destination_or_refused world.files output? text with
    ⟨target, destination⟩ | ⟨path, fault, rfl, name, refused⟩
  · have put := ((System.start world streams).delivered_eq_ok_iff destination).mp done
    exact ⟨target, destination, arrived_of_put put ending⟩
  · rw [(System.start world streams).delivered_of_refused name refused] at done
    cases done

theorem refused_iff : Refused output? text world streams ↔
    ∃ fault, (System.start world streams).delivered output? text = .error fault := by
  constructor
  · rintro (⟨destination, broken⟩ | ⟨rfl, name, refused⟩)
    · exact ((System.start world streams).delivered_eq_error_iff destination).mpr
        ((put_eq_error_iff world text).mpr ⟨rfl, broken⟩)
    · exact ⟨_, (System.start world streams).delivered_of_refused name refused⟩
  · intro failed
    rcases destination_or_refused world.files output? text with
      ⟨target, destination⟩ | ⟨path, fault, rfl, name, refused⟩
    · have put := ((System.start world streams).delivered_eq_error_iff destination).mp failed
      obtain ⟨rfl, broken⟩ := (put_eq_error_iff world text).mp put
      exact .printed destination broken
    · exact .named rfl name refused

end Start

end ExecUnit.CommandLine
