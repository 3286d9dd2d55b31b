import ExecUnit.Generation

/-!
The arguments of the disassembler. They are read from left to right: the first
fault, or the first request for help or the version, ends the reading. Whether
the settings fit together is judged once all of them are known.
-/

namespace ExecUnit.CommandLine

inductive Flag where
  | binary | raw | verbose | version | help
  deriving DecidableEq, Repr

inductive Setting where
  | output | gen
  deriving DecidableEq, Repr

inductive OptionName where
  | flag (flag : Flag)
  | setting (setting : Setting)
  deriving DecidableEq, Repr

inductive ArgumentFault where
  | unknownOption (text : String)
  | missingValue (text : String)
  | unneededValue (text : String)
  | invalidValue (text : String)
  | repeated (text : String)
  | extraInput (text : String)
  | missingInput
  | binaryAndRaw
  deriving DecidableEq, Repr

def ArgumentFault.message : ArgumentFault → String
  | .unknownOption text => s!"error: unexpected argument '{text}' found"
  | .missingValue text => s!"error: a value is required for '{text}' but none was supplied"
  | .unneededValue text => s!"error: unexpected value for '{text}' found; no more were expected"
  | .invalidValue text => s!"error: invalid value '{text}'"
  | .repeated text => s!"error: the argument '{text}' cannot be used multiple times"
  | .extraInput text => s!"error: unexpected argument '{text}' found"
  | .missingInput => "error: the following required arguments were not provided:\n  <INPUT>"
  | .binaryAndRaw => "error: the argument '--binary' cannot be used with '--raw'"

/-- What ends the reading of arguments early. -/
inductive Stop where
  | fault (fault : ArgumentFault)
  | version
  | help
  deriving DecidableEq, Repr

structure Draft where
  input? : Option String
  output? : Option String
  gen? : Option Generation
  binary : Bool
  raw : Bool
  verbosity : Nat
  deriving DecidableEq, Repr

structure Options where
  input : String
  output? : Option String
  gen : Generation
  binary : Bool
  raw : Bool
  verbosity : Nat
  deriving DecidableEq, Repr

namespace OptionName

def ofShort? : Char → Option OptionName
  | 'b' => some (.flag .binary)
  | 'r' => some (.flag .raw)
  | 'v' => some (.flag .verbose)
  | 'V' => some (.flag .version)
  | 'h' => some (.flag .help)
  | 'o' => some (.setting .output)
  | 'g' => some (.setting .gen)
  | _ => none

-- Long names are never abbreviated.
def ofLong? : String → Option OptionName
  | "binary" => some (.flag .binary)
  | "raw" => some (.flag .raw)
  | "verbose" => some (.flag .verbose)
  | "version" => some (.flag .version)
  | "help" => some (.flag .help)
  | "output" => some (.setting .output)
  | "gen" => some (.setting .gen)
  | _ => none

end OptionName

def Flag.name : Flag → String
  | .binary => "--binary"
  | .raw => "--raw"
  | .verbose => "--verbose"
  | .version => "--version"
  | .help => "--help"

def Setting.name : Setting → String
  | .output => "--output"
  | .gen => "--gen"

/-- A decimal number, with an optional plus sign. -/
def number? (text : String) : Option Nat :=
  let digits := match text.toList with
    | '+' :: rest => rest
    | all => all
  if digits ≠ [] ∧ digits.all Char.isDigit then
    some (digits.foldl (fun number digit => 10 * number + (digit.toNat - '0'.toNat)) 0)
  else none

def generation? (text : String) : Option Generation :=
  (number? text).bind Coded.ofCode?

namespace Draft

def start : Draft := ⟨none, none, none, false, false, 0⟩

def addFlag (flag : Flag) (draft : Draft) : Except Stop Draft :=
  match flag with
  | .binary =>
      if draft.binary then .error (.fault (.repeated flag.name))
      else .ok { draft with binary := true }
  | .raw =>
      if draft.raw then .error (.fault (.repeated flag.name))
      else .ok { draft with raw := true }
  | .verbose => .ok { draft with verbosity := draft.verbosity + 1 }
  | .version => .error .version
  | .help => .error .help

def addValue (setting : Setting) (value : String) (draft : Draft) : Except Stop Draft :=
  match setting with
  | .output =>
      if value = "" then .error (.fault (.missingValue setting.name))
      else if draft.output?.isSome then .error (.fault (.repeated setting.name))
      else .ok { draft with output? := some value }
  | .gen =>
      match generation? value with
      | none => .error (.fault (.invalidValue value))
      | some gen =>
          if draft.gen?.isSome then .error (.fault (.repeated setting.name))
          else .ok { draft with gen? := some gen }

def addInput (draft : Draft) (value : String) : Except Stop Draft :=
  if draft.input?.isSome then .error (.fault (.extraInput value))
  else if value = "" then .error (.fault .missingInput)
  else .ok { draft with input? := some value }

/-- The options of one argument that starts with a single dash. A setting ends
the cluster: what follows is its value, after an optional equals sign, and with
nothing following the value is still awaited. -/
def addCluster : List Char → Draft → Except Stop (Draft × Option Setting)
  | [], draft => .ok (draft, none)
  | char :: rest, draft =>
      match OptionName.ofShort? char with
      | none => .error (.fault (.unknownOption (.ofList ['-', char])))
      | some (.flag flag) => do
          let draft ← draft.addFlag flag
          addCluster rest draft
      | some (.setting setting) =>
          match rest with
          | [] => .ok (draft, some setting)
          | '=' :: value => (draft.addValue setting (.ofList value)).map (·, none)
          | value => (draft.addValue setting (.ofList value)).map (·, none)

/-- The option of one argument that starts with two dashes, given without
them. -/
def addLong (text : List Char) (draft : Draft) : Except Stop (Draft × Option Setting) :=
  let name : String := .ofList (text.takeWhile (· ≠ '='))
  let value? : Option String := match text.dropWhile (· ≠ '=') with
    | [] => none
    | _ :: value => some (.ofList value)
  match OptionName.ofLong? name, value? with
  | none, _ => .error (.fault (.unknownOption ("--" ++ name)))
  | some (.flag flag), none => (draft.addFlag flag).map (·, none)
  | some (.flag flag), some _ => .error (.fault (.unneededValue flag.name))
  | some (.setting setting), none => .ok (draft, some setting)
  | some (.setting setting), some value => (draft.addValue setting value).map (·, none)

def isValue (text : String) : Bool :=
  match text.toList with
  | '-' :: _ :: _ => false
  | _ => true

/-- `awaiting` is the setting whose value comes next. After `--` all arguments
are inputs. -/
def addArguments (awaiting : Option Setting) : List String → Draft → Except Stop Draft
  | [], draft =>
      match awaiting with
      | none => .ok draft
      | some setting => .error (.fault (.missingValue setting.name))
  | text :: rest, draft =>
      match awaiting with
      | some setting =>
          if isValue text then do
            let draft ← draft.addValue setting text
            addArguments none rest draft
          else .error (.fault (.missingValue setting.name))
      | none =>
          match text.toList with
          | ['-', '-'] => rest.foldlM addInput draft
          | '-' :: '-' :: name => do
              let (draft, awaiting) ← draft.addLong name
              addArguments awaiting rest draft
          | '-' :: char :: more => do
              let (draft, awaiting) ← draft.addCluster (char :: more)
              addArguments awaiting rest draft
          | _ => do
              let draft ← draft.addInput text
              addArguments none rest draft

-- Without a generation the oldest one is meant.
def finish (draft : Draft) : Except Stop Options :=
  if draft.binary && draft.raw then .error (.fault .binaryAndRaw)
  else match draft.input? with
    | none => .error (.fault .missingInput)
    | some input =>
        .ok {
          input
          output? := draft.output?
          gen := draft.gen?.getD .gen4
          binary := draft.binary
          raw := draft.raw
          verbosity := draft.verbosity }

end Draft

def Options.ofArguments (arguments : List String) : Except Stop Options := do
  let draft ← Draft.start.addArguments none arguments
  draft.finish

end ExecUnit.CommandLine
