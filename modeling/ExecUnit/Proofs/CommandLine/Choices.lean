import ExecUnit.CommandLine.Arguments
import Mathlib.Data.List.Nodup

/-!
Arguments are read alike in every order (`ofArguments_choices`). An argument with its
value fills one field of the settings, so arguments of different fields can change places.
-/

namespace ExecUnit.CommandLine

/-- Something that is chosen on the command line, once at most. -/
inductive Choice where
  | input (path : String)
  | output (path : String)
  | generation (gen : Generation)
  | binary
  | raw
  deriving DecidableEq, Repr

namespace Choice

def arguments : Choice → List String
  | .input path => [path]
  | .output path => ["-o", path]
  | .generation gen => ["-g", toString gen.number]
  | .binary => ["-b"]
  | .raw => ["-r"]

def option? : Choice → Option OptionName
  | .input _ => none
  | .output _ => some (.setting .output)
  | .generation _ => some (.setting .gen)
  | .binary => some (.flag .binary)
  | .raw => some (.flag .raw)

def fill (draft : Draft) : Choice → Draft
  | .input path => { draft with input? := some path }
  | .output path => { draft with output? := some path }
  | .generation gen => { draft with gen? := some gen }
  | .binary => { draft with binary := true }
  | .raw => { draft with raw := true }

def Free (draft : Draft) : Choice → Prop
  | .input _ => draft.input? = none
  | .output _ => draft.output? = none
  | .generation _ => draft.gen? = none
  | .binary => draft.binary = false
  | .raw => draft.raw = false

def Proper : Choice → Prop
  | .input path | .output path => path ≠ "" ∧ Draft.isValue path = true
  | .generation _ | .binary | .raw => True

theorem free_start (choice : Choice) : choice.Free .start := by
  cases choice <;> rfl

section Order

variable {first second : Choice} (draft : Draft)

theorem free_fill (apart : first.option? ≠ second.option?) (free : second.Free draft) :
    second.Free (first.fill draft) := by
  cases first <;> cases second <;> first | exact free | exact absurd apart (by simp [option?])

theorem fill_comm (apart : first.option? ≠ second.option?) :
    second.fill (first.fill draft) = first.fill (second.fill draft) := by
  cases first <;> cases second <;> first | rfl | exact absurd apart (by simp [option?])

end Order

end Choice

namespace Draft

variable {draft after : Draft}

theorem addArguments_short {text : String} {char : Char} (spelled : text.toList = ['-', char])
    (other : char ≠ '-') (rest : List String) :
    draft.addArguments none (text :: rest) =
      draft.addCluster [char] >>= fun read => addArguments read.2 rest read.1 := by
  rw [addArguments]
  simp [spelled, other]

theorem addArguments_flag {text : String} {char : Char} {flag : Flag}
    (spelled : text.toList = ['-', char]) (other : char ≠ '-')
    (known : OptionName.ofShort? char = some (.flag flag)) (added : draft.addFlag flag = .ok after)
    (rest : List String) :
    draft.addArguments none (text :: rest) = addArguments none rest after := by
  rw [addArguments_short spelled other]
  simp only [addCluster, known, added]
  rfl

theorem addArguments_setting {text value : String} {char : Char} {setting : Setting}
    (spelled : text.toList = ['-', char]) (other : char ≠ '-')
    (known : OptionName.ofShort? char = some (.setting setting))
    (stands : isValue value = true) (added : draft.addValue setting value = .ok after)
    (rest : List String) :
    draft.addArguments none (text :: value :: rest) = addArguments none rest after := by
  rw [addArguments_short spelled other]
  simp only [addCluster, known]
  change draft.addArguments (some setting) (value :: rest) = _
  rw [addArguments, if_pos stands, added]
  rfl

theorem addArguments_input {path : String} (stands : isValue path = true)
    (added : draft.addInput path = .ok after) (rest : List String) :
    draft.addArguments none (path :: rest) = addArguments none rest after := by
  unfold isValue at stands
  rw [addArguments]
  split at stands
  · cases stands
  · next no_option =>
    split
    · next dashes => exact absurd dashes (no_option _ _)
    · next dashes => exact absurd dashes (no_option _ _)
    · next dash => exact absurd dash (no_option _ _)
    · rw [added]
      rfl

theorem generation?_number (gen : Generation) : generation? (toString gen.number) = some gen := by
  cases gen <;> decide

theorem isValue_number (gen : Generation) : isValue (toString gen.number) = true := by
  cases gen <;> decide

theorem addArguments_choice {choice : Choice} (proper : choice.Proper) (free : choice.Free draft)
    (rest : List String) :
    draft.addArguments none (choice.arguments ++ rest) =
      addArguments none rest (choice.fill draft) := by
  cases choice with
  | input path =>
      have free : draft.input? = none := free
      refine addArguments_input proper.2 ?_ rest
      simp [addInput, free, proper.1, Choice.fill]
  | output path =>
      have free : draft.output? = none := free
      refine addArguments_setting String.toList_ofList (by decide) rfl proper.2 ?_ rest
      simp [addValue, free, proper.1, Choice.fill]
  | generation gen =>
      have free : draft.gen? = none := free
      refine addArguments_setting String.toList_ofList (by decide) rfl (isValue_number gen) ?_ rest
      rw [addValue, generation?_number]
      simp [free, Choice.fill]
  | binary =>
      have free : draft.binary = false := free
      refine addArguments_flag String.toList_ofList (by decide) rfl ?_ rest
      simp [addFlag, free, Choice.fill]
  | raw =>
      have free : draft.raw = false := free
      refine addArguments_flag String.toList_ofList (by decide) rfl ?_ rest
      simp [addFlag, free, Choice.fill]

theorem addArguments_choices {choices : List Choice}
    (apart : (choices.map Choice.option?).Nodup) (proper : ∀ choice ∈ choices, choice.Proper)
    (free : ∀ choice ∈ choices, choice.Free draft) :
    draft.addArguments none (choices.flatMap Choice.arguments) =
      .ok (choices.foldl Choice.fill draft) := by
  induction choices generalizing draft with
  | nil => rfl
  | cons choice rest ih =>
      rw [List.forall_mem_cons] at proper free
      rw [List.map_cons, List.nodup_cons] at apart
      rw [List.flatMap_cons, addArguments_choice proper.1 free.1]
      refine ih apart.2 proper.2 fun later member => Choice.free_fill draft ?_ (free.2 later member)
      exact fun same => apart.1 (same ▸ List.mem_map_of_mem member)

end Draft

theorem Choice.foldl_fill_perm {choices ordered : List Choice}
    (apart : (choices.map option?).Nodup) (order : choices.Perm ordered) (draft : Draft) :
    choices.foldl fill draft = ordered.foldl fill draft := by
  refine order.foldl_eq' (fun first inFirst second inSecond draft => ?_) draft
  by_cases same : first.option? = second.option?
  · -- Nothing is chosen twice, so these are one choice.
    rw [List.inj_on_of_nodup_map apart inFirst inSecond same]
  · exact fill_comm draft same

/-- Arguments can be given in any order. -/
theorem Options.ofArguments_choices {choices ordered : List Choice}
    (apart : (choices.map Choice.option?).Nodup) (proper : ∀ choice ∈ choices, choice.Proper)
    (order : choices.Perm ordered) :
    ofArguments (ordered.flatMap Choice.arguments) =
      (choices.foldl Choice.fill .start).finish := by
  have read := Draft.addArguments_choices ((order.map Choice.option?).nodup_iff.mp apart)
    (fun choice member => proper choice (order.mem_iff.mpr member))
    (fun choice _ => choice.free_start)
  rw [ofArguments, read, Choice.foldl_fill_perm apart order]
  rfl

end ExecUnit.CommandLine
