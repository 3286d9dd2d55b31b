import ExecUnit.CommandLine.Run
import ExecUnit.Proofs.CommandLine.Transaction

/-!
Runs on trees. A tree keeps what is written to it, so the listing of a run can be read under the
path that the run was given (`World.readFile_of_run`), and a directory is as it was before a run
that failed (`directory_of_failure`). Storing a file moves no directory, so a path leads where it
did.
-/

namespace ExecUnit.CommandLine

namespace Tree

variable {tree : Tree} {place : List String}

theorem look_eq_ok_iff {parent : List String} {name : String} {node : Node} :
    tree.look parent name = .ok node ↔
      ¬Path.maxNameBytes < name.utf8ByteSize ∧ tree.node? (name :: parent) = some node := by
  unfold look
  split
  · next long => simp [long]
  · next short => cases tree.node? (name :: parent) <;> simp [short]

theorem look_store_directory (free : tree.node? place ≠ some .directory) (bytes : List UInt8)
    {parent : List String} {name : String} :
    (tree.store place bytes).look parent name = .ok .directory ↔
      tree.look parent name = .ok .directory := by
  rw [look_eq_ok_iff, look_eq_ok_iff]
  by_cases same : name :: parent = place
  · rw [same, node?_store_self]
    simp [free]
  · rw [node?_store_of_ne tree same]

-- A name that is not that of a directory ends a path, one way or another.
theorem follow_of_no_directory (slash : Bool) (rest : List String) {start : List String}
    {name : String} (here : name ≠ ".") (up : name ≠ "..")
    (inner : tree.look start name ≠ .ok .directory) :
    ∃ fault, tree.follow slash start (name :: rest) =
      if rest = [] then .ok (.entry start name slash) else .error fault := by
  rw [follow, if_neg here, if_neg up]
  split
  · next directory => exact absurd directory inner
  · exact ⟨.notADirectory, rfl⟩
  · next fault _ => exact ⟨fault, rfl⟩

theorem follow_store (free : tree.node? place ≠ some .directory) (bytes : List UInt8)
    {slash slash' : Bool} {parts start parent : List String} {name : String}
    (ends : tree.follow slash start parts = .ok (.entry parent name slash')) :
    (tree.store place bytes).follow slash start parts = .ok (.entry parent name slash') := by
  induction parts generalizing start with
  | nil => cases ends
  | cons part rest ih =>
      by_cases here : part = "."
      · rw [follow, if_pos here] at ends ⊢
        exact ih ends
      by_cases up : part = ".."
      · rw [follow, if_neg here, if_pos up] at ends ⊢
        exact ih ends
      -- The stored file is no directory, before or after, so it can only end the path.
      by_cases inner : tree.look start part = .ok .directory
      · have inner' := (look_store_directory free bytes).mpr inner
        rw [follow, if_neg here, if_neg up, inner] at ends
        rw [follow, if_neg here, if_neg up, inner']
        exact ih ends
      · obtain ⟨fault, left⟩ := follow_of_no_directory slash rest here up inner
        obtain ⟨fault', right⟩ := follow_of_no_directory slash rest here up
          (mt (look_store_directory free bytes).mp inner)
        rw [left] at ends
        split at ends
        · next last => rw [right, if_pos last, ends]
        · cases ends

theorem targetAt_eq_file {goal : Goal} (leads : tree.targetAt goal = .ok (.file place)) :
    ∃ parent name, goal = .entry parent name false ∧ name :: parent = place ∧
      ¬Path.maxNameBytes < name.utf8ByteSize ∧ tree.node? place ≠ some .directory := by
  cases goal with
  | directory => cases leads
  | entry parent name slash =>
      rw [targetAt] at leads
      split at leads
      · cases leads
      · next plain =>
        obtain rfl := Bool.eq_false_iff.mpr plain
        split at leads
        · cases leads
        · next short =>
          cases node : tree.node? (name :: parent) with
          | none =>
              rw [node] at leads
              obtain rfl := Target.file.inj (Except.ok.inj leads)
              exact ⟨parent, name, rfl, rfl, short, by simp [node]⟩
          | some found =>
              rw [node] at leads
              cases found with
              | directory => cases leads
              | device device => cases device <;> cases leads
              | file bytes =>
                  obtain rfl := Target.file.inj (Except.ok.inj leads)
                  exact ⟨parent, name, rfl, rfl, short, by simp [node]⟩

-- A path that leads a writer to a file ends at a name in a directory.
theorem goal_of_target {path : String} (leads : tree.target path = .ok (.file place)) :
    ∃ parent name, tree.goal path = .ok (.entry parent name false) ∧ name :: parent = place ∧
      ¬Path.maxNameBytes < name.utf8ByteSize ∧ tree.node? place ≠ some .directory := by
  unfold target at leads
  cases ends : tree.goal path with
  | error fault => rw [ends] at leads; cases leads
  | ok goal =>
      rw [ends] at leads
      obtain ⟨parent, name, rfl, known⟩ := targetAt_eq_file leads
      exact ⟨parent, name, rfl, known⟩

theorem goal_store (bytes : List UInt8) {path : String} {parent : List String} {name : String}
    {slash : Bool} (free : tree.node? place ≠ some .directory)
    (ends : tree.goal path = .ok (.entry parent name slash)) :
    (tree.store place bytes).goal path = .ok (.entry parent name slash) := by
  unfold goal at ends ⊢
  split at ends
  · cases ends
  · split at ends
    · cases ends
    · next some short =>
      rw [if_neg some, if_neg short]
      exact follow_store free bytes ends

theorem source_store (bytes : List UInt8) {path : String}
    (leads : tree.target path = .ok (.file place)) :
    (tree.store place bytes).source path = .ok (.file place) := by
  obtain ⟨parent, name, ends, rfl, short, free⟩ := goal_of_target leads
  have found : (tree.store (name :: parent) bytes).look parent name = .ok (.file bytes) :=
    look_eq_ok_iff.mpr ⟨short, node?_store_self tree _ bytes⟩
  have file : (tree.store (name :: parent) bytes).sourceAt (.entry parent name false) =
      .ok (.file (name :: parent)) := by
    rw [sourceAt, found]
    rfl
  rw [source, goal_store bytes free ends]
  exact file

theorem readFile_store {path : String} (leads : tree.target path = .ok (.file place))
    (bytes input : List UInt8) (streams : Streams) :
    World.readFile path streams ⟨input, tree.store place bytes⟩ = .ok bytes := by
  have source : FileSystem.source (tree.store place bytes) path = .ok (.file place) :=
    source_store bytes leads
  have content : FileSystem.content? (tree.store place bytes) place = some bytes :=
    FileSystem.content?_store_self tree place bytes
  simp only [World.readFile, source, content]

end Tree

/-- The listing of a run can be read under the path of its output. -/
theorem World.readFile_of_run {arguments : List String} {options : Options} {program : Program}
    {world : World Tree} {streams : Streams} {path : String} {place : List String}
    (parsed : Options.ofArguments arguments = .ok options)
    (found : world.program streams options = .ok program) (chosen : options.output? = some path)
    (name : Path.isStream path = false) (leads : world.files.target path = .ok (.file place))
    (input : List UInt8) (streams' : Streams) :
    World.readFile path streams' ⟨input, (world.run arguments streams).files⟩ =
      .ok (Utf8.encode (program.listing options.gen).text) := by
  let listing := Utf8.encode (program.listing options.gen).text
  have target : FileSystem.target world.files path listing = .ok (.file place) := leads
  have stored : (world.run arguments streams).files = world.files.store place listing := by
    rw [World.run_of_options world streams parsed, found, chosen]
    dsimp only
    rw [System.delivered_some, name, if_neg Bool.false_ne_true, System.writeFile, System.start,
      target]
    rfl
  rw [stored]
  exact Tree.readFile_store leads listing input streams'

namespace Directory

variable (directory : Directory)

theorem node?_tree (name : String) :
    directory.tree.node? (name :: place) = (directory.find? name).map .file := by
  obtain ⟨files⟩ := directory
  change (files.map (fun file => (file.1 :: place, Node.file file.2)) ++ surroundings).lookup
    (name :: place) = (files.lookup name).map .file
  induction files with
  | nil => exact List.lookup_eq_none_iff.mpr (by simp [surroundings, place])
  | cons file rest ih =>
      rw [List.map_cons, List.cons_append, List.lookup_cons, List.lookup_cons, ih]
      by_cases same : name = file.1
      · simp [same]
      · simp [beq_eq_false_iff_ne.mpr same]

theorem directory_tree : directory.tree.directory = directory := by
  obtain ⟨files⟩ := directory
  have around : surroundings.filterMap (Tree.fileIn? place) = [] := by decide
  have inside : Tree.fileIn? place ∘ (fun file => (file.1 :: place, .file file.2)) = some := by
    funext file
    simp [Tree.fileIn?]
  rw [Tree.directory, tree, List.filterMap_append, around, List.append_nil, List.filterMap_map,
    inside, List.filterMap_some]

end Directory

theorem directory_of_failure {arguments : List String} {world : World Directory}
    {streams : Streams} (failed : (run arguments world streams).exitCode = 1) :
    (run arguments world streams).directory = world.files := by
  rcases World.effect_of_run arguments ⟨world.input, world.files.tree⟩ streams with
    ⟨effectless, -⟩ | ⟨code, -⟩
  · exact (congrArg Tree.directory effectless.files).trans world.files.directory_tree
  · exact absurd (code.symm.trans failed) (by decide)

end ExecUnit.CommandLine
