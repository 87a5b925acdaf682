import PackageAtlas.Config.Project
import PackageAtlas.Proofs.Path.Relative
import PackageAtlas.Proofs.Project.Relocation

/-!
# Configurations pointed at another checkout

What a configuration names inside of its directory is looked for at the same place in the other
one. The new path is put together from segments and loses the slash that the old one ended in. With
the slash only a directory is found, so a file can be found where none was before.
-/
namespace PackageAtlas

namespace Config

variable {tree : FileTree} {first second : Location} {entry : Path}

/-- An entry of a configuration is moved to the same place in the other directory, and is spelled
there without a slash at its end. -/
theorem exists_moved (plain : first.Plain) (inward : entry.Inward) (target : Path) :
    ∃ rest, moved first.path target (first.path.join entry) = target.join rest ∧ rest.Inward ∧
      rest.steps = entry.steps ∧ (rest.AsksDirectory ↔ entry.steps = []) := by
  have base_spells := Path.spells_path plain
  obtain ⟨rest, relative, not_absolute, steps_eq, asks⟩ :=
    base_spells.exists_relativeTo? (base_spells.join inward.relative)
  refine ⟨rest, ?_, ⟨not_absolute, ?_⟩, steps_eq, asks⟩
  · rw [moved, relative]
  · rw [steps_eq]
    exact inward.not_up

/-- A search directory spells the place that it names, whether there is something or not. -/
theorem spells_canonicalOrSelf (sound : tree.Sound) {around : Location} {node : FileTree.Node}
    (found : tree.node? around = some node) (linkless : node.Linkless) (inward : entry.Inward) :
    (tree.canonicalOrSelf (around.path.join entry)).Spells (around ++ entry.steps) := by
  have plain := Location.plain_append.mpr ⟨sound.plain found, Path.plain_steps inward.not_up⟩
  cases located : tree.locate? (around.path.join entry) with
  | none =>
    rw [FileTree.canonicalOrSelf, FileTree.canonical?, located, Option.map_none, Option.getD_none]
    exact (Path.spells_path (sound.plain found)).join inward.relative
  | some place =>
    have here : place.location = around ++ entry.steps := by
      rw [sound.locate?_join found linkless inward] at located
      obtain ⟨_, -, rfl⟩ := Option.map_eq_some_iff.mp located
      rfl
    rw [FileTree.canonicalOrSelf_of_locate? located, here]
    exact Path.spells_path plain

/-- Analyzers for the search paths of a configuration look into the same places of both
directories. -/
theorem relocated_analyzers (copies : tree.Copies first second) (sound : tree.Sound)
    {entries : List Path} (inward : ∀ entry ∈ entries, entry.Inward) (pythonVersion : Nat) :
    let paths := entries.map first.path.join
    Analyzer.Relocated first second (Analyzer.new tree paths pythonVersion)
      (Analyzer.new tree (paths.map (moved first.path second.path)) pythonVersion) := by
  intro paths
  obtain ⟨node, found, linkless⟩ := copies.exists_linkless
  obtain ⟨other, found_too, linkless_too, -⟩ := copies.exists_second
  refine ⟨rfl, _, _, rfl, rfl, ?_⟩
  simp only [paths, List.forall₂_map_left_iff, List.forall₂_map_right_iff]
  refine List.forall₂_same.mpr fun entry member => ?_
  have entry_inward := inward entry member
  obtain ⟨rest, moved_eq, rest_inward, steps_eq, -⟩ :=
    exists_moved (copies.plain_first sound) entry_inward second.path
  refine ⟨entry.steps, Path.plain_steps entry_inward.not_up,
    spells_canonicalOrSelf sound found linkless entry_inward, ?_⟩
  rw [moved_eq, ← steps_eq]
  exact spells_canonicalOrSelf sound found_too linkless_too rest_inward

/-- Whether the root folder of a configuration is a file, but spelled so that only a directory can
be found. -/
def RootSpelledAsDirectory (tree : FileTree) (config : Config) (directory : Location) : Prop :=
  config.rootFolder.AsksDirectory ∧
    tree.isFile (Location.path (directory ++ config.rootFolder.steps)) = true

/-- In the other directory the slash at the end is lost, and so a root folder is found there
whatever it is. -/
theorem locate?_moved (copies : tree.Copies first second) (sound : tree.Sound)
    (inward : entry.Inward) :
    tree.locate? (moved first.path second.path (first.path.join entry)) =
      (tree.node? (second ++ entry.steps)).map (⟨second ++ entry.steps, ·⟩) := by
  obtain ⟨node, found, linkless, directory⟩ := copies.exists_second
  obtain ⟨rest, moved_eq, rest_inward, steps_eq, asks⟩ :=
    exists_moved (copies.plain_first sound) inward second.path
  have top : tree.isFile (Location.path (second ++ [])) = false := by
    rw [FileTree.isFile, copies.locate?_second sound Location.plain_nil, List.append_nil, found]
    cases node with
    | directory entries => rfl
    | file text => cases directory
    | link target => cases directory
  rw [moved_eq, sound.locate?_entry found linkless rest_inward, steps_eq, if_neg]
  rintro ⟨asks_directory, file⟩
  rw [asks.mp asks_directory, top] at file
  cases file

/-- Builds in a copy succeed where those in the other one do, and give the same but for paths. -/
theorem map_placeless_build (copies : tree.Copies first second) (sound : tree.Sound)
    {origin other : Analyzer} (analyzers : Analyzer.Relocated first second origin other)
    {inner : Location}
    (faithful : origin.Faithful tree origin) (faithful_too : other.Faithful tree other)
    {root moved_root : Path}
    (at_root : tree.locate? root = (tree.node? (first ++ inner)).map (⟨first ++ inner, ·⟩))
    (at_moved : tree.locate? moved_root =
      (tree.node? (second ++ inner)).map (⟨second ++ inner, ·⟩)) :
    (Project.build tree root origin).1.map Project.placeless =
      (Project.build tree moved_root other).1.map Project.placeless := by
  have same_shape := copies.shapes inner
  cases found : tree.node? (first ++ inner) <;> cases found_too : tree.node? (second ++ inner) <;>
    rw [found, found_too] at same_shape
  case none.some => cases same_shape
  case some.none => cases same_shape
  case none.none =>
    rw [found] at at_root
    rw [found_too] at at_moved
    rw [Project.build_of_missing at_root, Project.build_of_missing at_moved]
  case some.some node node_too =>
    rw [found] at at_root
    rw [found_too] at at_moved
    rw [(Project.build_of_faithful sound faithful at_root).1,
      (Project.build_of_faithful sound faithful_too at_moved).1]
    exact congrArg some (Project.relocated_uncached copies sound analyzers found).placeless_eq

/-- The project that is built for a configuration, before its policies and its scope. -/
def model? (config : Config) (tree : FileTree) : Option Project :=
  (Project.build tree config.rootFolder
    (Analyzer.new tree config.pythonPath config.pythonVersion)).1

theorem load_eq (plain : first.Plain) {text : String}
    (stored : tree.text? (first.path.child "archlens.toml") = some text) {written : Config}
    (parsed : parse? text = some written) :
    load tree (first.path.child "archlens.toml") = .ok (written.anchored first.path) := by
  have name_plain : PlainName "archlens.toml" := ⟨by decide, by decide, by decide⟩
  have file_plain := Location.plain_concat.mpr ⟨plain, name_plain⟩
  rw [load, stored, Location.child_path plain name_plain]
  dsimp only
  rw [parsed, Location.parent?_path file_plain]
  rfl

/-- A project is built alike from a configuration and from the same one pointed at a copy of its
directory, exactly if the root folder is no file that is spelled as a directory. -/
theorem model?_rebased_iff (sound : tree.Sound) (copies : tree.Copies first second) {text : String}
    (stored : tree.text? (first.path.child "archlens.toml") = some text) {written : Config}
    (parsed : parse? text = some written) (root_inward : written.rootFolder.Inward)
    (paths_inward : ∀ entry ∈ written.pythonPath, entry.Inward) :
    ∃ config, load tree (first.path.child "archlens.toml") = .ok config ∧
      ((config.model? tree).map Project.placeless =
          ((config.rebased first.path second.path).model? tree).map Project.placeless ↔
        ¬ written.RootSpelledAsDirectory tree first) := by
  have loaded := load_eq (copies.plain_first sound) stored parsed
  refine ⟨_, loaded, ?_⟩
  obtain ⟨node, found, linkless⟩ := copies.exists_linkless
  have at_root := sound.locate?_entry found linkless root_inward
  have at_moved := locate?_moved copies sound root_inward
  have plain := Path.plain_steps root_inward.not_up
  by_cases spelled : written.RootSpelledAsDirectory tree first
  · -- Nothing is built here, but there is a file at the same place of the other directory.
    rw [if_pos ⟨spelled.1, spelled.2⟩] at at_root
    obtain ⟨last, there⟩ : ∃ last, tree.node? (second ++ written.rootFolder.steps) = some last := by
      have is_file := spelled.2
      rw [copies.isFile_eq sound plain, FileTree.isFile,
        copies.locate?_second sound plain] at is_file
      obtain ⟨place, found, -⟩ := (Option.any_eq_true _ _).mp is_file
      obtain ⟨last, there, -⟩ := Option.map_eq_some_iff.mp found
      exact ⟨last, there⟩
    rw [there, Option.map_some] at at_moved
    have nothing : (written.anchored first.path).model? tree = none :=
      congrArg Prod.fst (Project.build_of_missing at_root)
    obtain ⟨project, something⟩ : ∃ project,
        ((written.anchored first.path).rebased first.path second.path).model? tree =
          some project :=
      ⟨_, (Project.build_of_faithful sound (Analyzer.faithful_new _ _ _) at_moved).1⟩
    rw [nothing, something]
    exact iff_of_false (by simp) (not_not_intro spelled)
  · have not_spelled : ¬ (written.rootFolder.AsksDirectory ∧
      tree.isFile (Location.path (first ++ written.rootFolder.steps)) = true) := spelled
    rw [if_neg not_spelled] at at_root
    refine iff_of_true ?_ spelled
    exact map_placeless_build copies sound
      (relocated_analyzers copies sound paths_inward written.pythonVersion)
      (Analyzer.faithful_new _ _ _) (Analyzer.faithful_new _ _ _) at_root at_moved

/-- Two directories that hold the same: a configuration, a package, and a module. -/
def checkouts (text : String) : FileTree :=
  let checkout := FileTree.Node.directory [
    ("archlens.toml", .file (some text)),
    ("shop", .directory [
      ("__init__.py", .file (some "")),
      ("cart.py", .file (some "import prices\n"))]),
    ("vendor", .directory [("prices.py", .file (some ""))]),
    ("run.py", .file (some "import shop.cart\n"))]
  ⟨.directory [("a", checkout), ("b", checkout)], []⟩

theorem checkouts_sound (text : String) : (checkouts text).Sound :=
  FileTree.sound_of_plainNames rfl rfl

theorem checkouts_copies (text : String) : (checkouts text).Copies ["a"] ["b"] := by
  have linkless : ∃ node, (checkouts text).node? ["a"] = some node ∧
      (checkouts text).node? ["b"] = some node ∧ node.isDirectory = true ∧ node.Linkless :=
    ⟨_, rfl, rfl, rfl, by simp [FileTree.linkless_directory, FileTree.linkless_file]⟩
  obtain ⟨node, at_first, at_second, directory, linkless⟩ := linkless
  exact FileTree.copies_of_node at_first at_second directory linkless rfl

/-- A project with a directory of its own for modules is built alike in both checkouts. -/
theorem checkouts_rebased :
    let tree := checkouts "python-path = ['vendor']\n"
    ∃ config, load tree ⟨"/a/archlens.toml"⟩ = .ok config ∧
      (config.model? tree).map Project.placeless =
        ((config.rebased ⟨"/a"⟩ ⟨"/b"⟩).model? tree).map Project.placeless := by
  intro tree
  have stored : tree.text? ((Location.path ["a"]).child "archlens.toml") =
      some "python-path = ['vendor']\n" := by
    decide +kernel
  have read : (parse? "python-path = ['vendor']\n").map
      (fun config => (config.rootFolder, config.pythonPath)) = some (⟨"."⟩, [⟨"vendor"⟩]) := by
    decide +kernel
  obtain ⟨written, parsed, entries⟩ := Option.map_eq_some_iff.mp read
  obtain ⟨root_eq, paths_eq⟩ := Prod.mk.inj entries
  have root_inward : written.rootFolder.Inward := by
    rw [root_eq]
    exact ⟨by decide, by decide⟩
  have paths_inward : ∀ entry ∈ written.pythonPath, entry.Inward := by
    rw [paths_eq]
    exact List.forall_mem_singleton.mpr ⟨by decide, by decide⟩
  have no_file : ¬ written.RootSpelledAsDirectory tree ["a"] := by
    rintro ⟨-, file⟩
    rw [root_eq] at file
    exact absurd file (by decide +kernel)
  obtain ⟨config, loaded, alike⟩ := model?_rebased_iff (checkouts_sound _) (checkouts_copies _)
    stored parsed root_inward paths_inward
  exact ⟨config, loaded, alike.mpr no_file⟩

/-- With a slash after the name of a module nothing is built, but it is in the other checkout. -/
theorem checkouts_slash_lost :
    let tree := checkouts "root-folder = 'run.py/'\n"
    ∃ config, load tree ⟨"/a/archlens.toml"⟩ = .ok config ∧ config.rootFolder = ⟨"/a/run.py/"⟩ ∧
      config.pythonPath = [] ∧ config.model? tree = none ∧
        ∃ project, (config.rebased ⟨"/a"⟩ ⟨"/b"⟩).model? tree = some project := by
  intro tree
  have stored : tree.text? ((Location.path ["a"]).child "archlens.toml") =
      some "root-folder = 'run.py/'\n" := by
    decide +kernel
  have read : (parse? "root-folder = 'run.py/'\n").map
      (fun config => (config.rootFolder, config.pythonPath)) = some (⟨"run.py/"⟩, []) := by
    decide +kernel
  obtain ⟨written, parsed, entries⟩ := Option.map_eq_some_iff.mp read
  obtain ⟨root_eq, paths_eq⟩ := Prod.mk.inj entries
  have plain := (checkouts_copies "root-folder = 'run.py/'\n").plain_first (checkouts_sound _)
  have loaded : load tree ⟨"/a/archlens.toml"⟩ = .ok (written.anchored ⟨"/a"⟩) :=
    load_eq plain stored parsed
  have root : (written.anchored ⟨"/a"⟩).rootFolder = ⟨"/a/run.py/"⟩ :=
    (congrArg (Path.join ⟨"/a"⟩) root_eq).trans (by decide +kernel)
  have moved_root : ((written.anchored ⟨"/a"⟩).rebased ⟨"/a"⟩ ⟨"/b"⟩).rootFolder =
      ⟨"/b/run.py"⟩ :=
    (congrArg (moved ⟨"/a"⟩ ⟨"/b"⟩) root).trans (by decide +kernel)
  have missing : tree.locate? (written.anchored ⟨"/a"⟩).rootFolder = none := by
    rw [root]
    decide +kernel
  have there : ∃ place,
      tree.locate? ((written.anchored ⟨"/a"⟩).rebased ⟨"/a"⟩ ⟨"/b"⟩).rootFolder = some place := by
    rw [moved_root]
    exact Option.isSome_iff_exists.mp (by decide +kernel)
  obtain ⟨place, found⟩ := there
  refine ⟨_, loaded, root, ?_, congrArg Prod.fst (Project.build_of_missing missing), _,
    (Project.build_of_faithful (checkouts_sound _) (Analyzer.faithful_new _ _ _) found).1⟩
  rw [anchored, paths_eq]
  rfl

end Config

end PackageAtlas
