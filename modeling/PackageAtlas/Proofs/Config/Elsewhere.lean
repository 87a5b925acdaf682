import PackageAtlas.Config.Project
import PackageAtlas.Proofs.Path.Relative
import PackageAtlas.Proofs.Project.SingleNames

/-!
# Configurations loaded elsewhere

A configuration that is loaded in one directory and pointed at another one looks for its project and
its modules where the same text would have it look when loaded over there. This holds for any
spelling of relative entries, and for any two directories, of which only the first may be the empty
path.
-/
namespace PackageAtlas

namespace Path

/-- What a directory holds has this directory around it, spelled somehow. -/
theorem exists_parent?_child (directory : Path) {name : String} (single : SingleName name) :
    ∃ around, (directory.child name).parent? = some around ∧ around.Same directory := by
  obtain ⟨entry, one⟩ := single
  have inside := SingleName.components_child directory one
  rcases (directory.child name).parent?_cases with ⟨-, few⟩ | ⟨around, last, above, cut, -⟩
  · rw [inside, List.append_eq_nil_iff, List.append_eq_singleton_iff] at few
    simp at few
  · exact ⟨around, above, (List.append_inj' (cut.symm.trans inside) rfl).1⟩

theorem Same.join {a b : Path} (same : a.Same b) (entry : Path) :
    (a.join entry).Same (b.join entry) := by
  have entries := same.child entry.text
  rwa [Path.child, Path.child] at entries

end Path

namespace Config

variable {directory other base entry : Path}

/-- An entry of a configuration is moved to where it would be seen from the other directory. -/
theorem moved_join (same : base.Same directory) (somewhere : other.text ≠ "")
    (relative : entry.isAbsolute = false) :
    (moved directory other (base.join entry)).Same (other.join entry) := by
  obtain ⟨rest, seen, rest_relative, steps_eq⟩ := Path.exists_relativeTo?_join same relative
  rw [moved, seen]
  exact Path.same_join somewhere rest_relative relative steps_eq

/-- The paths of a loaded configuration are those of its text, seen from the directory of its
file. -/
theorem exists_load {tree : FileTree} {text : String}
    (stored : tree.text? (directory.child "archlens.toml") = some text) {written : Config}
    (parsed : parse? text = some written) :
    ∃ around : Path, around.Same directory ∧
      load tree (directory.child "archlens.toml") = .ok (written.anchored around) := by
  have single : SingleName "archlens.toml" := ⟨"archlens.toml", by decide +kernel⟩
  obtain ⟨around, above, same⟩ := directory.exists_parent?_child single
  refine ⟨around, same, ?_⟩
  rw [load, stored]
  dsimp only
  rw [parsed, above]
  rfl

/-- A configuration pointed at another directory is the one that is loaded there, but for what is
saved in the first directory and how paths are spelled. -/
theorem rebased_as_loaded {tree elsewhere : FileTree} (somewhere : other.text ≠ "") {text : String}
    (stored : tree.text? (directory.child "archlens.toml") = some text)
    (stored_too : elsewhere.text? (other.child "archlens.toml") = some text) {written : Config}
    (parsed : parse? text = some written) (root_relative : written.rootFolder.isAbsolute = false)
    (paths_relative : ∀ entry ∈ written.pythonPath, entry.isAbsolute = false) :
    ∃ here there,
      load tree (directory.child "archlens.toml") = .ok here ∧
      load elsewhere (other.child "archlens.toml") = .ok there ∧
      (here.rebased directory other).rootFolder.Same there.rootFolder ∧
      List.Forall₂ Path.Same (here.rebased directory other).pythonPath there.pythonPath ∧
      here.rebased directory other =
        { here with
          rootFolder := (here.rebased directory other).rootFolder
          pythonPath := (here.rebased directory other).pythonPath } := by
  obtain ⟨around, same, loaded⟩ := exists_load stored parsed
  obtain ⟨around_too, same_too, loaded_too⟩ := exists_load stored_too parsed
  -- The directories are known by the parents of the two files, which need not be spelled alike.
  have arrives {entry : Path} (relative : entry.isAbsolute = false) :
      (moved directory other (around.join entry)).Same (around_too.join entry) :=
    (moved_join same somewhere relative).trans (same_too.join entry).symm
  refine ⟨_, _, loaded, loaded_too, arrives root_relative, ?paths, rfl⟩
  case paths =>
    simp only [rebased, anchored, List.forall₂_map_left_iff, List.forall₂_map_right_iff]
    exact List.forall₂_same.mpr fun entry member => arrives (paths_relative entry member)

/-- A root folder and search directories below the directory of the configuration, at it and beside
it, none of them spelled as it would be from its components. -/
def scattered : Config :=
  { standard with
    rootFolder := ⟨"./src//shop/"⟩
    pythonPath := [⟨""⟩, ⟨"../vendor/."⟩] }

/-- Two checkouts with this configuration, where the program runs in one of them. -/
def scatteredCheckouts : FileTree :=
  let text := "root-folder = './src//shop/'\npython-path = ['', '../vendor/.']\n"
  let checkout := FileTree.Node.directory [("archlens.toml", .file (some text))]
  ⟨.directory [("main", checkout), ("pr", checkout)], ["pr"]⟩

/-- Read by its bare file name, the configuration is pointed at the directory beside it. The closing
slash is lost, and makes no other path. -/
theorem scattered_rebased :
    ∃ here there, load scatteredCheckouts ⟨"archlens.toml"⟩ = .ok here ∧
      load scatteredCheckouts ⟨"../main/archlens.toml"⟩ = .ok there ∧
      (here.rebased ⟨""⟩ ⟨"../main"⟩).rootFolder = ⟨"../main/./src//shop"⟩ ∧
      there.rootFolder = ⟨"../main/./src//shop/"⟩ ∧
      (here.rebased ⟨""⟩ ⟨"../main"⟩).rootFolder.Same there.rootFolder ∧
      List.Forall₂ Path.Same (here.rebased ⟨""⟩ ⟨"../main"⟩).pythonPath there.pythonPath := by
  obtain ⟨text, stored, stored_too, parsed⟩ : ∃ text,
      scatteredCheckouts.text? ((Path.mk "").child "archlens.toml") = some text ∧
        scatteredCheckouts.text? ((Path.mk "../main").child "archlens.toml") = some text ∧
        parse? text = some scattered :=
    ⟨"root-folder = './src//shop/'\npython-path = ['', '../vendor/.']\n", by decide +kernel,
      by decide +kernel, by decide +kernel⟩
  have relative : ∀ entry ∈ scattered.pythonPath, entry.isAbsolute = false := by decide +kernel
  obtain ⟨here, there, loaded, loaded_too, same_root, same_paths, -⟩ :=
    rebased_as_loaded (by decide) stored stored_too parsed (by decide +kernel) relative
  have here_eq : load scatteredCheckouts ⟨"archlens.toml"⟩ = .ok (scattered.anchored ⟨""⟩) := by
    decide +kernel
  have there_eq : load scatteredCheckouts ⟨"../main/archlens.toml"⟩ =
      .ok (scattered.anchored ⟨"../main"⟩) := by
    decide +kernel
  obtain rfl := Except.ok.inj (here_eq.symm.trans loaded)
  obtain rfl := Except.ok.inj (there_eq.symm.trans loaded_too)
  exact ⟨_, _, here_eq, there_eq, by decide +kernel, by decide +kernel, same_root, same_paths⟩

end Config

end PackageAtlas
