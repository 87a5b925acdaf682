import Mathlib.Data.List.Pairwise
import PackageAtlas.Analyzer.Basic
import PackageAtlas.Proofs.ModuleNames

/-!
# The order of the search

A module is looked for in the directory of the importing file, then below its import root, then on
the search paths. What is found below the import root counts only as far as nothing is found before.
-/
namespace PackageAtlas

/-- What is left out of a list without being found makes no difference to what is found first. -/
theorem findSome?_filter_of_none {α β : Type} {look : α → Option β} {keep : α → Bool}
    {elements : List α} (nothing : ∀ a ∈ elements, keep a = false → look a = none) :
    (elements.filter keep).findSome? look = elements.findSome? look := by
  induction elements with
  | nil => rfl
  | cons first rest ih =>
    have inner := ih fun a member => nothing a (List.mem_cons_of_mem first member)
    cases kept : keep first with
    | true => rw [List.filter_cons_of_pos kept, List.findSome?_cons, List.findSome?_cons, inner]
    | false =>
      rw [List.filter_cons_of_neg (by simp [kept]), List.findSome?_cons,
        nothing first List.mem_cons_self kept, inner]

theorem Path.distinct_apart (paths : List Path) :
    (distinct paths).Pairwise fun a b => ¬ a.Same b := by
  induction paths with
  | nil => exact List.Pairwise.nil
  | cons path rest ih =>
    refine List.pairwise_cons.mpr ⟨fun other member => ?_, ih.filter _⟩
    have kept := (List.mem_filter.mp member).2
    simpa using kept

/-- Looking into a directory once is enough. -/
theorem Path.findSome?_distinct {β : Type} {look : Path → Option β}
    (respects : ∀ a b : Path, a.Same b → look a = look b) (paths : List Path) :
    (distinct paths).findSome? look = paths.findSome? look := by
  induction paths with
  | nil => rfl
  | cons path rest ih =>
    rw [distinct, List.findSome?_cons, List.findSome?_cons]
    cases here : look path with
    | some => rfl
    | none =>
      rw [findSome?_filter_of_none, ih]
      intro other _ left_out
      have same : path.Same other := by simpa using left_out
      rw [← respects path other same, here]

theorem Location.eq_of_same {a b : Location} (plain_a : a.Plain) (plain_b : b.Plain)
    (same : a.path.Same b.path) : a = b := by
  rw [Path.Same, components_path plain_a, components_path plain_b, List.cons.injEq] at same
  exact List.map_injective_iff.mpr (fun _ _ => Component.named.inj) same.2

namespace Analyzer

variable (analyzer : Analyzer) (tree : FileTree) (context : Path)

/-- Names that are not looked for at all. -/
def skips (name : String) : Bool :=
  StandardLibrary.has analyzer.pythonVersion name || Text.startsWith "." name

/-- What is found before the search comes to the import root. -/
def foundBefore? (name : String) : Option Path :=
  ((analyzer.searchDirectories tree context).takeWhile
    fun directory => !decide (directory.Same (tree.importRoot context))).findSome?
      (tree.moduleIn? · (FileTree.nameParts name))

/-- What is found when the import root is left out of the search. -/
def foundElsewhere? (name : String) : Option Path :=
  if analyzer.skips name then none
  else
    ((analyzer.searchDirectories tree context).filter
      fun directory => !decide (directory.Same (tree.importRoot context))).findSome?
        (tree.moduleIn? · (FileTree.nameParts name))

variable {analyzer tree context}

/-- The import root of a location is among the directories of the search. -/
theorem importRoot_mem_searchDirectories {location : Location} (plain : location.Plain) :
    tree.importRoot location.path ∈ analyzer.searchDirectories tree location.path := by
  obtain ⟨root, root_plain, root_eq⟩ : ∃ root : Location, root.Plain ∧
      tree.importRoot location.path = root.path := FileTree.exists_importRoot plain
  rw [root_eq, searchDirectories, root_eq, Path.distinct, Path.distinct]
  -- The import root may be the directory itself, and is not searched twice then.
  by_cases same : location.path.Same root.path
  · rw [Location.eq_of_same plain root_plain same]
    exact List.mem_cons_self
  · apply List.mem_cons_of_mem
    exact List.mem_filter.mpr ⟨List.mem_cons_self, by simpa using same⟩

private theorem eq_of_same {directories : List Path}
    (apart : directories.Pairwise fun a b => ¬ a.Same b) {a b : Path} (first : a ∈ directories)
    (second : b ∈ directories) (same : a.Same b) : a = b := by
  have symmetric : Std.Symm fun a b : Path => ¬ a.Same b :=
    ⟨fun _ _ not_same back => not_same back.symm⟩
  by_contra different
  exact apart.forall first second different same

private theorem findSome?_of_some {directories : List Path}
    (apart : directories.Pairwise fun a b => ¬ a.Same b) {root : Path} (member : root ∈ directories)
    {look : Path → Option Path} {file : Path} (found : look root = some file) :
    directories.findSome? look = some
      (((directories.takeWhile fun directory => !decide (directory.Same root)).findSome?
        look).getD file) := by
  induction directories with
  | nil => cases member
  | cons first rest ih =>
    by_cases same : first.Same root
    · rw [eq_of_same apart List.mem_cons_self member same]
      have root_same : root.Same root := rfl
      simp [found, root_same]
    · have later : root ∈ rest := (List.mem_cons.mp member).resolve_left
        fun here => same (here ▸ rfl)
      rw [List.takeWhile_cons_of_pos (by simp [same]), List.findSome?_cons, List.findSome?_cons,
        ih apart.of_cons later]
      cases look first <;> rfl

/-- Where the import root has a file for a name, only a file found before takes its place. -/
theorem search_of_some {location : Location} (plain : location.Plain) {name : String} {file : Path}
    (found : tree.moduleIn? (tree.importRoot location.path) (FileTree.nameParts name) = some file) :
    analyzer.search tree name location.path =
      if analyzer.skips name then none
      else some (tree.canonicalOrSelf
        ((analyzer.foundBefore? tree location.path name).getD file)) := by
  let look (directory : Path) := tree.moduleIn? directory (FileTree.nameParts name)
  have looked : look (tree.importRoot location.path) = some file := found
  have member : tree.importRoot location.path ∈ analyzer.searchDirectories tree location.path :=
    importRoot_mem_searchDirectories plain
  have hit := findSome?_of_some (Path.distinct_apart _) member looked
  rw [search]
  change (if analyzer.skips name then none else
    ((analyzer.searchDirectories tree location.path).findSome? look).map tree.canonicalOrSelf) = _
  rw [searchDirectories, hit]
  rfl

/-- Where the import root has no file for a name, what counts is found elsewhere. -/
theorem search_of_none {location : Location} (plain : location.Plain) {name : String}
    (missing : tree.moduleIn? (tree.importRoot location.path) (FileTree.nameParts name) = none) :
    analyzer.search tree name location.path =
      (analyzer.foundElsewhere? tree location.path name).map tree.canonicalOrSelf := by
  let look (directory : Path) := tree.moduleIn? directory (FileTree.nameParts name)
  have only : ∀ directory ∈ analyzer.searchDirectories tree location.path,
      (!decide (directory.Same (tree.importRoot location.path))) = false →
        look directory = none := by
    intro directory member left_out
    have same : directory.Same (tree.importRoot location.path) := by simpa using left_out
    rw [eq_of_same (Path.distinct_apart _) member (importRoot_mem_searchDirectories plain) same]
    exact missing
  rw [search]
  change (if analyzer.skips name then none else
    ((analyzer.searchDirectories tree location.path).findSome? look).map tree.canonicalOrSelf) = _
  rw [← findSome?_filter_of_none only, foundElsewhere?]
  split <;> rfl

end Analyzer

end PackageAtlas
