import PackageAtlas.Proofs.FileTree.Copies
import PackageAtlas.Proofs.Related

/-!
# The search in copies of a directory

Dotted names without slashes only lead downwards. So the search for a module that is imported in one
of two copies ends at the same place below the other one, when it is imported there.
-/
namespace PackageAtlas

/-- Whether neither the module of an import nor a name that it imports has a slash in it. -/
structure Import.Slashless (imported : Import) : Prop where
  module {module : String} : imported.module = some module → '/' ∉ module.toList
  names {name : String} {label : Option String} :
    (name, label) ∈ imported.names → '/' ∉ name.toList

/-! ### Names that are tried -/

namespace FileTree

variable {tree : FileTree}

theorem plain_of_mem_nameParts {name part : String} (slashless : '/' ∉ name.toList)
    (member : part ∈ nameParts name) : PlainName part := by
  obtain ⟨nonempty, dotless⟩ := of_mem_nameParts member
  have piece : part ∈ Text.split '.' name := List.mem_of_mem_filter member
  refine ⟨?_, ?_, fun slash => slashless (Text.mem_of_mem_split piece slash)⟩
  · have not_dot : part ≠ "." := by
      rintro rfl
      exact dotless (by decide)
    simp [Path.isVoid, nonempty, not_dot]
  · rintro rfl
    exact dotless (by decide)

theorem slashless_join {parts : List String} (clean : ∀ part ∈ parts, '/' ∉ part.toList) :
    '/' ∉ (Text.join '.' parts).toList := by
  intro slash
  rcases Text.mem_join slash with dot | ⟨part, member, inside⟩
  · exact absurd dot (by decide)
  · exact clean part member inside

theorem slashless_absoluteName? {location : Location} (plain : location.Plain) {level : Nat}
    {module : Option String} (clean : ∀ name, module = some name → '/' ∉ name.toList)
    {name : String} (absolute : tree.absoluteName? location.path level module = some name) :
    '/' ∉ name.toList := by
  obtain ⟨base, above, rfl⟩ := Option.map_eq_some_iff.mp absolute
  obtain ⟨upwards, packages⟩ := (packageAbove?_eq_some_iff plain (level - 1) base).mp above
  have around : ∀ directory ∈ location.path.lineage.take (level - 1),
      tree.isPackage directory = true := by
    intro directory member
    apply packages
    exact List.take_subset_take_left _ (Nat.le_succ (level - 1)) member
  obtain ⟨place, place_plain, rfl, -⟩ := exists_above plain upwards around
  apply slashless_join
  intro part member
  rcases List.mem_append.mp member with package | inner
  · exact (packageNames_plain place_plain part package).no_slash
  · cases module with
    | none => cases inner
    | some module => exact (plain_of_mem_nameParts (clean module rfl) inner).no_slash

end FileTree

/-- No name that is tried for such an import has a slash in it. -/
theorem Import.Slashless.candidates {imported : Import} (slashless : imported.Slashless)
    {tree : FileTree} {location : Location} (plain : location.Plain) {names : List String}
    (among : names ∈ imported.candidates tree location.path) {name : String}
    (member : name ∈ names) : '/' ∉ name.toList := by
  unfold Import.candidates at among
  dsimp only at among
  split at among
  next => cases among
  next base base_eq =>
    have base_clean : '/' ∉ base.toList := by
      split at base_eq
      next =>
        exact FileTree.slashless_absoluteName? plain (fun _ named => slashless.module named) base_eq
      next =>
        cases base_eq
        cases named : imported.module with
        | none => simp
        | some module => exact slashless.module named
    have itself_clean : ∀ name ∈ if base.isEmpty then [] else [base], '/' ∉ name.toList := by
      split <;> simp [base_clean]
    split at among
    next =>
      split at among
      next => cases among
      next =>
        rw [List.mem_singleton.mp among, List.mem_singleton] at member
        rwa [member]
    next =>
      obtain ⟨⟨part, label⟩, named, rfl⟩ := List.mem_map.mp (List.mem_of_mem_filter among)
      dsimp only at member
      split at member
      next => exact itself_clean name member
      next =>
        rcases List.mem_cons.mp member with rfl | itself
        · have part_clean := slashless.names named
          split <;> simp [String.toList_append, base_clean, part_clean]
        · exact itself_clean name itself

/-! ### Directories of the search -/

namespace FileTree

/-- Whether two paths are spellings of one location below each of two directories. -/
def SpellInside (first second : Location) (a b : Path) : Prop :=
  ∃ inner : Location, inner.Plain ∧ a.Spells (first ++ inner) ∧ b.Spells (second ++ inner)

variable {tree : FileTree} {first second inner : Location}

theorem Copies.canonicalOrSelf_eq (copies : Copies tree first second) (sound : tree.Sound)
    (plain : inner.Plain) :
    tree.canonicalOrSelf (Location.path (first ++ inner)) = Location.path (first ++ inner) ∧
      tree.canonicalOrSelf (Location.path (second ++ inner)) =
        Location.path (second ++ inner) := by
  simp only [canonicalOrSelf, canonical?, copies.locate?_first sound plain,
    copies.locate?_second sound plain, Option.map_map]
  constructor
  · cases tree.node? (first ++ inner) <;> rfl
  · cases tree.node? (second ++ inner) <;> rfl

/-- What is read at one place imports the same. -/
theorem Copies.imports_readModule (copies : Copies tree first second) (sound : tree.Sound)
    (plain : inner.Plain) :
    (Analyzer.readModule tree (Location.path (first ++ inner))).toOption.map (·.imports) =
      (Analyzer.readModule tree (Location.path (second ++ inner))).toOption.map (·.imports) := by
  obtain ⟨same_first, same_second⟩ := copies.canonicalOrSelf_eq sound plain
  unfold Analyzer.readModule
  dsimp only
  rw [same_first, same_second, copies.text?_eq sound plain]
  cases tree.text? (Location.path (second ++ inner)) with
  | none => rfl
  | some text =>
    dsimp only
    cases Python.imports? text <;> rfl

/-- Directories of the search that stand at one place have modules at one place. -/
theorem Copies.found_inside (copies : Copies tree first second) (sound : tree.Sound) {a b : Path}
    (inside : SpellInside first second a b) {parts : List String}
    (parts_plain : ∀ part ∈ parts, PlainName part) :
    Option.Rel (Relocated first second) ((tree.moduleIn? a parts).map tree.canonicalOrSelf)
      ((tree.moduleIn? b parts).map tree.canonicalOrSelf) := by
  obtain ⟨inner, plain, spells_a, spells_b⟩ := inside
  have all_first := Location.plain_append.mpr ⟨copies.plain_first sound, plain⟩
  have all_second := Location.plain_append.mpr ⟨copies.plain_second sound, plain⟩
  have same_a : a.Same (Location.path (first ++ inner)) :=
    spells_a.components.trans (Path.spells_path all_first).components.symm
  have same_b : b.Same (Location.path (second ++ inner)) :=
    spells_b.components.trans (Path.spells_path all_second).components.symm
  have modules := copies.moduleIn? sound plain parts_plain
  rw [same_a.moduleIn?, same_b.moduleIn?]
  generalize tree.moduleIn? (Location.path (first ++ inner)) parts = x at modules
  generalize tree.moduleIn? (Location.path (second ++ inner)) parts = y at modules
  cases modules with
  | none => exact .none
  | some related =>
    obtain ⟨place, place_plain, rfl, rfl⟩ := related
    obtain ⟨same_first, same_second⟩ := copies.canonicalOrSelf_eq sound place_plain
    rw [Option.map_some, Option.map_some, same_first, same_second]
    exact .some ⟨place, place_plain, rfl, rfl⟩

end FileTree

namespace Analyzer

variable {origin other : Analyzer} {tree : FileTree} {first second inner : Location}

/-- Whether two analyzers for one version look into one place after the other, each below a
directory of its own. -/
structure Relocated (first second : Location) (origin other : Analyzer) : Prop where
  version : origin.pythonVersion = other.pythonVersion
  searchPaths : ∃ paths others, origin.searchPaths = Path.distinct paths ∧
    other.searchPaths = Path.distinct others ∧
    List.Forall₂ (FileTree.SpellInside first second) paths others

/-- A module that is imported at one place below each of two copies is found at one place below
each of them, or by neither search. -/
theorem Relocated.search (relocated : Relocated first second origin other)
    (copies : tree.Copies first second) (sound : tree.Sound) (plain : inner.Plain) {name : String}
    (slashless : '/' ∉ name.toList) :
    Option.Rel (FileTree.Relocated first second)
      (origin.search tree name (Location.path (first ++ inner)))
      (other.search tree name (Location.path (second ++ inner))) := by
  obtain ⟨paths, others, same_paths, same_others, inside⟩ := relocated.searchPaths
  have plain_first := copies.plain_first sound
  have plain_second := copies.plain_second sound
  have spell_inside {place : Location} (place_plain : place.Plain) :
      FileTree.SpellInside first second (Location.path (first ++ place))
        (Location.path (second ++ place)) :=
    ⟨place, place_plain, Path.spells_path (Location.plain_append.mpr ⟨plain_first, place_plain⟩),
      Path.spells_path (Location.plain_append.mpr ⟨plain_second, place_plain⟩)⟩
  obtain ⟨root, root_plain, root_first, root_second⟩ := copies.importRoot sound plain
  have directories : List.Forall₂ (FileTree.SpellInside first second)
      (Location.path (first ++ inner) :: tree.importRoot (Location.path (first ++ inner)) :: paths)
      (Location.path (second ++ inner) ::
        tree.importRoot (Location.path (second ++ inner)) :: others) := by
    rw [root_first, root_second]
    exact .cons (spell_inside plain) (.cons (spell_inside root_plain) inside)
  have parts_plain : ∀ part ∈ FileTree.nameParts name, PlainName part :=
    fun part member => FileTree.plain_of_mem_nameParts slashless member
  have same_skips : origin.skips name = other.skips name := by
    rw [skips, skips, relocated.version]
  have search_eq {one : Analyzer} {directories : List Path}
      (distinct : one.searchPaths = Path.distinct directories) (context : Path) :
      one.search tree name context = if one.skips name then none
        else (context :: tree.importRoot context :: directories).findSome? fun directory =>
          (tree.moduleIn? directory (FileTree.nameParts name)).map tree.canonicalOrSelf := by
    rw [search_eq_findSome?, distinct, List.findSome?_cons, List.findSome?_cons,
      Path.findSome?_distinct fun a b same => same.moduleIn? _]
    rfl
  rw [search_eq same_paths, search_eq same_others, same_skips]
  split
  next => exact .none
  next =>
    refine rel_findSome? ?_ directories
    intro a b related
    exact copies.found_inside sound related parts_plain

end Analyzer

end PackageAtlas
