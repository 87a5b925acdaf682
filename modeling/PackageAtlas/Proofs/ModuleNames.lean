import PackageAtlas.ModuleSearch
import PackageAtlas.Proofs.FileTree.Following

/-!
# Dotted names and packages

The name of a package leads from its import root back to it. So a module is found by its full name
below the import root exactly where it is found by its own name below the package.
-/
namespace PackageAtlas

/-- The source file of a module below a location. -/
def Location.source (top : Location) (before : List String) (name : String) : Location :=
  top ++ before ++ [name ++ ".py"]

/-- The marker of a package below a location. -/
def Location.marker (top : Location) (before : List String) (name : String) : Location :=
  top ++ before ++ [name, packageMarker]

theorem Location.foldl_child {top : Location} (top_plain : top.Plain) {names : List String}
    (plain : Location.Plain names) :
    names.foldl Path.child top.path = Location.path (top ++ names) := by
  induction names generalizing top with
  | nil => rw [List.foldl_nil, List.append_nil]
  | cons name rest ih =>
    obtain ⟨name_plain, rest_plain⟩ := List.forall_mem_cons.mp plain
    rw [List.foldl_cons, child_path top_plain name_plain,
      ih (plain_concat.mpr ⟨top_plain, name_plain⟩) rest_plain, List.append_assoc,
      List.singleton_append]

namespace FileTree

variable {tree : FileTree}

/-! ### Parts of names -/

theorem nameParts_append (before after : String) :
    nameParts (before ++ "." ++ after) = nameParts before ++ nameParts after := by
  rw [nameParts, Text.split_dotted, List.filter_append]
  rfl

theorem of_mem_nameParts {name part : String} (member : part ∈ nameParts name) :
    part ≠ "" ∧ '.' ∉ part.toList := by
  obtain ⟨piece, nonempty⟩ := List.mem_filter.mp member
  exact ⟨of_decide_eq_true nonempty, Text.not_mem_of_mem_split piece⟩

/-- Parts without dots are found again in their dotted name. -/
theorem nameParts_join {parts : List String}
    (whole : ∀ part ∈ parts, part ≠ "" ∧ '.' ∉ part.toList) :
    nameParts (Text.join '.' parts) = parts := by
  by_cases empty : parts = []
  · rw [empty]; decide
  · rw [nameParts, Text.split_join empty fun part member => (whole part member).2]
    exact List.filter_eq_self.mpr fun part member => decide_eq_true (whole part member).1

theorem nameParts_of_whole {name : String} (nonempty : name ≠ "") (dotless : '.' ∉ name.toList) :
    nameParts name = [name] := by
  have row : Text.join '.' [name] = name := Text.join_singleton '.' name
  have all_whole : ∀ part ∈ [name], part ≠ "" ∧ '.' ∉ part.toList := by simp [nonempty, dotless]
  have parts_eq := nameParts_join all_whole
  rwa [row] at parts_eq

/-! ### Packages around a package -/

theorem plain_marker : PlainName packageMarker :=
  ⟨by decide, by decide, by decide⟩

theorem plain_source {name : String} (plain : PlainName name) : PlainName (name ++ ".py") := by
  have long : 3 ≤ (name ++ ".py").length := by
    rw [String.length_append]
    exact Nat.le_add_left 3 name.length
  refine ⟨?_, ?_, ?_⟩
  · simp only [Path.isVoid, Bool.or_eq_false_iff, decide_eq_false_iff_not]
    constructor <;> rintro same <;> rw [same] at long <;> exact absurd long (by decide)
  · intro same
    rw [same] at long
    exact absurd long (by decide)
  · rw [String.toList_append, List.mem_append, not_or]
    exact ⟨plain.no_slash, by decide⟩

theorem importRoot_root : tree.importRoot (Location.path []) = Location.path [] := by
  rw [importRoot, Location.lineage_root]
  by_cases package : tree.isPackage (Location.path []) <;> simp [package]

theorem packageNames_root : tree.packageNames (Location.path []) = [] := by
  simp [packageNames, Location.lineage_root, Location.fileName?_root]

theorem importRoot_of_not_package {location : Location} (plain : location.Plain)
    (no_package : tree.isPackage location.path = false) :
    tree.importRoot location.path = location.path := by
  cases location using List.reverseRecOn with
  | nil => exact importRoot_root
  | append_singleton before name => simp [importRoot, Location.lineage_path plain, no_package]

theorem packageNames_of_not_package {location : Location} (plain : location.Plain)
    (no_package : tree.isPackage location.path = false) :
    tree.packageNames location.path = [] := by
  cases location using List.reverseRecOn with
  | nil => exact packageNames_root
  | append_singleton before name => simp [packageNames, Location.lineage_path plain, no_package]

theorem importRoot_package {location : Location} {name : String}
    (plain : Location.Plain (location ++ [name]))
    (package : tree.isPackage (Location.path (location ++ [name])) = true) :
    tree.importRoot (Location.path (location ++ [name])) = tree.importRoot location.path := by
  obtain ⟨around, lineage_eq⟩ : ∃ around, location.path.lineage = location.path :: around := by
    cases location using List.reverseRecOn with
    | nil => exact ⟨[], Location.lineage_root⟩
    | append_singleton before last =>
      exact ⟨_, Location.lineage_path (Location.plain_append.mp plain).1⟩
  simp [importRoot, Location.lineage_path plain, package, lineage_eq, List.getLast?_cons]

theorem packageNames_package {location : Location} {name : String}
    (plain : Location.Plain (location ++ [name]))
    (package : tree.isPackage (Location.path (location ++ [name])) = true) :
    tree.packageNames (Location.path (location ++ [name])) =
      tree.packageNames location.path ++ [name] := by
  simp [packageNames, Location.lineage_path plain, package, Location.fileName?_path plain]

theorem packageNames_plain {location : Location} (plain : location.Plain) :
    ∀ name ∈ tree.packageNames location.path, PlainName name := by
  induction location using List.reverseRecOn with
  | nil => simp [packageNames_root]
  | append_singleton before name ih =>
    obtain ⟨before_plain, name_plain⟩ := Location.plain_append.mp plain
    rcases Bool.eq_false_or_eq_true (tree.isPackage (Location.path (before ++ [name]))) with
      package | no_package
    · rw [packageNames_package plain package]
      intro other member
      rcases List.mem_append.mp member with inside | last
      · exact ih before_plain other inside
      · exact name_plain other last
    · simp [packageNames_of_not_package plain no_package]

/-- Without dots in the names of the packages, a full name is cut into these and the parts behind
them again. -/
theorem nameParts_fullName {base : Location} (plain : base.Plain)
    (dotless : ∀ package ∈ tree.packageNames base.path, '.' ∉ package.toList)
    {parts : List String} (whole : ∀ part ∈ parts, part ≠ "" ∧ '.' ∉ part.toList) :
    nameParts (Text.join '.' (tree.packageNames base.path ++ parts)) =
      tree.packageNames base.path ++ parts := by
  apply nameParts_join
  intro part member
  rcases List.mem_append.mp member with inside | after
  · have part_plain := packageNames_plain plain part inside
    refine ⟨fun empty => ?_, dotless part inside⟩
    exact absurd part_plain.not_void (by rw [empty]; decide)
  · exact whole part after

/-- The import root of a location has the first names of it. -/
theorem exists_importRoot {location : Location} (plain : location.Plain) :
    ∃ root : Location, root.Plain ∧ tree.importRoot location.path = root.path := by
  induction location using List.reverseRecOn with
  | nil => exact ⟨[], plain, importRoot_root⟩
  | append_singleton before name ih =>
    rcases Bool.eq_false_or_eq_true (tree.isPackage (Location.path (before ++ [name]))) with
      package | no_package
    · obtain ⟨root, root_plain, root_eq⟩ := ih (Location.plain_append.mp plain).1
      exact ⟨root, root_plain, (importRoot_package plain package).trans root_eq⟩
    · exact ⟨_, plain, importRoot_of_not_package plain no_package⟩

/-! ### Modules below a package -/

theorem isFile_of_moduleIn? {directory file : Path} {parts : List String}
    (found : tree.moduleIn? directory parts = some file) :
    tree.isFile file = true := by
  induction parts generalizing directory with
  | nil => cases found
  | cons name rest ih =>
    cases rest with
    | nil =>
      rw [moduleIn?] at found
      split at found
      next marker => cases found; exact marker
      next =>
        split at found
        next source => cases found; exact source
        next => cases found
    | cons next others =>
      have onward : (if tree.isDirectory (directory.child name) then
          tree.moduleIn? (directory.child name) (next :: others) else none) = some file := found
      split at onward
      next => exact ih onward
      next => cases onward

theorem isDirectory_of_isPackage {location : Location} (plain : location.Plain)
    (package : tree.isPackage location.path = true) : tree.isDirectory location.path = true :=
  isDirectory_of_isFile_child plain plain_marker package

/-- Below the import root, the names of the packages lead to the directory they name. -/
theorem moduleIn?_importRoot {location : Location} (plain : location.Plain) {parts : List String}
    (more : parts ≠ []) :
    tree.moduleIn? (tree.importRoot location.path) (tree.packageNames location.path ++ parts) =
      tree.moduleIn? location.path parts := by
  induction location using List.reverseRecOn generalizing parts with
  | nil => rw [importRoot_root, packageNames_root, List.nil_append]
  | append_singleton before name ih =>
    obtain ⟨before_plain, name_plain⟩ := Location.plain_append.mp plain
    rcases Bool.eq_false_or_eq_true (tree.isPackage (Location.path (before ++ [name]))) with
      package | no_package
    · -- The name of the package is a part of the name seen from the directory around it.
      rw [importRoot_package plain package, packageNames_package plain package,
        List.append_assoc, ih before_plain (by simp)]
      obtain ⟨first, rest, rfl⟩ := List.exists_cons_of_ne_nil more
      have child_eq := Location.child_path before_plain (Location.plain_singleton.mp name_plain)
      have directory := isDirectory_of_isPackage plain package
      rw [List.singleton_append, moduleIn?, child_eq, if_pos directory]
      simp
    · rw [importRoot_of_not_package plain no_package, packageNames_of_not_package plain no_package,
        List.nil_append]

/-- The file of the module with the given parts of a name below a package; without parts the marker
of the package itself. -/
def moduleBelow? (tree : FileTree) (package : Path) (parts : List String) : Option Path :=
  if parts = [] then
    if tree.isPackage package then some (package.child packageMarker) else none
  else tree.moduleIn? package parts

/-- The full name of a module leads from the import root to the file the module has below its
package. -/
theorem moduleIn?_fullName {location : Location} (plain : location.Plain)
    (package : tree.isPackage location.path = true) {parts : List String}
    (named : tree.packageNames location.path ++ parts ≠ []) :
    tree.moduleIn? (tree.importRoot location.path) (tree.packageNames location.path ++ parts) =
      tree.moduleBelow? location.path parts := by
  by_cases empty : parts = []
  · -- The package itself is a module of the directory around it.
    subst empty
    cases location using List.reverseRecOn with
    | nil => exact absurd packageNames_root (by simpa using named)
    | append_singleton before name =>
      obtain ⟨before_plain, name_plain⟩ := Location.plain_append.mp plain
      have child_eq := Location.child_path before_plain (Location.plain_singleton.mp name_plain)
      rw [importRoot_package plain package, packageNames_package plain package, List.append_nil,
        moduleIn?_importRoot before_plain (by simp), moduleBelow?, if_pos rfl, if_pos package,
        moduleIn?, child_eq]
      exact if_pos package
  · rw [moduleIn?_importRoot plain empty, moduleBelow?, if_neg empty]

/-- The last part of a name is looked for in the directory that the others lead to. -/
theorem moduleIn?_concat {directory file : Path} {before : List String} {name : String}
    (found : tree.moduleIn? directory (before ++ [name]) = some file) :
    (before ≠ [] → tree.isDirectory (before.foldl Path.child directory) = true) ∧
      tree.moduleIn? (before.foldl Path.child directory) [name] = some file := by
  induction before generalizing directory with
  | nil => exact ⟨fun more => absurd rfl more, found⟩
  | cons first rest ih =>
    obtain ⟨next, others, cut⟩ := List.exists_cons_of_ne_nil
      (List.append_ne_nil_of_right_ne_nil rest (List.cons_ne_nil name []))
    have onward : (if tree.isDirectory (directory.child first) then
        tree.moduleIn? (directory.child first) (rest ++ [name]) else none) = some file := by
      rw [List.cons_append, cut] at found
      rw [cut]
      exact found
    split at onward
    next is_directory =>
      obtain ⟨inner, last⟩ := ih onward
      refine ⟨fun _ => ?_, last⟩
      by_cases more : rest = []
      · rw [more]
        exact is_directory
      · exact inner more
    next => cases onward

theorem moduleIn?_singleton_cases {directory file : Path} {name : String}
    (found : tree.moduleIn? directory [name] = some file) :
    file = (directory.child name).child packageMarker ∨ file = directory.child (name ++ ".py") := by
  rw [moduleIn?] at found
  split at found
  next => exact Or.inl (Option.some.inj found).symm
  next =>
    split at found
    next => exact Or.inr (Option.some.inj found).symm
    next => cases found

/-- A module below a location is the marker of a package or a source file of its name. -/
theorem moduleIn?_cases {top : Location} (top_plain : top.Plain) {before : List String}
    {name : String} (plain : Location.Plain (before ++ [name])) {path : Path}
    (found : tree.moduleIn? top.path (before ++ [name]) = some path) :
    path = (top.marker before name).path ∨ path = (top.source before name).path := by
  obtain ⟨before_plain, name_plain⟩ := Location.plain_concat.mp plain
  have around_plain := Location.plain_append.mpr ⟨top_plain, before_plain⟩
  have last := (moduleIn?_concat found).2
  rw [Location.foldl_child top_plain before_plain] at last
  refine (moduleIn?_singleton_cases last).imp (fun same => ?_) fun same => ?_
  · rw [same, Location.child_path around_plain name_plain,
      Location.child_path (Location.plain_concat.mpr ⟨around_plain, name_plain⟩) plain_marker,
      Location.marker]
    simp
  · rw [same, Location.child_path around_plain (plain_source name_plain), Location.source]

/-- The search for a module from a location comes to the path of a location. -/
theorem exists_location_moduleIn? {top parts : Location} (top_plain : top.Plain)
    (plain : parts.Plain) {path : Path} (found : tree.moduleIn? top.path parts = some path) :
    ∃ location : Location, location.Plain ∧ path = location.path := by
  rcases List.eq_nil_or_concat' parts with rfl | ⟨before, name, rfl⟩
  · cases found
  obtain ⟨before_plain, name_plain⟩ := Location.plain_concat.mp plain
  have around_plain := Location.plain_append.mpr ⟨top_plain, before_plain⟩
  rcases moduleIn?_cases top_plain plain found with rfl | rfl
  · exact ⟨_, Location.plain_append.mpr ⟨around_plain, Location.plain_append.mpr
      ⟨Location.plain_singleton.mpr name_plain, Location.plain_singleton.mpr plain_marker⟩⟩, rfl⟩
  · exact ⟨_, Location.plain_concat.mpr ⟨around_plain, plain_source name_plain⟩, rfl⟩

/-! ### Packages above a package -/

/-- The package some levels above a directory, when there are packages all the way. -/
theorem packageAbove?_eq_some_iff {location : Location} (plain : location.Plain) (levels : Nat)
    (base : Path) :
    tree.packageAbove? location.path levels = some base ↔
      location.path.lineage[levels]? = some base ∧
        ∀ around ∈ location.path.lineage.take (levels + 1), tree.isPackage around = true := by
  induction levels generalizing location with
  | zero =>
    cases location using List.reverseRecOn with
    | nil => simp [packageAbove?, Location.lineage_root, and_comm]
    | append_singleton before name =>
      simp [packageAbove?, Location.lineage_path plain, and_comm]
  | succ levels ih =>
    cases location using List.reverseRecOn with
    | nil => simp [packageAbove?, Location.lineage_root, Location.parent?_root]
    | append_singleton before name =>
      have inner := ih (Location.plain_append.mp plain).1
      rw [packageAbove?, Location.lineage_path plain, Location.parent?_path plain]
      simp only [List.getElem?_cons_succ, List.take_succ_cons, List.forall_mem_cons]
      by_cases package : tree.isPackage (Location.path (before ++ [name])) <;>
        simp [package, inner]

/-- The directory some levels up is a location too, with packages all the way one of the same
package tree. -/
theorem exists_above {location : Location} (plain : location.Plain) {levels : Nat} {base : Path}
    (found : location.path.lineage[levels]? = some base)
    (packages : ∀ around ∈ location.path.lineage.take levels, tree.isPackage around = true) :
    ∃ above : Location, above.Plain ∧ base = above.path ∧
      tree.importRoot location.path = tree.importRoot above.path := by
  induction levels generalizing location with
  | zero =>
    refine ⟨location, plain, ?_, rfl⟩
    cases location using List.reverseRecOn with
    | nil => simpa [Location.lineage_root] using found.symm
    | append_singleton before name => simpa [Location.lineage_path plain] using found.symm
  | succ levels ih =>
    cases location using List.reverseRecOn with
    | nil => simp [Location.lineage_root] at found
    | append_singleton before name =>
      rw [Location.lineage_path plain] at found packages
      rw [List.take_succ_cons, List.forall_mem_cons] at packages
      obtain ⟨above, above_plain, base_eq, same_root⟩ :=
        ih (Location.plain_append.mp plain).1 found packages.2
      exact ⟨above, above_plain, base_eq, (importRoot_package plain packages.1).trans same_root⟩

end FileTree

end PackageAtlas
