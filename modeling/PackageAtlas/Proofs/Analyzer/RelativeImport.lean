import Mathlib.Data.List.TakeWhile
import PackageAtlas.Proofs.Analyzer.Answers
import PackageAtlas.Proofs.Analyzer.SearchOrder

/-!
# Relative imports

A relative import is made absolute and then looked up like any other name. This is the module below
its package exactly if the name is not taken for one of the standard library, and the search meets
no other file of this name.
-/
namespace PackageAtlas

/-- The names that `name` is tried under, when it is imported from a module. -/
def Import.namesTried (module name : String) : List String :=
  if module.isEmpty then [name] else [module ++ "." ++ name, module]

/-- The parts of the module name that an import has behind its dots. -/
def Import.moduleParts (imported : Import) : List String :=
  (imported.module.map FileTree.nameParts).getD []

theorem Import.moduleParts_whole {imported : Import} {part : String}
    (member : part ∈ imported.moduleParts) : part ≠ "" ∧ '.' ∉ part.toList := by
  unfold moduleParts at member
  cases found : imported.module with
  | none => simp [found] at member
  | some module =>
    rw [found, Option.map_some, Option.getD_some] at member
    exact FileTree.of_mem_nameParts member

namespace Import

variable {tree : FileTree} {imported : Import} {directory base : Path} {module name : String}
  {label : Option String}

theorem namesTried_mem_of_module (named : (name, label) ∈ imported.names) (single : name ≠ "*")
    (from_module : (if imported.isRelative then
      tree.absoluteName? directory imported.level imported.module
      else some (imported.module.getD "")) = some module) :
    namesTried module name ∈ imported.candidates tree directory := by
  have from_import : imported.isFromImport = true := by
    unfold isFromImport
    cases names : imported.names with
    | nil => simp [names] at named
    | cons => rfl
  rw [candidates, from_module]
  simp only [from_import, Bool.not_true, Bool.false_eq_true, if_false]
  refine List.mem_filter.mpr ⟨List.mem_map.mpr ⟨(name, label), named, ?_⟩, ?_⟩
  · rw [namesTried]
    by_cases empty : module.isEmpty <;> simp [single, empty]
  · rw [namesTried]
    split <;> rfl

theorem namesTried_mem_candidates (relative : 0 < imported.level)
    (named : (name, label) ∈ imported.names) (single : name ≠ "*")
    (above : tree.packageAbove? directory (imported.level - 1) = some base) :
    namesTried (Text.join '.' (tree.packageNames base ++ imported.moduleParts)) name ∈
      imported.candidates tree directory := by
  apply namesTried_mem_of_module named single
  have is_relative : imported.isRelative = true := decide_eq_true relative
  rw [if_pos is_relative, FileTree.absoluteName?, above]
  rfl

theorem namesTried_mem_of_absolute (absolute : imported.level = 0)
    (of_module : imported.module = some module) (named : (name, label) ∈ imported.names)
    (single : name ≠ "*") : namesTried module name ∈ imported.candidates tree directory := by
  apply namesTried_mem_of_module named single
  have not_relative : imported.isRelative = false := by rw [isRelative, absolute]; rfl
  rw [not_relative, of_module]
  rfl

end Import

namespace Analyzer

variable {analyzer : Analyzer} {tree : FileTree}

/-- Whether a name is looked up, and nothing but `file` is found for it before the import root. -/
def Reaches (analyzer : Analyzer) (tree : FileTree) (directory : Path) (name : String)
    (file : Path) : Prop :=
  analyzer.skips name = false ∧
    ∀ other, analyzer.foundBefore? tree directory name = some other →
      tree.canonicalOrSelf other = tree.canonicalOrSelf file

theorem search_eq_some_iff {location : Location} (plain : location.Plain) {name : String}
    {file : Path}
    (found : tree.moduleIn? (tree.importRoot location.path) (FileTree.nameParts name) = some file) :
    analyzer.search tree name location.path = some (tree.canonicalOrSelf file) ↔
      analyzer.Reaches tree location.path name file := by
  rw [search_of_some plain found, Reaches]
  cases skipped : analyzer.skips name with
  | true => simp
  | false =>
    cases before : analyzer.foundBefore? tree location.path name with
    | none => simp
    | some other => simp

/-- What is left out under the longer name is left out under the module's own. -/
theorem skips_of_skips_inner {module name : String} (nonempty : module ≠ "")
    (skipped : analyzer.skips (module ++ "." ++ name) = true) : analyzer.skips module = true := by
  have whole : (module ++ "." ++ name).toList = module.toList ++ '.' :: name.toList := by
    simp [String.toList_append]
  have same_top : (Text.split '.' (module ++ "." ++ name)).headD "" =
      (Text.split '.' module).headD "" := by
    obtain ⟨first, rest, cut⟩ :=
      List.exists_cons_of_ne_nil (Text.splitChars_ne_nil '.' module.toList)
    simp [Text.split, whole, Text.splitChars_append, cut]
  -- `__future__` is left out by its whole name, all others by their first part.
  have not_future : module ++ "." ++ name ≠ "__future__" := by
    intro same
    have dot : '.' ∈ "__future__".toList := by
      rw [← same, whole]
      simp
    exact absurd dot (by decide)
  have same_start : Text.startsWith "." (module ++ "." ++ name) = Text.startsWith "." module := by
    obtain ⟨first, rest, start⟩ := List.exists_cons_of_ne_nil
      (fun empty => nonempty (String.toList_eq_nil_iff.mp empty) : module.toList ≠ [])
    simp [Text.startsWith, whole, start, List.isPrefixOf]
  rw [skips, StandardLibrary.has, same_start, same_top, decide_eq_false not_future,
    Bool.false_or] at skipped
  rw [skips, StandardLibrary.has, Bool.or_assoc, skipped, Bool.or_true]

theorem map_path_contribution (context : Path) (names : List String) :
    (analyzer.contribution tree context names).map (·.path) =
      names.findSome? (analyzer.search tree · context) := by
  rw [contribution]
  induction names with
  | nil => rfl
  | cons name rest ih =>
    rw [List.findSome?_cons, List.findSome?_cons]
    cases analyzer.search tree name context with
    | none => exact ih
    | some path => rfl

/-! ### What a relative import contributes -/

/-- The name under which the imported name is looked up as a module of its own. -/
def innerName (module name : String) : String :=
  if module.isEmpty then name else module ++ "." ++ name

/-- Whether the search for `name`, imported from `module`, comes to the file it has below the
package, and if there is no such file to that of the module. -/
def Undisturbed (analyzer : Analyzer) (tree : FileTree) (directory : Path) (module name : String) :
    Option Path → Option Path → Prop
  | some file, _ => analyzer.Reaches tree directory (innerName module name) file
  | none, some file =>
    match analyzer.foundElsewhere? tree directory (innerName module name) with
    | some other => tree.canonicalOrSelf other = tree.canonicalOrSelf file
    | none => module ≠ "" ∧ analyzer.Reaches tree directory module file
  | none, none =>
    analyzer.foundElsewhere? tree directory (innerName module name) = none ∧
      (module ≠ "" → analyzer.foundElsewhere? tree directory module = none)

theorem findSome?_namesTried (context : Path) (module name : String) :
    (Import.namesTried module name).findSome? (analyzer.search tree · context) =
      (analyzer.search tree (innerName module name) context).or
        (if module.isEmpty then none else analyzer.search tree module context) := by
  rw [Import.namesTried, innerName]
  split
  next => simp
  next =>
    simp only [List.findSome?_cons, List.findSome?_nil]
    cases analyzer.search tree (module ++ "." ++ name) context <;>
      cases analyzer.search tree module context <;> rfl

private theorem undisturbed_iff {directory : Location} (plain : directory.Plain)
    {module name : String} {inner own : Option Path}
    (at_inner : tree.moduleIn? (tree.importRoot directory.path)
      (FileTree.nameParts (innerName module name)) = inner)
    (at_module : module ≠ "" → tree.moduleIn? (tree.importRoot directory.path)
      (FileTree.nameParts module) = own) :
    (analyzer.search tree (innerName module name) directory.path).or
        (if module.isEmpty then none else analyzer.search tree module directory.path) =
      (inner.or own).map tree.canonicalOrSelf ↔
      analyzer.Undisturbed tree directory.path module name inner own := by
  -- The three cases of `Undisturbed`: the module is there, only its package is, or neither.
  cases inner with
  | some file =>
    rw [Undisturbed, ← search_eq_some_iff plain at_inner, Option.some_or, Option.map_some]
    cases skipped : analyzer.skips (innerName module name) with
    | true =>
      have inner_none : analyzer.search tree (innerName module name) directory.path = none := by
        rw [search_of_some plain at_inner, if_pos skipped]
      -- A name of the standard library makes its module one as well.
      have own_none : (if module.isEmpty then none
          else analyzer.search tree module directory.path) = none := by
        split
        next => rfl
        next nonempty =>
          rw [innerName, if_neg nonempty] at skipped
          have module_skipped := skips_of_skips_inner (by simpa using nonempty) skipped
          exact if_pos module_skipped
      rw [inner_none, own_none, Option.none_or]
    | false =>
      rw [search_of_some plain at_inner, skipped]
      rfl
  | none =>
    rw [search_of_none plain at_inner, Option.none_or]
    cases own with
    | some file =>
      rw [Undisturbed]
      cases analyzer.foundElsewhere? tree directory.path (innerName module name) with
      | some other => simp
      | none =>
        by_cases named : module = ""
        · simp [named]
        · rw [← search_eq_some_iff plain (at_module named)]
          simp [named]
    | none =>
      rw [Undisturbed]
      cases analyzer.foundElsewhere? tree directory.path (innerName module name) with
      | some other => simp
      | none =>
        by_cases named : module = ""
        · simp [named]
        · rw [search_of_none plain (at_module named)]
          simp [named]

private theorem nameParts_innerName (module : String) {name : String} (nonempty : name ≠ "")
    (dotless : '.' ∉ name.toList) :
    FileTree.nameParts (innerName module name) = FileTree.nameParts module ++ [name] := by
  rw [← FileTree.nameParts_of_whole nonempty dotless, innerName]
  split
  next empty =>
    rw [String.isEmpty_iff.mp empty]
    rfl
  next => exact FileTree.nameParts_append module name

/-- The import contributes the file it denotes below its package exactly if nothing disturbs the
search for it. -/
theorem contribution_iff {directory base : Location} (plain : directory.Plain)
    (base_plain : base.Plain) (package : tree.isPackage base.path = true)
    (same_root : tree.importRoot directory.path = tree.importRoot base.path)
    {parts : List String} {name : String}
    (dotless : ∀ package ∈ tree.packageNames base.path, '.' ∉ package.toList)
    (whole : ∀ part ∈ parts, part ≠ "" ∧ '.' ∉ part.toList)
    (nonempty : name ≠ "") (name_dotless : '.' ∉ name.toList) :
    let module := Text.join '.' (tree.packageNames base.path ++ parts)
    let inner := tree.moduleIn? base.path (parts ++ [name])
    let own := tree.moduleBelow? base.path parts
    (analyzer.contribution tree directory.path (Import.namesTried module name)).map (·.path) =
        (inner.or own).map tree.canonicalOrSelf ↔
      analyzer.Undisturbed tree directory.path module name inner own := by
  intro module inner own
  -- Without dots in them, the names of the packages survive the way through the dotted name.
  have module_parts := FileTree.nameParts_fullName base_plain dotless whole
  rw [map_path_contribution, findSome?_namesTried]
  apply undisturbed_iff plain
  · rw [same_root, nameParts_innerName module nonempty name_dotless, module_parts,
      List.append_assoc]
    exact FileTree.moduleIn?_importRoot base_plain (by simp)
  · intro named
    rw [same_root, module_parts]
    refine FileTree.moduleIn?_fullName base_plain package fun empty => named ?_
    rw [show module = Text.join '.' (tree.packageNames base.path ++ parts) from rfl, empty]
    rfl

/-- Whether a directory has neither a package nor a source file of this name. -/
structure Lacks (tree : FileTree) (directory : Path) (name : String) : Prop where
  no_directory : tree.isDirectory (directory.child name) = false
  no_package : tree.isPackage (directory.child name) = false
  no_source : tree.isFile (directory.child (name ++ ".py")) = false

theorem Lacks.moduleIn? {directory : Path} {name : String} (lacks : Lacks tree directory name)
    (rest : List String) : tree.moduleIn? directory (name :: rest) = none := by
  cases rest with
  | nil =>
    have no_package : tree.isFile ((directory.child name).child packageMarker) = false :=
      lacks.no_package
    simp [FileTree.moduleIn?, no_package, lacks.no_source]
  | cons next others => simp [FileTree.moduleIn?, lacks.no_directory]

/-- Nothing disturbs the search for modules of a package that is not called like one of the standard
library, when the other directories of the search have nothing called like it. -/
theorem undisturbed_of_lacks {directory : Path} {module name top : String} {others : List String}
    (parts : FileTree.nameParts module = top :: others) (kept : analyzer.skips module = false)
    (sole : ∀ around ∈ analyzer.searchDirectories tree directory,
      ¬ around.Same (tree.importRoot directory) → Lacks tree around top)
    (inner own : Option Path) :
    analyzer.Undisturbed tree directory module name inner own := by
  have named : module ≠ "" := by
    intro empty
    rw [empty] at parts
    cases parts
  have inner_parts : FileTree.nameParts (innerName module name) =
      top :: (others ++ FileTree.nameParts name) := by
    rw [innerName, if_neg (by simpa using named), FileTree.nameParts_append, parts,
      List.cons_append]
  -- Both names start with `top`, so the search looks for it in every directory first.
  have inner_kept : analyzer.skips (innerName module name) = false := by
    rw [Bool.eq_false_iff, innerName, if_neg (by simpa using named)]
    intro skipped
    rw [skips_of_skips_inner named skipped] at kept
    cases kept
  have nothing_elsewhere {query : String} {rest : List String}
      (query_parts : FileTree.nameParts query = top :: rest) :
      analyzer.foundElsewhere? tree directory query = none := by
    rw [foundElsewhere?, query_parts]
    split
    next => rfl
    next =>
      rw [List.findSome?_eq_none_iff]
      intro around member
      obtain ⟨searched, apart⟩ := List.mem_filter.mp member
      exact (sole around searched (by simpa using apart)).moduleIn? rest
  have nothing_before {query : String} {rest : List String}
      (query_parts : FileTree.nameParts query = top :: rest) :
      analyzer.foundBefore? tree directory query = none := by
    rw [foundBefore?, query_parts, List.findSome?_eq_none_iff]
    intro around member
    have searched := (List.takeWhile_sublist _).subset member
    have apart := List.mem_takeWhile_imp member
    exact (sole around searched (by simpa using apart)).moduleIn? rest
  have inner_reaches (file : Path) : analyzer.Reaches tree directory (innerName module name) file :=
    ⟨inner_kept, by simp [nothing_before inner_parts]⟩
  have own_reaches (file : Path) : analyzer.Reaches tree directory module file :=
    ⟨kept, by simp [nothing_before parts]⟩
  cases inner with
  | some file => exact inner_reaches file
  | none =>
    cases own with
    | some file =>
      rw [Undisturbed, nothing_elsewhere inner_parts]
      exact ⟨named, own_reaches file⟩
    | none => exact ⟨nothing_elsewhere inner_parts, fun _ => nothing_elsewhere parts⟩

/-! ### Imports of a source file -/

/-- A file that was read has a path of plain names. -/
theorem readModule_location (here : tree.here.Plain) {path : Path} {module : ParsedModule}
    (read : readModule tree path = .ok module) :
    ∃ location : Location, location.Plain ∧ module.path = location.path := by
  rw [readModule] at read
  split at read
  next => cases read
  next text text_found =>
    split at read
    next => cases read
    next =>
      cases read
      cases located : tree.locate? path with
      | none =>
        -- A path that leads nowhere stands for itself, and has no text.
        have itself : tree.canonicalOrSelf path = path := by
          rw [FileTree.canonicalOrSelf, FileTree.canonical?, located]
          rfl
        rw [itself, FileTree.text?, located] at text_found
        cases text_found
      | some place =>
        refine ⟨place.location, FileTree.locate?_plain here located, ?_⟩
        rw [FileTree.canonicalOrSelf, FileTree.canonical?, located]
        rfl

theorem parent_location {location : Location} (plain : location.Plain) {directory : Path}
    (inside : location.path.parent? = some directory) :
    ∃ around : Location, around.Plain ∧ directory = around.path := by
  cases location using List.reverseRecOn with
  | nil =>
    rw [Location.parent?_root] at inside
    cases inside
  | append_singleton before file =>
    rw [Location.parent?_path plain] at inside
    exact ⟨before, (Location.plain_append.mp plain).1, (Option.some.inj inside).symm⟩

/-- The directory of a file that was read is a location of plain names. -/
theorem directory_location (here : tree.here.Plain) {path : Path} {module : ParsedModule}
    (read : readModule tree path = .ok module) {directory : Path}
    (inside : module.path.parent? = some directory) :
    ∃ location : Location, location.Plain ∧ directory = location.path := by
  obtain ⟨location, plain, path_eq⟩ := readModule_location here read
  rw [path_eq] at inside
  exact parent_location plain inside

/-- What a name of a relative from-import contributes is among the targets of the file. It is the
module of this name below the package the dots lead to, or else the one it is imported from,
exactly if nothing disturbs the search. -/
theorem relative_import_iff (here : tree.here.Plain) (searchPaths : List Path)
    (pythonVersion : Nat) {path : Path} {source : ParsedModule}
    (read : readModule tree path = .ok source) {directory : Path}
    (inside : source.path.parent? = some directory) {imported : Import}
    (member : imported ∈ source.imports) (relative : 0 < imported.level) {name : String}
    {label : Option String} (named : (name, label) ∈ imported.names) (single : name ≠ "*")
    (nonempty : name ≠ "") (name_dotless : '.' ∉ name.toList) {base : Path}
    (above : directory.lineage[imported.level - 1]? = some base)
    (packages : ∀ around ∈ directory.lineage.take imported.level, tree.isPackage around = true)
    (dotless : ∀ package ∈ tree.packageNames base, '.' ∉ package.toList) :
    let analyzer := new tree searchPaths pythonVersion
    let module := Text.join '.' (tree.packageNames base ++ imported.moduleParts)
    let inner := tree.moduleIn? base (imported.moduleParts ++ [name])
    let own := tree.moduleBelow? base imported.moduleParts
    let tried := Import.namesTried module name
    tried ∈ imported.candidates tree directory ∧
      (∀ target, analyzer.contribution tree directory tried = some target →
        target ∈ (targets tree source analyzer).1) ∧
      ((analyzer.contribution tree directory tried).map (·.path) =
          (inner.or own).map tree.canonicalOrSelf ↔
        analyzer.Undisturbed tree directory module name inner own) := by
  obtain ⟨location, plain, rfl⟩ := directory_location here read inside
  obtain ⟨levels, level_eq⟩ : ∃ levels, imported.level = levels + 1 :=
    ⟨imported.level - 1, by omega⟩
  rw [level_eq] at packages
  rw [level_eq, Nat.add_sub_cancel] at above
  -- Only the packages below the base matter for its import root being that of the directory.
  have packages_before : ∀ around ∈ location.path.lineage.take levels,
      tree.isPackage around = true := fun around before =>
    packages around (List.take_subset_take_left _ (Nat.le_succ levels) before)
  obtain ⟨base_location, base_plain, rfl, same_root⟩ :=
    FileTree.exists_above plain above packages_before
  have base_taken : (location.path.lineage.take (levels + 1))[levels]? =
      some base_location.path := by
    rw [List.getElem?_take_of_lt (Nat.lt_succ_self levels)]
    exact above
  have base_package : tree.isPackage base_location.path = true :=
    packages _ (List.mem_of_getElem? base_taken)
  intro analyzer module inner own tried
  have tried_mem : tried ∈ imported.candidates tree location.path := by
    apply Import.namesTried_mem_candidates relative named single
    rw [level_eq, Nat.add_sub_cancel]
    exact (FileTree.packageAbove?_eq_some_iff plain levels _).mpr ⟨above, packages⟩
  refine ⟨tried_mem, ?_, contribution_iff plain base_plain base_package same_root dotless
    (fun _ => Import.moduleParts_whole) nonempty name_dotless⟩
  intro target contributed
  rw [(serves_new tree searchPaths pythonVersion location.path).targets inside,
    List.mem_eraseDups, List.mem_filterMap]
  exact ⟨tried, List.mem_flatMap.mpr ⟨imported, member, tried_mem⟩, contributed⟩

/-- A package with two files, one of which imports the other by `from . import b`. -/
def siblings (package : String) : FileTree where
  root := .directory [(package, .directory [
    ("__init__.py", .file (some "")),
    ("a.py", .file (some "from . import b\n")),
    ("b.py", .file (some ""))])]
  here := []

/-- The file `a.py` of a package with two files, as it is read. -/
def firstSibling (package : String) : ParsedModule :=
  ⟨⟨"/" ++ package ++ "/a.py"⟩, [⟨none, [("b", none)], 1⟩]⟩

/-- In a package called `shop` the import leads to the other file, and nothing disturbs it. -/
theorem shop_import_found :
    ⟨"shop.b", ⟨"/shop/b.py"⟩⟩ ∈
        (targets (siblings "shop") (firstSibling "shop") (new (siblings "shop") [] 12)).1 ∧
      (new (siblings "shop") [] 12).Undisturbed (siblings "shop") ⟨"/shop"⟩ "shop" "b"
        ((siblings "shop").moduleIn? ⟨"/shop"⟩ ["b"])
        ((siblings "shop").moduleBelow? ⟨"/shop"⟩ []) := by
  have here : (siblings "shop").here.Plain := fun _ member => nomatch member
  have read : readModule (siblings "shop") ⟨"/shop/a.py"⟩ = .ok (firstSibling "shop") := by
    decide +kernel
  have inside : (firstSibling "shop").path.parent? = some ⟨"/shop"⟩ := by decide +kernel
  have member : ⟨none, [("b", none)], 1⟩ ∈ (firstSibling "shop").imports := by decide +kernel
  have named : ("b", none) ∈ [(("b", none) : String × Option String)] := by decide
  have above : (Path.mk "/shop").lineage[0]? = some ⟨"/shop"⟩ := by decide +kernel
  have packages : ∀ around ∈ (Path.mk "/shop").lineage.take 1,
      (siblings "shop").isPackage around = true := by decide +kernel
  have dotless : ∀ package ∈ (siblings "shop").packageNames ⟨"/shop"⟩, '.' ∉ package.toList := by
    decide +kernel
  obtain ⟨-, among_targets, exactly⟩ := relative_import_iff here [] 12 read inside member
    (by decide) named (by decide) (by decide) (by decide) above packages dotless
  exact ⟨among_targets _ (by decide +kernel), exactly.mp (by decide +kernel)⟩

/-- In a package called `platform` like a module of the standard library, the import is lost: the
other file stands below the package, and is not among the targets. -/
theorem platform_import_lost :
    readModule (siblings "platform") ⟨"/platform/a.py"⟩ = .ok (firstSibling "platform") ∧
      (siblings "platform").isPackage ⟨"/platform"⟩ = true ∧
      (siblings "platform").moduleIn? ⟨"/platform"⟩ ["b"] = some ⟨"/platform/b.py"⟩ ∧
      (targets (siblings "platform") (firstSibling "platform")
        (new (siblings "platform") [] 12)).1 = [] := by
  decide +kernel

end Analyzer

end PackageAtlas
