import Mathlib.Data.List.Infix
import PackageAtlas.Proofs.Analyzer.RelativeImport
import PackageAtlas.Proofs.FileTree.Inside
import PackageAtlas.Proofs.Project.Scheduling
import PackageAtlas.Proofs.Python.ImportNames

/-!
# Names imported from a module

A name that is imported from a module is looked for as a module of its own first, and this search
goes through all directories anew. So it stays with the module that the import names only if the
directory where it ends has that module, too.
-/
namespace PackageAtlas

/-! ### Files of a package -/

namespace Path

/-- Whether a path leads through a directory. -/
def Encloses (directory path : Path) : Prop :=
  directory.components <+: path.components

instance (directory path : Path) : Decidable (Encloses directory path) :=
  inferInstanceAs (Decidable (_ <+: _))

/-- The directory of the package that a file is the marker of. -/
def markedDirectory? (file : Path) : Option Path :=
  if file.fileName? = some packageMarker then file.parent? else none

/-- Whether a file is one of the module with the file `own`: this file itself, or one inside of the
package that it is the marker of. -/
def BelongsTo (file own : Path) : Prop :=
  file = own ∨ ∃ package ∈ own.markedDirectory?, package.Encloses file

instance (file own : Path) : Decidable (BelongsTo file own) :=
  inferInstanceAs (Decidable (_ ∨ _))

theorem encloses_path_iff {outer inner : Location} (outer_plain : outer.Plain)
    (inner_plain : inner.Plain) : outer.path.Encloses inner.path ↔ outer <+: inner := by
  rw [Encloses, Location.components_path outer_plain, Location.components_path inner_plain,
    List.prefix_cons_inj, List.prefix_map_iff_of_injective]
  exact fun _ _ => Component.named.inj

theorem markedDirectory?_path {location : Location} {name : String}
    (plain : Location.Plain (location ++ [name])) :
    (Location.path (location ++ [name])).markedDirectory? =
      if name = packageMarker then some location.path else none := by
  simp only [markedDirectory?, Location.fileName?_path plain, Location.parent?_path plain,
    Option.some.injEq]

end Path

namespace FileTree

variable {tree : FileTree} {name : String}

/-! ### Where a module is found -/

/-- What is found as a file has a location. -/
theorem Sound.exists_file_location (sound : tree.Sound) {file : Path}
    (is_file : tree.isFile file = true) :
    ∃ place text, tree.locate? file = some place ∧
      tree.canonicalOrSelf file = place.location.path ∧
      tree.node? place.location = some (.file text) := by
  obtain ⟨place, located, node_is_file⟩ := (Option.any_eq_true _ _).mp is_file
  obtain ⟨text, node_eq⟩ := Node.exists_text node_is_file
  have at_place := (sound.node?_of_locate? located).1
  rw [node_eq] at at_place
  exact ⟨place, text, located, canonicalOrSelf_of_locate? located, at_place⟩

/-- Without links, the marker of a package stands in the directory that the package is. -/
theorem Sound.exists_package_location (sound : tree.Sound) (linkless : tree.root.Linkless)
    {package : Path} (nonempty : package.text ≠ "") (is_package : tree.isPackage package = true) :
    ∃ place text, tree.locate? package = some place ∧
      tree.canonicalOrSelf (package.child packageMarker) =
        Location.path (place.location ++ [packageMarker]) ∧
      tree.node? (place.location ++ [packageMarker]) = some (.file text) := by
  obtain ⟨_, text, at_marker, canonical, at_node⟩ := sound.exists_file_location is_package
  obtain ⟨place, at_package⟩ :=
    exists_place_of_child linkless nonempty plain_marker at_marker
  rw [sound.locate?_child linkless at_package plain_marker] at at_marker
  obtain ⟨_, -, rfl⟩ := Option.map_eq_some_iff.mp at_marker
  exact ⟨place, text, at_package, canonical, at_node⟩

/-- Without links, a module stands in the directory that the parts before its own lead to. -/
theorem Sound.exists_module_locations (sound : tree.Sound) (linkless : tree.root.Linkless)
    {around file : Path} {before : List String} (more : before ≠ []) (plain : PlainName name)
    (found : tree.moduleIn? around (before ++ [name]) = some file) :
    ∃ (directory location : Location) (text : Option String),
      tree.canonicalOrSelf (before.foldl Path.child around) = directory.path ∧
      tree.canonicalOrSelf file = location.path ∧ tree.node? location = some (.file text) ∧
      (location = directory ++ [name, packageMarker] ∨
        location = directory ++ [name ++ ".py"]) := by
  obtain ⟨directory_there, last⟩ := moduleIn?_concat found
  obtain ⟨base, at_base, -⟩ := (Option.any_eq_true _ _).mp (directory_there more)
  have base_eq := canonicalOrSelf_of_locate? at_base
  have is_file := isFile_of_moduleIn? found
  rcases moduleIn?_singleton_cases last with rfl | rfl
  · obtain ⟨package, text, at_package, canonical, at_marker⟩ :=
      sound.exists_package_location linkless (Path.text_child_ne_empty _ plain) is_file
    rw [sound.locate?_child linkless at_base plain] at at_package
    obtain ⟨_, -, rfl⟩ := Option.map_eq_some_iff.mp at_package
    exact ⟨base.location, _, text, base_eq, canonical, at_marker,
      Or.inl (List.append_assoc base.location [name] [packageMarker])⟩
  · obtain ⟨place, text, at_file, canonical, at_place⟩ := sound.exists_file_location is_file
    rw [sound.locate?_child linkless at_base (plain_source plain)] at at_file
    obtain ⟨_, -, rfl⟩ := Option.map_eq_some_iff.mp at_file
    exact ⟨base.location, _, text, base_eq, canonical, at_place, Or.inr rfl⟩

/-- A module in a directory lies in a package exactly if the directory does, or the module is this
package. -/
theorem Sound.belongsTo_iff_of_below (sound : tree.Sound) {own directory file : Location}
    {own_text text : Option String} (at_own : tree.node? own = some (.file own_text))
    (at_file : tree.node? file = some (.file text))
    (below : file = directory ++ [name, packageMarker] ∨ file = directory ++ [name ++ ".py"]) :
    file.path.BelongsTo own.path ↔
      file.path = own.path ∨
        ∃ package ∈ own.path.markedDirectory?, package.Encloses directory.path := by
  have file_plain := sound.plain at_file
  have directory_plain : directory.Plain := by
    rcases below with rfl | rfl
    · exact (Location.plain_append.mp file_plain).1
    · exact (Location.plain_append.mp file_plain).1
  obtain ⟨package, last, rfl⟩ : ∃ package last, own = package ++ [last] := by
    rcases List.eq_nil_or_concat' own with rfl | ends
    · have root_eq : tree.root = .file own_text := Option.some.inj at_own
      have rooted := sound.rooted
      rw [root_eq] at rooted
      cases rooted
    · exact ends
  have own_plain := sound.plain at_own
  have package_plain := (Location.plain_append.mp own_plain).1
  obtain ⟨around, at_package, is_directory, -⟩ := exists_directory_of_node? at_own
  -- The package holds its marker, so it is no module itself.
  have not_file : package ≠ file := by
    rintro rfl
    cases at_package.symm.trans at_file
    cases is_directory
  rw [Path.BelongsTo, Path.markedDirectory?_path own_plain]
  refine or_congr_right' fun apart => ?_
  split
  next is_marker =>
    simp only [Option.mem_def, Option.some.injEq, exists_eq_left',
      Path.encloses_path_iff package_plain file_plain,
      Path.encloses_path_iff package_plain directory_plain]
    refine ⟨fun inside => ?_, fun inside => ?_⟩
    · rcases below with rfl | rfl
      · -- The package of the same name has the marker that was found.
        have cut : directory ++ [name, packageMarker] = directory ++ [name] ++ [packageMarker] := by
          simp
        rw [cut] at inside not_file apart
        have inner := (List.prefix_concat_iff.mp inside).resolve_left not_file
        refine (List.prefix_concat_iff.mp inner).resolve_left fun same => apart ?_
        rw [same, is_marker]
      · exact (List.prefix_concat_iff.mp inside).resolve_left not_file
    · rcases below with rfl | rfl
      · exact inside.trans (List.prefix_append directory _)
      · exact inside.trans (List.prefix_append directory _)
  next => simp

end FileTree

namespace Analyzer

variable {analyzer : Analyzer} {tree : FileTree} {context : Path} {module name : String}

/-! ### Directories that have a module -/

/-- The directory of the search that has a module first. -/
def provider? (analyzer : Analyzer) (tree : FileTree) (context : Path) (name : String) :
    Option Path :=
  (analyzer.searchDirectories tree context).find? fun around =>
    (tree.moduleIn? around (FileTree.nameParts name)).isSome

private theorem findSome?_eq_find? {α β : Type} (look : α → Option β) (elements : List α) :
    elements.findSome? look = (elements.find? fun a => (look a).isSome).bind look := by
  induction elements with
  | nil => rfl
  | cons first rest ih =>
    rw [List.findSome?_cons, List.find?_cons, ih]
    cases found : look first with
    | none => rfl
    | some result => exact found.symm

theorem search_eq_provider (kept : analyzer.skips name = false) :
    analyzer.search tree name context =
      (analyzer.provider? tree context name).bind fun around =>
        (tree.moduleIn? around (FileTree.nameParts name)).map tree.canonicalOrSelf := by
  rw [search]
  change (if analyzer.skips name then none else
    ((analyzer.searchDirectories tree context).findSome?
      (tree.moduleIn? · (FileTree.nameParts name))).map tree.canonicalOrSelf) = _
  rw [kept, if_neg Bool.false_ne_true, findSome?_eq_find?, Option.map_bind]
  rfl

theorem exists_of_provider {around : Path}
    (provided : analyzer.provider? tree context name = some around) :
    ∃ file, tree.moduleIn? around (FileTree.nameParts name) = some file := by
  unfold provider? at provided
  have there := List.find?_some provided
  exact Option.isSome_iff_exists.mp there

theorem exists_of_search {path : Path} (found : analyzer.search tree name context = some path) :
    analyzer.skips name = false ∧ ∃ around file,
      tree.moduleIn? around (FileTree.nameParts name) = some file ∧
        tree.canonicalOrSelf file = path := by
  have kept : analyzer.skips name = false := by
    rw [Bool.eq_false_iff]
    intro skipped
    have lost : analyzer.search tree name context = none := if_pos skipped
    rw [lost] at found
    cases found
  rw [search_eq_provider kept] at found
  obtain ⟨around, -, there⟩ := Option.bind_eq_some_iff.mp found
  obtain ⟨file, at_file, canonical⟩ := Option.map_eq_some_iff.mp there
  exact ⟨kept, around, file, at_file, canonical⟩

theorem parts_ne_nil_of_search {path : Path}
    (found : analyzer.search tree name context = some path) : FileTree.nameParts name ≠ [] := by
  obtain ⟨-, _, _, there, -⟩ := exists_of_search found
  intro none_left
  rw [none_left] at there
  cases there

theorem ne_empty_of_search {path : Path}
    (found : analyzer.search tree name context = some path) : name ≠ "" := by
  rintro rfl
  exact parts_ne_nil_of_search found rfl

/-- Whether the search for a name, imported from the module with the file `own`, stays with this
module. It does where the name is no module of its own. Otherwise it has to come to the same file
again, or the name of the module has to lead inside of the package of `own`, seen from the directory
that the search ends in. -/
def Retains (analyzer : Analyzer) (tree : FileTree) (context : Path) (module name : String)
    (own : Path) : Prop :=
  ∀ around ∈ analyzer.provider? tree context (innerName module name),
    analyzer.search tree (innerName module name) context = some own ∨
      ∃ package ∈ own.markedDirectory?, package.Encloses
        (tree.canonicalOrSelf ((FileTree.nameParts module).foldl Path.child around))

/-! ### Where the search ends -/

/-- A name that is looked for as a module of its own, and else as one of its module, leads to a file
of this module exactly if the search retains it. -/
theorem belongsTo_iff_retains (sound : tree.Sound) (linkless : tree.root.Linkless)
    (slashless : '/' ∉ name.toList) (dotless : '.' ∉ name.toList) {own : Path}
    (found : analyzer.search tree module context = some own) :
    ((analyzer.search tree (innerName module name) context).getD own).BelongsTo own ↔
      analyzer.Retains tree context module name own := by
  have named := ne_empty_of_search found
  have more := parts_ne_nil_of_search found
  obtain ⟨kept, _, own_file, own_found, rfl⟩ := exists_of_search found
  have inner_eq : innerName module name = module ++ "." ++ name := by
    rw [innerName, if_neg (by rwa [String.isEmpty_iff])]
  -- The module was looked for, so the names behind it are looked for as well.
  have inner_kept : analyzer.skips (innerName module name) = false := by
    rw [Bool.eq_false_iff, inner_eq]
    intro skipped
    rw [skips_of_skips_inner named skipped] at kept
    cases kept
  have inner_search : analyzer.search tree (innerName module name) context = _ :=
    search_eq_provider inner_kept
  unfold Retains
  cases provided : analyzer.provider? tree context (innerName module name) with
  | none =>
    rw [provided, Option.bind_none] at inner_search
    simp [inner_search, Path.BelongsTo]
  | some around =>
    obtain ⟨file, there⟩ := exists_of_provider provided
    rw [provided, Option.bind_some, there, Option.map_some] at inner_search
    simp only [Option.mem_def, Option.some.injEq, forall_eq', inner_search, Option.getD_some]
    rw [inner_eq, FileTree.nameParts_append] at there
    by_cases empty : name = ""
    · -- Without a name of its own, the module itself is looked for once more.
      have parts_eq : FileTree.nameParts (innerName module name) = FileTree.nameParts module := by
        rw [inner_eq, FileTree.nameParts_append, empty]
        exact List.append_nil _
      have again : analyzer.search tree (innerName module name) context =
          analyzer.search tree module context := by
        rw [search_eq_provider inner_kept, search_eq_provider kept, provider?, provider?, parts_eq]
      rw [inner_search, found, Option.some.injEq] at again
      simp [again, Path.BelongsTo]
    · have parts_eq := FileTree.nameParts_of_whole empty dotless
      have plain : PlainName name :=
        FileTree.plain_of_mem_nameParts slashless (parts_eq ▸ List.mem_singleton_self name)
      rw [parts_eq] at there
      obtain ⟨directory, location, text, base_eq, file_eq, at_file, below⟩ :=
        sound.exists_module_locations linkless more plain there
      obtain ⟨place, own_text, -, own_eq, at_own⟩ :=
        sound.exists_file_location (FileTree.isFile_of_moduleIn? own_found)
      rw [base_eq, file_eq, own_eq]
      exact sound.belongsTo_iff_of_below at_own at_file below

/-- The search retains a package if the directory where the submodule is found has it, too. -/
theorem retains_of_package (sound : tree.Sound) (linkless : tree.root.Linkless)
    (slashless : '/' ∉ module.toList) {own : Path}
    (found : analyzer.search tree module context = some own)
    (shared : ∀ around ∈ analyzer.provider? tree context (innerName module name),
      let package := (FileTree.nameParts module).foldl Path.child around
      tree.isPackage package = true ∧ tree.canonicalOrSelf (package.child packageMarker) = own) :
    analyzer.Retains tree context module name own := by
  intro around provided
  obtain ⟨is_package, rfl⟩ := shared around provided
  obtain ⟨before, last, cut⟩ : ∃ before last, FileTree.nameParts module = before ++ [last] :=
    (List.eq_nil_or_concat' _).resolve_left (parts_ne_nil_of_search found)
  have last_plain : PlainName last := by
    apply FileTree.plain_of_mem_nameParts slashless
    rw [cut]
    exact List.mem_append_right before (List.mem_singleton_self last)
  have nonempty : ((FileTree.nameParts module).foldl Path.child around).text ≠ "" := by
    rw [cut, List.foldl_append]
    exact Path.text_child_ne_empty _ last_plain
  obtain ⟨place, _, at_package, canonical, at_marker⟩ :=
    sound.exists_package_location linkless nonempty is_package
  refine Or.inr ⟨place.location.path, ?_, ?_⟩
  · rw [canonical, Path.markedDirectory?_path (sound.plain at_marker), if_pos rfl]
    rfl
  · rw [FileTree.canonicalOrSelf_of_locate? at_package]
    exact List.prefix_rfl

/-! ### From-imports of a source file -/

/-- What a name that is imported from a module contributes is among the targets of the file. It is
the module itself or a file of its package, exactly if the search retains the module. -/
theorem from_import_iff (sound : tree.Sound) (linkless : tree.root.Linkless)
    {searchPaths : List Path} {pythonVersion : Nat}
    (used : Used tree searchPaths pythonVersion analyzer) {path : Path} {source : ParsedModule}
    (read : readModule tree path = .ok source) {directory : Path}
    (inside : source.path.parent? = some directory) {imported : Import}
    (member : imported ∈ source.imports) (absolute : imported.level = 0)
    (of_module : imported.module = some module) {label : Option String}
    (named : (name, label) ∈ imported.names) (single : name ≠ "*") {own : Path}
    (found : (resolve tree module directory analyzer).1 = some own) :
    let tried := Import.namesTried module name
    tried ∈ imported.candidates tree directory ∧
      ∃ target ∈ (targets tree source analyzer).1,
        (firstTarget tree directory tried analyzer).1 = some target ∧
          (target.path.BelongsTo own ↔
            (new tree searchPaths pythonVersion).Retains tree directory module name own) := by
  obtain ⟨place, _, located, -, parsed, path_eq⟩ := (readModule_eq_ok_iff sound).mp read
  rw [path_eq] at inside
  have place_plain := sound.plain (sound.node?_of_locate? located).1
  obtain ⟨location, plain, rfl⟩ := parent_location place_plain inside
  have undivided := Python.undivided_of_imports? parsed member
  have serves := (used.faithful sound).serves plain
  intro tried
  have tried_mem : tried ∈ imported.candidates tree location.path :=
    Import.namesTried_mem_of_absolute absolute of_module named single
  -- Whatever has been kept from before, the answers are those of the search.
  rw [(serves.resolve module).1] at found
  have named_module : module.isEmpty = false := by
    rw [Bool.eq_false_iff, Ne, String.isEmpty_iff]
    exact ne_empty_of_search found
  let origin := new tree searchPaths pythonVersion
  have path_of_contribution : (origin.contribution tree location.path tried).map (·.path) =
      some ((origin.search tree (innerName module name) location.path).getD own) := by
    rw [map_path_contribution, findSome?_namesTried, named_module, found]
    cases origin.search tree (innerName module name) location.path <;> rfl
  obtain ⟨target, contributed, target_path⟩ := Option.map_eq_some_iff.mp path_of_contribution
  refine ⟨tried_mem, target, ?_, (serves.firstTarget tried).1.trans contributed, ?_⟩
  · rw [serves.targets (path_eq ▸ inside), List.mem_eraseDups, List.mem_filterMap]
    exact ⟨tried, List.mem_flatMap.mpr ⟨imported, member, tried_mem⟩, contributed⟩
  · rw [target_path]
    exact belongsTo_iff_retains sound linkless (undivided.slashless.names named)
      (undivided.dotless named) found

/-- A file that imports names from three modules. Two of them are packages, one on a search path and
one beside the file; the third is a source file with a directory of the same name. -/
def market : FileTree where
  root := .directory [
    ("shop", .directory [
      ("main.py", .file (some
        "from stock import items\nfrom cart import items\nfrom till import items\n")),
      ("cart", .directory [("__init__.py", .file (some ""))]),
      ("till.py", .file (some "")),
      ("till", .directory [("items.py", .file (some ""))])]),
    ("lib", .directory [
      ("stock", .directory [("__init__.py", .file (some "")), ("items.py", .file (some ""))]),
      ("cart", .directory [("items.py", .file (some ""))])])]
  here := []

/-- The file `main.py`, as it is read. -/
def marketMain : ParsedModule :=
  ⟨⟨"/shop/main.py"⟩, [
    ⟨some "stock", [("items", none)], 0⟩,
    ⟨some "cart", [("items", none)], 0⟩,
    ⟨some "till", [("items", none)], 0⟩]⟩

theorem market_sound : market.Sound :=
  FileTree.sound_of_plainNames (by decide) (by decide)

theorem market_linkless : market.root.Linkless := by
  refine FileTree.linkless_directory (List.forall_mem_cons.mpr ⟨?shop, ?others⟩)
  case shop =>
    refine FileTree.linkless_directory ?_
    simp [FileTree.linkless_directory, FileTree.linkless_file]
  case others =>
    refine List.forall_mem_singleton.mpr (FileTree.linkless_directory ?_)
    simp [FileTree.linkless_directory, FileTree.linkless_file]

theorem read_market_main : readModule market ⟨"/shop/main.py"⟩ = .ok marketMain := by
  decide +kernel

/-- From a package on a search path, the import takes a file of this package. -/
theorem market_stock_retained :
    let analyzer := new market [⟨"/lib"⟩] 12
    (resolve market "stock" ⟨"/shop"⟩ analyzer).1 = some ⟨"/lib/stock/__init__.py"⟩ ∧
      ⟨"stock.items", ⟨"/lib/stock/items.py"⟩⟩ ∈ (targets market marketMain analyzer).1 ∧
      (Path.mk "/lib/stock/items.py").BelongsTo ⟨"/lib/stock/__init__.py"⟩ := by
  intro analyzer
  have used : Used market [⟨"/lib"⟩] 12 analyzer := .new
  have inside : marketMain.path.parent? = some ⟨"/shop"⟩ := by decide +kernel
  have member : ⟨some "stock", [("items", none)], 0⟩ ∈ marketMain.imports := by decide
  have named : ("items", none) ∈ [(("items", none) : String × Option String)] := by decide
  have found : (resolve market "stock" ⟨"/shop"⟩ analyzer).1 =
      some ⟨"/lib/stock/__init__.py"⟩ := by decide +kernel
  have first : (firstTarget market ⟨"/shop"⟩ (Import.namesTried "stock" "items") analyzer).1 =
      some ⟨"stock.items", ⟨"/lib/stock/items.py"⟩⟩ := by decide +kernel
  have provided : analyzer.provider? market ⟨"/shop"⟩ (innerName "stock" "items") =
      some ⟨"/lib"⟩ := by decide +kernel
  obtain ⟨-, target, among, contributed, exactly⟩ := from_import_iff market_sound market_linkless
    used read_market_main inside member rfl rfl named (by decide) found
  cases first.symm.trans contributed
  refine ⟨found, among, exactly.mpr ?_⟩
  refine retains_of_package market_sound market_linkless (by decide) found fun around here => ?_
  cases provided.symm.trans here
  decide +kernel

/-- The import from the package beside the file takes a file on the search path, and that from the
source file takes one in the directory beside it. Neither belongs to the module it is taken from. -/
theorem market_imports_astray :
    let analyzer := new market [⟨"/lib"⟩] 12
    readModule market ⟨"/shop/main.py"⟩ = .ok marketMain ∧
      (resolve market "cart" ⟨"/shop"⟩ analyzer).1 = some ⟨"/shop/cart/__init__.py"⟩ ∧
      (firstTarget market ⟨"/shop"⟩ ["cart.items", "cart"] analyzer).1 =
        some ⟨"cart.items", ⟨"/lib/cart/items.py"⟩⟩ ∧
      ¬ (Path.mk "/lib/cart/items.py").BelongsTo ⟨"/shop/cart/__init__.py"⟩ ∧
      (resolve market "till" ⟨"/shop"⟩ analyzer).1 = some ⟨"/shop/till.py"⟩ ∧
      (firstTarget market ⟨"/shop"⟩ ["till.items", "till"] analyzer).1 =
        some ⟨"till.items", ⟨"/shop/till/items.py"⟩⟩ ∧
      ¬ (Path.mk "/shop/till/items.py").BelongsTo ⟨"/shop/till.py"⟩ :=
  ⟨read_market_main, by decide +kernel⟩

end Analyzer

end PackageAtlas
