import PackageAtlas.Proofs.Analyzer.RelativeImport
import PackageAtlas.Proofs.Project.Scheduling

/-!
# The dependencies of a built project

A file depends on another one exactly if an import of it leads there. The search answers with the
canonical path of a file and the project has every file under its canonical path, so both are the
same also where an import goes through links.
-/
namespace PackageAtlas

/-! ### Answers of the search -/

/-- The search answers with the path of a location. -/
theorem Analyzer.search_location {analyzer : Analyzer} {tree : FileTree} (sound : tree.Sound)
    {name : String} {context path : Path}
    (found : analyzer.search tree name context = some path) :
    ∃ location : Location, location.Plain ∧ path = location.path := by
  unfold search at found
  split at found
  next => cases found
  next =>
    obtain ⟨file, looked_up, rfl⟩ := Option.map_eq_some_iff.mp found
    obtain ⟨directory, -, in_directory⟩ := List.exists_of_findSome?_eq_some looked_up
    obtain ⟨place, located, -⟩ :=
      (Option.any_eq_true _ _).mp (FileTree.isFile_of_moduleIn? in_directory)
    exact ⟨place.location, sound.plain (sound.node?_of_locate? located).1,
      FileTree.canonicalOrSelf_of_locate? located⟩

namespace Project

variable {origin : Analyzer} {tree : FileTree} {project packages : Project}

/-! ### Imports -/

/-- The files that the imports of a file lead to, import by import. Of the names that are tried for
an imported thing, the first that is found counts. -/
def importedFiles (project : Project) (origin : Analyzer) (tree : FileTree) (file : FileId) :
    List FileId :=
  match (project.file file).module, (project.file file).path.parent? with
  | some module, some directory =>
    let reached := (module.imports.flatMap (·.candidates tree directory)).filterMap fun names =>
      (names.findSome? (origin.search tree · directory)).bind project.fileAt?
    reached.filter (· ≠ file)
  | _, _ => []

/-- Whether the text of a source file has an import of which some imported thing is found, under the
first of its names that is found at all, at the path of another file. -/
structure Imports (project : Project) (origin : Analyzer) (tree : FileTree)
    (source target : FileId) : Prop where
  apart : source ≠ target
  is_source : (project.file source).path.extension? = some "py"
  reaches : ∃ text imports directory, tree.text? (project.file source).path = some text ∧
    Python.imports? text = some imports ∧
    (project.file source).path.parent? = some directory ∧
    ∃ imported ∈ imports, ∃ names ∈ imported.candidates tree directory,
      names.findSome? (origin.search tree · directory) = some (project.file target).path

/-- Whether a source file has the module that its text gives, and any other file has none. -/
def HasOwnModule (project : Project) (tree : FileTree) (file : FileId) : Prop :=
  if (project.file file).path.extension? = some "py" then
    ∃ text imports, tree.text? (project.file file).path = some text ∧
      Python.imports? text = some imports ∧
      (project.file file).module = some ⟨(project.file file).path, imports⟩
  else (project.file file).module = none

variable {places : List Location}

theorem Filled.hasOwnModule (filled : Filled tree project places (packages.foundFiles tree))
    (at_places : PackagesAt tree packages places) (sound : tree.Sound) {file : FileId}
    (has : project.HasFile file) : project.HasOwnModule tree file := by
  obtain ⟨place, text, -, at_file, path_eq, module_eq⟩ := filled.file at_places sound has
  unfold HasOwnModule
  split at module_eq
  next is_source =>
    obtain ⟨⟨path, imports⟩, has_module, read⟩ := module_eq
    rw [path_eq, Analyzer.readModule_path_iff sound at_file rfl] at read
    obtain ⟨text, readable, parsed, same⟩ := read
    rw [if_pos is_source, path_eq]
    dsimp only at parsed same
    exact ⟨text, imports, readable, parsed, by rw [has_module, same]⟩
  next other =>
    rw [if_neg other]
    exact module_eq

/-- A file is found by the path of a location exactly if this is its path. -/
theorem Filled.fileAt?_path (filled : Filled tree project places (packages.foundFiles tree))
    (at_places : PackagesAt tree packages places) (sound : tree.Sound) {file : FileId}
    (has : project.HasFile file) {location : Location} (plain : location.Plain) :
    project.fileAt? location.path = some file ↔ location.path = (project.file file).path := by
  rw [fileAt?_eq_some_iff filled.reachable.wellFormed.files]
  obtain ⟨place, _, -, at_file, path_eq, -⟩ := filled.file at_places sound has
  constructor
  · rintro ⟨-, same⟩
    rw [path_eq] at same ⊢
    rw [Location.eq_of_same (sound.plain at_file) plain same]
  · intro same
    rw [same]
    exact ⟨has, rfl⟩

/-- The search leads to a file of the project exactly if it answers with the path of the file. -/
theorem Filled.found_file_iff (filled : Filled tree project places (packages.foundFiles tree))
    (at_places : PackagesAt tree packages places) (sound : tree.Sound) {file : FileId}
    (has : project.HasFile file) (names : List String) (directory : Path) :
    (names.findSome? (origin.search tree · directory)).bind project.fileAt? = some file ↔
      names.findSome? (origin.search tree · directory) = some (project.file file).path := by
  cases found : names.findSome? (origin.search tree · directory) with
  | none => simp
  | some path =>
    obtain ⟨name, -, searched⟩ := List.exists_of_findSome?_eq_some found
    obtain ⟨location, plain, rfl⟩ := Analyzer.search_location sound searched
    rw [Option.bind_some, filled.fileAt?_path at_places sound has plain, Option.some.injEq]

/-- What the imports of a file lead to, by the paths of files. -/
theorem Filled.mem_importedFiles_iff
    (filled : Filled tree project places (packages.foundFiles tree))
    (at_places : PackagesAt tree packages places) (sound : tree.Sound) {source target : FileId}
    (has_source : project.HasFile source) (has_target : project.HasFile target) :
    target ∈ project.importedFiles origin tree source ↔
      project.Imports origin tree source target := by
  have found_iff (names : List String) (directory : Path) :
      (names.findSome? (origin.search tree · directory)).bind project.fileAt? = some target ↔
        names.findSome? (origin.search tree · directory) = some (project.file target).path :=
    filled.found_file_iff at_places sound has_target names directory
  have own_module := filled.hasOwnModule at_places sound has_source
  unfold HasOwnModule at own_module
  unfold importedFiles
  split at own_module
  next is_source =>
    obtain ⟨text, imports, readable, parsed, has_module⟩ := own_module
    rw [has_module]
    constructor
    · intro member
      split at member
      next _ _ directory same inside =>
        cases same
        obtain ⟨reached, apart⟩ := List.mem_filter.mp member
        obtain ⟨names, tried, found⟩ := List.mem_filterMap.mp reached
        obtain ⟨imported, among, candidate⟩ := List.mem_flatMap.mp tried
        refine ⟨fun same => of_decide_eq_true apart same.symm, is_source, ?_⟩
        exact ⟨text, imports, directory, readable, parsed, inside, imported, among, names,
          candidate, (found_iff names directory).mp found⟩
      next => cases member
    · -- The text has one list of imports, which is that of the module.
      rintro ⟨apart, -, text', imports', directory, readable', parsed', inside, imported, among,
        names, candidate, found⟩
      rw [readable, Option.some.injEq] at readable'
      subst readable'
      rw [parsed, Option.some.injEq] at parsed'
      subst parsed'
      rw [inside]
      refine List.mem_filter.mpr ⟨?_, decide_eq_true (Ne.symm apart)⟩
      refine List.mem_filterMap.mpr ⟨names, ?_, (found_iff names directory).mpr found⟩
      exact List.mem_flatMap.mpr ⟨imported, among, candidate⟩
  next other =>
    rw [own_module]
    constructor
    · intro member
      cases member
    · intro imports
      exact absurd imports.is_source other

/-! ### Dependencies -/

/-- The targets of a file lead where its imports lead. -/
theorem eraseDups_reachedBy {file : FileId} {module : ParsedModule} {directory : Path}
    (has_module : (project.file file).module = some module)
    (inside : module.path.parent? = some directory)
    (own_path : (project.file file).path = module.path) :
    (project.reachedBy file (searchedTargets origin tree (project.file file))).eraseDups =
      (project.importedFiles origin tree file).eraseDups := by
  let leads (target : ImportTarget) : Option FileId :=
    (project.fileAt? target.path).filter (· ≠ file)
  have reached_eq (targets : List ImportTarget) :
      project.reachedBy file targets = targets.filterMap leads := by
    rw [reachedBy, List.filter_filterMap]
  have same_lead (names : List String) :
      (origin.contribution tree directory names).bind leads =
        ((names.findSome? (origin.search tree · directory)).bind project.fileAt?).filter
          (· ≠ file) := by
    rw [← Analyzer.map_path_contribution]
    cases origin.contribution tree directory names <;> rfl
  unfold searchedTargets importedFiles
  rw [has_module, own_path]
  dsimp only
  rw [inside]
  dsimp only
  rw [reached_eq, eraseDups_filterMap_eraseDups, List.filterMap_filterMap, List.filter_filterMap]
  simp only [same_lead]

theorem importedFiles_withTargets (targets : List (FileId × List ImportTarget)) (file : FileId) :
    (project.withTargets targets).importedFiles origin tree file =
      project.importedFiles origin tree file := by
  unfold importedFiles fileAt? Project.file
  rw [files_withTargets]

theorem dependencies_uncached (sound : tree.Sound) {root : Path} {top : FileTree.Place}
    (found : tree.locate? root = some top) {file : FileId}
    (has : (uncached origin tree top.location).HasFile file) :
    (uncached origin tree top.location).dependencies file =
      ((uncached origin tree top.location).importedFiles origin tree file).eraseDups := by
  have filled := filled_filesOfDirectory sound found
  have lists := filled.reachable.wellFormed.files
  -- The files are those from before the dependencies, and each has its targets by its number.
  have has_file : (filesOfDirectory tree top.location).HasFile file := by
    unfold HasFile uncached at has
    rwa [files_withTargets] at has
  have member : (file, searchedTargets origin tree ((filesOfDirectory tree top.location).file file))
      ∈ (filesOfDirectory tree top.location).files.map fun file =>
        (file.id, searchedTargets origin tree file) := by
    refine List.mem_map.mpr ⟨_, (mem_files_iff _ _).mpr ⟨file, has_file, rfl⟩, ?_⟩
    rw [lists.number has_file]
  have distinct : (((filesOfDirectory tree top.location).files.map fun file =>
      (file.id, searchedTargets origin tree file)).map (·.1)).Nodup := by
    rw [List.map_map]
    exact nodup_file_ids lists
  unfold uncached
  rw [importedFiles_withTargets]
  refine (dependencies_withTargets (edges_filesOfDirectory tree top.location) distinct
    member).trans ?_
  obtain ⟨place, text, -, at_file, path_eq, module_eq⟩ :=
    filled.file (packagesAt_ofDirectory sound found) sound has_file
  split at module_eq
  next =>
    obtain ⟨module, has_module, read⟩ := module_eq
    rw [path_eq, Analyzer.readModule_path_iff sound at_file rfl] at read
    obtain ⟨-, -, -, module_path⟩ := read
    have inside : module.path.parent? = some place.path := by
      rw [module_path]
      exact Location.parent?_path (sound.plain at_file)
    exact eraseDups_reachedBy has_module inside (path_eq.trans module_path.symm)
  next =>
    -- A file without a module has no imports.
    unfold searchedTargets importedFiles
    rw [module_eq]
    rfl

/-- All dependencies of a built project, file by file. -/
theorem edges_uncached (origin : Analyzer) (sound : tree.Sound) {root : Path}
    {top : FileTree.Place} (found : tree.locate? root = some top) :
    (uncached origin tree top.location).edges =
      ((uncached origin tree top.location).files.map (·.id)).flatMap fun file =>
        ((uncached origin tree top.location).importedFiles origin tree file).eraseDups.map
          fun target => (file, target) := by
  have lists := (filled_filesOfDirectory sound found).reachable.wellFormed.files
  have ids_eq : ((filesOfDirectory tree top.location).files.map fun file =>
      (file.id, searchedTargets origin tree file)).map (·.1) =
        (uncached origin tree top.location).files.map (·.id) := by
    rw [List.map_map, uncached, files_withTargets]
    rfl
  have distinct : (((filesOfDirectory tree top.location).files.map fun file =>
      (file.id, searchedTargets origin tree file)).map (·.1)).Nodup := by
    rw [List.map_map]
    exact nodup_file_ids lists
  have in_turn : (uncached origin tree top.location).edges =
      (uncached origin tree top.location).edgesFrom
        ((uncached origin tree top.location).files.map (·.id)) := by
    rw [← ids_eq]
    exact edges_withTargets (edges_filesOfDirectory tree top.location) distinct
  rw [in_turn, edgesFrom]
  refine List.flatMap_congr fun file member => ?_
  obtain ⟨source, among, rfl⟩ := List.mem_map.mp member
  obtain ⟨id, has, rfl⟩ := (mem_files_iff _ source).mp among
  rw [(filled_uncached sound found).reachable.wellFormed.files.number has,
    dependencies_uncached sound found has]

/-- The dependencies of a built project are exactly the imports between its files, and those of each
file stand in the order in which its imports reach them. -/
theorem build_imports (sound : tree.Sound) (searchPaths : List Path) (pythonVersion : Nat)
    {root : Path} {top : FileTree.Place} (found : tree.locate? root = some top) :
    let analyzer := Analyzer.new tree searchPaths pythonVersion
    ∃ project, (build tree root analyzer).1 = some project ∧
      (∀ file, project.HasFile file → project.HasOwnModule tree file) ∧
      (∀ source target, (source, target) ∈ project.edges ↔
        project.HasFile source ∧ project.HasFile target ∧
          project.Imports analyzer tree source target) ∧
      ∀ file, project.HasFile file →
        project.dependencies file = (project.importedFiles analyzer tree file).eraseDups := by
  intro analyzer
  have fresh := Analyzer.faithful_new tree searchPaths pythonVersion
  have at_places := packagesAt_ofDirectory sound found
  have filled : Filled tree (uncached analyzer tree top.location)
      (tree.packagePlaces top.location) ((ofDirectory tree top.location).foundFiles tree) :=
    filled_uncached sound found
  refine ⟨_, (build_of_faithful sound fresh found).1, fun file has => ?_, fun source target => ?_,
    fun file has => dependencies_uncached sound found has⟩
  · exact filled.hasOwnModule at_places sound has
  · constructor
    · intro edge
      obtain ⟨has_source, has_target⟩ := filled.reachable.wellFormed.has_files edge
      have depends := mem_dependencies_iff.mpr edge
      rw [dependencies_uncached sound found has_source, List.mem_eraseDups] at depends
      exact ⟨has_source, has_target,
        (filled.mem_importedFiles_iff at_places sound has_source has_target).mp depends⟩
    · rintro ⟨has_source, has_target, imports⟩
      have imported := (filled.mem_importedFiles_iff at_places sound has_source has_target).mpr
        imports
      rw [← mem_dependencies_iff, dependencies_uncached sound found has_source]
      exact List.mem_eraseDups.mpr imported

/-- An import that leads to a file by a link makes for a dependency on that file. So does a relative
one of a name, which is found as a module below the package that the dots lead to. -/
theorem storefront_imports :
    ∃ project stock items,
      (build storefront ⟨"/shop"⟩ (Analyzer.new storefront [] 12)).1 = some project ∧
      (project.file stock).path = ⟨"/shop/stock.py"⟩ ∧
      (project.file items).path = ⟨"/shop/cart/items.py"⟩ ∧
      storefront.text? ⟨"/shop/stock.py"⟩ = some "import alias\nimport linked.items\n" ∧
      storefront.text? ⟨"/shop/cart/items.py"⟩ = some "from .. import stock\n" ∧
      (stock, items) ∈ project.edges ∧ (items, stock) ∈ project.edges := by
  obtain ⟨place, found, at_shop⟩ := exists_storefront
  obtain ⟨project, built, -, edge_iff, -⟩ := build_imports storefront_sound [] 12 found
  have same := (build_of_faithful storefront_sound (Analyzer.faithful_new storefront [] 12) found).1
  rw [built, Option.some.injEq] at same
  have at_places := packagesAt_ofDirectory storefront_sound found
  have filled : Filled storefront project (storefront.packagePlaces place.location)
      ((ofDirectory storefront place.location).foundFiles storefront) :=
    same ▸ filled_uncached storefront_sound found
  rw [at_shop] at at_places filled
  have imports_stock : Python.imports? "import alias\nimport linked.items\n" =
      some [⟨some "alias", [], 0⟩, ⟨some "linked.items", [], 0⟩] := by decide +kernel
  have at_stock : storefront.text? ⟨"/shop/stock.py"⟩ =
      some "import alias\nimport linked.items\n" := by decide +kernel
  obtain ⟨at_items, imports_items⟩ := storefront_items
  have shop_package : ["shop"] ∈ storefront.packagePlaces ["shop"] :=
    FileTree.mem_packagePlaces_iff.mpr ⟨[], rfl, trivial⟩
  have cart_package : ["shop", "cart"] ∈ storefront.packagePlaces ["shop"] :=
    FileTree.mem_packagePlaces_iff.mpr ⟨["cart"], rfl, storefront_cart⟩
  have stock_node : storefront.node? (["shop"] ++ ["stock.py"]) =
      some (.file (some "import alias\nimport linked.items\n")) := rfl
  have items_node : storefront.node? (["shop", "cart"] ++ ["items.py"]) =
      some (.file (some "from .. import stock\n")) := rfl
  obtain ⟨stock, has_stock, stock_path⟩ := filled.exists_file at_places storefront_sound
    shop_package stock_node (by decide) fun _ => ⟨_, _, at_stock, imports_stock⟩
  obtain ⟨items, has_items, items_path⟩ := filled.exists_file at_places storefront_sound
    cart_package items_node (by decide) fun _ => ⟨_, _, at_items, imports_items⟩
  have stock_eq : (project.file stock).path = ⟨"/shop/stock.py"⟩ := stock_path
  have items_eq : (project.file items).path = ⟨"/shop/cart/items.py"⟩ := items_path
  have apart : stock ≠ items := by
    rintro rfl
    rw [stock_eq] at items_eq
    exact absurd items_eq (by decide)
  refine ⟨project, stock, items, built, stock_eq, items_eq, at_stock, at_items,
    (edge_iff stock items).mpr ⟨has_stock, has_items, ?forth⟩,
    (edge_iff items stock).mpr ⟨has_items, has_stock, ?back⟩⟩
  case forth =>
    exact {
      apart
      is_source := by
        rw [stock_eq]
        decide +kernel
      reaches := by
        rw [stock_eq, items_eq]
        -- The search finds `alias.py` and answers with the file behind this link.
        exact ⟨_, _, ⟨"/shop"⟩, at_stock, imports_stock, by decide +kernel, _,
          List.mem_cons_self, ["alias"], by decide +kernel, by decide +kernel⟩ }
  case back =>
    exact {
      apart := apart.symm
      is_source := by
        rw [items_eq]
        decide +kernel
      reaches := by
        rw [stock_eq, items_eq]
        -- Two dots lead to `shop`, and a module of the name in it is tried before `shop` itself.
        exact ⟨_, _, ⟨"/shop/cart"⟩, at_items, imports_items, by decide +kernel, _,
          List.mem_cons_self, ["shop.stock", "shop"], by decide +kernel, by decide +kernel⟩ }

end Project

end PackageAtlas
