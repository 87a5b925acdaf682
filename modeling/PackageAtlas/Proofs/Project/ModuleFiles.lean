import PackageAtlas.Policy.Check
import PackageAtlas.Proofs.ModuleNames
import PackageAtlas.Proofs.Project.ImportEdges
import PackageAtlas.Proofs.Project.Layout
import PackageAtlas.Proofs.Project.Operations

/-!
# Files of dotted names

A dotted name leads to a file of a project in two ways: as the spelling of a logical path, and as a
module that is looked for below the root directory. Both try a source file and a package, but not in
the same order, so a project that has both under one name is asked for either.
-/
namespace PackageAtlas

/-! ### Dotted names as logical paths -/

/-- The parts of a dotted name, none of which is cut any further. -/
def WholeParts (parts : List String) : Prop :=
  ∀ part ∈ parts, part ≠ "" ∧ '.' ∉ part.toList ∧ '/' ∉ part.toList

theorem WholeParts.plain {parts : List String} (whole : WholeParts parts) :
    Location.Plain parts := by
  intro part member
  obtain ⟨nonempty, dotless, slashless⟩ := whole part member
  refine ⟨?_, ?_, slashless⟩
  · rw [Path.isVoid, Bool.or_eq_false_iff, decide_eq_false_iff_not, decide_eq_false_iff_not]
    refine ⟨nonempty, ?_⟩
    rintro rfl
    exact dotless (by decide)
  · rintro rfl
    exact dotless (by decide)

/-- A text that has nothing empty between its separators stays as it is. -/
theorem Text.trim_of_split {c : Char} {text : String} (whole : "" ∉ Text.split c text) :
    Text.trim c text = text := by
  -- A separator at an end has nothing on one side of it.
  have front : text.toList.dropWhile (· == c) = text.toList := by
    cases chars : text.toList with
    | nil => rfl
    | cons first rest =>
      refine List.dropWhile_cons_of_neg fun same => whole ?_
      rw [Text.split, chars, Text.splitChars, if_pos (beq_iff_eq.mp same)]
      exact List.mem_cons_self
  have back : text.toList.reverse.dropWhile (· == c) = text.toList.reverse := by
    cases chars : text.toList.reverse with
    | nil => rfl
    | cons last rest =>
      refine List.dropWhile_cons_of_neg fun same => whole ?_
      have cut : text.toList = rest.reverse ++ c :: [] := by
        rw [← List.reverse_reverse text.toList, chars, List.reverse_cons, beq_iff_eq.mp same]
      rw [Text.split, cut, Text.splitChars_append, List.map_append]
      exact List.mem_append_right _ List.mem_cons_self
  rw [Text.trim, front, back, List.reverse_reverse, String.ofList_toList]

namespace LogicalPath

theorem child_join {names : Location} (plain : names.Plain) (name : String) :
    child (Text.join '/' names) name = Text.join '/' (names ++ [name]) := by
  by_cases empty : names = []
  · rw [empty, List.nil_append, Text.join_singleton]
    rfl
  · have nonempty : (Text.join '/' names).isEmpty = false := by
      rw [Bool.eq_false_iff, Ne, String.isEmpty_iff]
      intro none_left
      have cut := Text.split_join empty fun name member => (plain name member).no_slash
      rw [none_left] at cut
      have void : "" ∈ names := by rw [← cut]; decide
      exact absurd (plain "" void).not_void (by decide)
    apply String.toList_inj.mp
    rw [child, nonempty, Text.toList_join_append '/' empty (List.cons_ne_nil name []),
      Text.join_singleton]
    simp [String.toList_append]

theorem normalize_join {parts : List String} (whole : WholeParts parts) :
    normalize (Text.join '.' parts) = Text.join '/' parts := by
  by_cases empty : parts = []
  · rw [empty]
    decide
  · have dotless : ∀ part ∈ parts, '.' ∉ part.toList := fun part member => (whole part member).2.1
    rw [normalize, Text.replace_eq_join, Text.split_join empty dotless]
    apply Text.trim_of_split
    rw [Text.split_join empty fun part member => (whole part member).2.2]
    exact fun void => (whole "" void).1 rfl

end LogicalPath

namespace Project

variable {project : Project}

/-! ### Files by their ways -/

/-- Whether names lead from the root package to what has the given path and logical path. -/
structure LiesAt (top : Location) (way : Location) (path : Path) (relative : String) : Prop where
  plain : way.Plain
  path_eq : path = Location.path (top ++ way)
  relative_eq : relative = Text.join '/' way

theorem LiesAt.child {top way : Location} {path : Path} {relative name : String}
    (lies : LiesAt top way path relative) (top_plain : top.Plain) (name_plain : PlainName name) :
    LiesAt top (way ++ [name]) (path.child name) (LogicalPath.child relative name) where
  plain := Location.plain_concat.mpr ⟨lies.plain, name_plain⟩
  path_eq := by
    rw [lies.path_eq, ← List.append_assoc]
    exact Location.child_path (Location.plain_append.mpr ⟨top_plain, lies.plain⟩) name_plain
  relative_eq := by rw [lies.relative_eq, LogicalPath.child_join lies.plain]

variable {top : Location}

theorem Reachable.exists_packageWay (reachable : Reachable PlainName project)
    (top_plain : top.Plain) (at_top : project.rootDirectory = top.path) {id : PackageId}
    (has : project.HasPackage id) :
    ∃ way, LiesAt top way (project.package id).path (project.package id).relative := by
  have entries := reachable.entries
  have stepwise := reachable.stepwise
  induction id, has using reachable.wellFormed.tree.induct_up with
  | top =>
    refine ⟨[], Location.plain_nil, ?_, stepwise.root_relative⟩
    rw [List.append_nil]
    exact at_top
  | below id parent has _ linked ih =>
    obtain ⟨way, lies⟩ := ih
    rw [entries.package_path has linked, stepwise.package has linked]
    exact ⟨_, lies.child top_plain (entries.package_name has linked)⟩

theorem Reachable.exists_fileWay (reachable : Reachable PlainName project)
    (top_plain : top.Plain) (at_top : project.rootDirectory = top.path) {id : FileId}
    (has : project.HasFile id) :
    ∃ way, way ≠ [] ∧ LiesAt top way (project.file id).path (project.file id).relative := by
  have entries := reachable.entries
  have owner := reachable.wellFormed.files.has_owner has
  obtain ⟨way, lies⟩ := reachable.exists_packageWay top_plain at_top owner
  rw [entries.file_path has, reachable.stepwise.file has]
  exact ⟨_, by simp, lies.child top_plain (entries.file_name has)⟩

/-- Names lead to the same file by the logical path they spell and by the path of their place. -/
theorem Reachable.fileWithRelative?_join (reachable : Reachable PlainName project)
    (top_plain : top.Plain) (at_top : project.rootDirectory = top.path) {way : Location}
    (plain : way.Plain) (nonempty : way ≠ []) :
    project.fileWithRelative? (Text.join '/' way) =
      project.fileAt? (Location.path (top ++ way)) := by
  have wellFormed := reachable.wellFormed
  have placed := (reachable.mono fun _ name_plain =>
    name_plain.single.relativeName).logicallyPlaced
  have slashless {names : Location} (names_plain : names.Plain) :
      ∀ name ∈ names, '/' ∉ name.toList := fun name member => (names_plain name member).no_slash
  ext id
  rw [fileWithRelative?_eq_some_iff placed wellFormed.files, fileAt?_eq_some_iff wellFormed.files]
  refine and_congr_right fun has => ?_
  obtain ⟨own, own_nonempty, lies⟩ := reachable.exists_fileWay top_plain at_top has
  rw [lies.relative_eq, lies.path_eq]
  -- No name has a slash in it, so both the logical path and the path give the names back.
  constructor
  · intro same
    have cut := congrArg (Text.split '/') same
    rw [Text.split_join own_nonempty (slashless lies.plain),
      Text.split_join nonempty (slashless plain)] at cut
    rw [cut]
    rfl
  · intro same
    have places := Location.eq_of_same (Location.plain_append.mpr ⟨top_plain, lies.plain⟩)
      (Location.plain_append.mpr ⟨top_plain, plain⟩) same
    rw [List.append_cancel_left places]

/-! ### Files by dotted names -/

/-- The file that a dotted name leads to before any package: the source file of this name. -/
def sourceFile? (project : Project) (parts : List String) : Option FileId :=
  project.fileWithRelative? (Text.join '/' parts ++ ".py")

theorem join_source (before : List String) (name : String) :
    Text.join '/' (before ++ [name]) ++ ".py" = Text.join '/' (before ++ [name ++ ".py"]) := by
  apply String.toList_inj.mp
  by_cases empty : before = []
  · simp [empty, Text.join_singleton, String.toList_append]
  · simp [String.toList_append, Text.toList_join_append '/' empty, Text.join_singleton]

theorem Reachable.moduleFile?_join (reachable : Reachable PlainName project)
    (top_plain : top.Plain) (at_top : project.rootDirectory = top.path) {before : List String}
    {name : String} (plain : Location.Plain (before ++ [name])) :
    project.sourceFile? (before ++ [name]) = project.fileAt? (top.source before name).path ∧
      project.moduleFile? (Text.join '/' (before ++ [name])) =
        (project.fileAt? (top.source before name).path).or
          (project.fileAt? (top.marker before name).path) := by
  obtain ⟨before_plain, name_plain⟩ := Location.plain_concat.mp plain
  have source_eq : project.sourceFile? (before ++ [name]) =
      project.fileAt? (top.source before name).path := by
    have source_plain := FileTree.plain_source name_plain
    rw [sourceFile?, join_source, reachable.fileWithRelative?_join top_plain at_top
      (Location.plain_concat.mpr ⟨before_plain, source_plain⟩) (by simp), Location.source,
      List.append_assoc]
  refine ⟨source_eq, ?_⟩
  have marker_eq : project.fileWithRelative?
      (LogicalPath.child (Text.join '/' (before ++ [name])) packageMarker) =
        project.fileAt? (top.marker before name).path := by
    rw [LogicalPath.child_join plain, reachable.fileWithRelative?_join top_plain at_top
      (Location.plain_concat.mpr ⟨plain, FileTree.plain_marker⟩) (by simp), Location.marker]
    simp
  rw [← source_eq, ← marker_eq, moduleFile?, sourceFile?]
  exact Option.orElse_eq_or

theorem findFile_of_moduleFile? {spelling : String} {id : FileId}
    (found : project.moduleFile? (LogicalPath.normalize spelling) = some id) :
    project.findFile spelling = .ok id := by
  simp only [findFile, found]
  rfl

/-- Where the search for a dotted name below the root directory comes to a file of the project, the
name means this file or the source file of the name. -/
theorem Reachable.findFile_join (reachable : Reachable PlainName project) (top_plain : top.Plain)
    (at_top : project.rootDirectory = top.path) {parts : List String} (whole : WholeParts parts)
    {tree : FileTree} {path : Path} {file : FileId}
    (found : tree.moduleIn? project.rootDirectory parts = some path)
    (there : project.fileAt? path = some file) :
    project.findFile (Text.join '.' parts) = .ok ((project.sourceFile? parts).getD file) := by
  obtain ⟨before, name, rfl⟩ : ∃ before name, parts = before ++ [name] := by
    rcases List.eq_nil_or_concat' parts with rfl | ends
    · cases found
    · exact ends
  obtain ⟨source_eq, module_eq⟩ := reachable.moduleFile?_join top_plain at_top whole.plain
  apply findFile_of_moduleFile?
  rw [LogicalPath.normalize_join whole, module_eq, ← source_eq]
  rw [at_top] at found
  -- The name means a source file first, so only a package can be passed over.
  rcases FileTree.moduleIn?_cases top_plain whole.plain found with rfl | rfl
  · rw [there]
    cases project.sourceFile? (before ++ [name]) <;> rfl
  · rw [source_eq, there]
    rfl

/-! ### Built projects -/

variable {tree : FileTree}

theorem PackagesAt.rootDirectory_eq
    (at_places : PackagesAt tree project (tree.packagePlaces top)) :
    project.rootDirectory = top.path := by
  obtain ⟨place, here, path_eq⟩ := at_places.place at_places.reachable.wellFormed.tree.has_root
  cases (FileTree.head_packagePlaces tree top).symm.trans here
  exact path_eq

/-- What is known of a project that was built from the directory at a location. -/
structure BuiltAt (tree : FileTree) (top : Location) (project : Project) : Prop where
  plain : top.Plain
  places : PackagesAt tree (ofDirectory tree top) (tree.packagePlaces top)
  filled : Filled tree project (tree.packagePlaces top) ((ofDirectory tree top).foundFiles tree)

theorem exists_builtAt {searchPaths : List Path} {pythonVersion : Nat} {analyzer : Analyzer}
    (sound : tree.Sound) (used : Used tree searchPaths pythonVersion analyzer) {root : Path}
    {place : FileTree.Place} (found : tree.locate? root = some place) :
    ∃ project, (build tree root analyzer).1 = some project ∧
      project.BuiltAt tree place.location := by
  refine ⟨_, (build_of_faithful sound (used.faithful sound) found).1, ?_⟩
  exact {
    plain := sound.plain (sound.node?_of_locate? found).1
    places := packagesAt_ofDirectory sound found
    filled := filled_uncached sound found }

namespace BuiltAt

variable (builtAt : project.BuiltAt tree top)

include builtAt

theorem rootDirectory_eq : project.rootDirectory = top.path :=
  builtAt.filled.rootDirectory_eq

theorem sourceFile?_join {before : List String} {name : String}
    (plain : Location.Plain (before ++ [name])) :
    project.sourceFile? (before ++ [name]) = project.fileAt? (top.source before name).path :=
  (builtAt.filled.reachable.moduleFile?_join builtAt.plain builtAt.rootDirectory_eq plain).1

theorem findFile_join {parts : List String} (whole : WholeParts parts) {path : Path} {file : FileId}
    (found : tree.moduleIn? project.rootDirectory parts = some path)
    (there : project.fileAt? path = some file) :
    project.findFile (Text.join '.' parts) = .ok ((project.sourceFile? parts).getD file) :=
  builtAt.filled.reachable.findFile_join builtAt.plain builtAt.rootDirectory_eq whole found there

/-- The path at which the search comes to a file of the project is the path of this file, and no
link stands there. -/
theorem canonicalOrSelf_of_fileAt? (sound : tree.Sound) {location : Location}
    (plain : location.Plain) {file : FileId} (there : project.fileAt? location.path = some file) :
    tree.canonicalOrSelf location.path = (project.file file).path := by
  have filled := builtAt.filled
  have has := ((fileAt?_eq_some_iff filled.reachable.wellFormed.files).mp there).1
  rw [(filled.fileAt?_path builtAt.places sound has plain).mp there]
  obtain ⟨place, text, -, at_file, path_eq, -⟩ := filled.file builtAt.places sound has
  rw [path_eq]
  exact FileTree.canonicalOrSelf_of_locate? (sound.locate?_path at_file rfl)

theorem exists_fileAt? (sound : tree.Sound) {way : List String}
    (package : tree.PackageBelow top way) {name : String} {text : Option String}
    (at_file : tree.node? (top ++ way ++ [name]) = some (.file text))
    (shown : FileTree.isHidden name = false) (kept : tree.Keeps (top ++ way ++ [name])) :
    ∃ file, project.fileAt? (Location.path (top ++ way ++ [name])) = some file ∧
      (project.file file).path = Location.path (top ++ way ++ [name]) := by
  have among : top ++ way ∈ tree.packagePlaces top :=
    FileTree.mem_packagePlaces_iff.mpr ⟨way, rfl, package⟩
  obtain ⟨file, has, path_eq⟩ :=
    builtAt.filled.exists_file builtAt.places sound among at_file shown kept
  have plain := sound.plain at_file
  exact ⟨file, (builtAt.filled.fileAt?_path builtAt.places sound has plain).mpr path_eq.symm,
    path_eq⟩

end BuiltAt

/-- In every built project, a dotted name means the file that the search for it comes to, exactly if
the project has no other source file of the name. -/
theorem build_findFile_iff {searchPaths : List Path} {pythonVersion : Nat} {analyzer : Analyzer}
    (sound : tree.Sound) (used : Used tree searchPaths pythonVersion analyzer) {root : Path}
    {place : FileTree.Place} (located : tree.locate? root = some place) :
    ∃ project, (build tree root analyzer).1 = some project ∧
      ∀ parts path file, WholeParts parts →
        tree.moduleIn? project.rootDirectory parts = some path →
          project.fileAt? path = some file →
            let name := Text.join '.' parts
            let fits := ∀ other, project.sourceFile? parts = some other → other = file
            tree.canonicalOrSelf path = (project.file file).path ∧
              (project.findFile name = .ok file ↔ fits) ∧
              (project.findNode (.file name) = .ok (.file file) ↔ fits) := by
  obtain ⟨project, built, builtAt⟩ := exists_builtAt sound used located
  refine ⟨project, built, fun parts path file whole found there => ?_⟩
  have answer := builtAt.findFile_join whole found there
  have fits_iff : project.findFile (Text.join '.' parts) = .ok file ↔
      ∀ other, project.sourceFile? parts = some other → other = file := by
    rw [answer, Except.ok.injEq]
    cases project.sourceFile? parts <;> simp
  refine ⟨?canonical, fits_iff, ?node⟩
  case canonical =>
    rw [builtAt.rootDirectory_eq] at found
    obtain ⟨location, plain, rfl⟩ :=
      FileTree.exists_location_moduleIn? builtAt.plain whole.plain found
    exact builtAt.canonicalOrSelf_of_fileAt? sound plain there
  case node =>
    rw [← fits_iff, findNode, answer]
    simp [Except.map]

/-- The name of a source file in a package means this file, below the root and in a policy. -/
theorem storefront_findFile_items :
    ∃ project file, (build storefront ⟨"/shop"⟩ (Analyzer.new storefront [] 12)).1 = some project ∧
      storefront.moduleIn? project.rootDirectory ["cart", "items"] =
        some ⟨"/shop/cart/items.py"⟩ ∧
      (project.file file).path = ⟨"/shop/cart/items.py"⟩ ∧
      project.findFile "cart.items" = .ok file ∧
      project.findNode (.file "cart.items") = .ok (.file file) := by
  obtain ⟨place, located, at_shop⟩ := exists_storefront
  have used : Used storefront [] 12 (Analyzer.new storefront [] 12) := .new
  obtain ⟨project, built, means⟩ := build_findFile_iff storefront_sound used located
  obtain ⟨other, other_built, builtAt⟩ := exists_builtAt storefront_sound used located
  cases built.symm.trans other_built
  rw [at_shop] at builtAt
  have found : storefront.moduleIn? project.rootDirectory ["cart", "items"] =
      some ⟨"/shop/cart/items.py"⟩ := by
    rw [builtAt.rootDirectory_eq]
    decide +kernel
  have whole : WholeParts ["cart", "items"] := by unfold WholeParts; decide
  have parts_plain : Location.Plain (["cart"] ++ ["items"]) := whole.plain
  have items_node : storefront.node? (["shop"] ++ ["cart"] ++ ["items.py"]) =
      some (.file (some "from .. import stock\n")) := rfl
  obtain ⟨at_items, imports_items⟩ := storefront_items
  obtain ⟨file, there, path_eq⟩ := builtAt.exists_fileAt? storefront_sound storefront_cart
    items_node (by decide) fun _ => ⟨_, _, at_items, imports_items⟩
  obtain ⟨-, file_iff, node_iff⟩ := means _ _ _ whole found there
  have fits : ∀ other, project.sourceFile? ["cart", "items"] = some other → other = file := by
    intro other same
    have source_eq : project.sourceFile? ["cart", "items"] = some file :=
      (builtAt.sourceFile?_join parts_plain).trans there
    exact Option.some.inj (same.symm.trans source_eq)
  exact ⟨project, file, built, found, path_eq, file_iff.mpr fits, node_iff.mpr fits⟩

/-- A source file beside a package of the same name. -/
def twoCarts : FileTree where
  root := .directory [("shop", .directory [
    ("cart.py", .file (some "")),
    ("cart", .directory [("__init__.py", .file (some ""))])])]
  here := []

theorem twoCarts_sound : twoCarts.Sound :=
  FileTree.sound_of_plainNames (by decide) (by decide)

theorem twoCarts_cart : twoCarts.PackageBelow ["shop"] ["cart"] := by
  refine ⟨?_, trivial⟩
  exact {
    directory := ⟨_, rfl, rfl⟩
    shown := by decide
    kept := by decide
    marked := by decide +kernel }

/-- The search below the root directory prefers the package, the name the source file. -/
theorem twoCarts_findFile :
    ∃ project package source,
      (build twoCarts ⟨"/shop"⟩ (Analyzer.new twoCarts [] 12)).1 = some project ∧
      twoCarts.moduleIn? project.rootDirectory ["cart"] = some ⟨"/shop/cart/__init__.py"⟩ ∧
      project.fileAt? ⟨"/shop/cart/__init__.py"⟩ = some package ∧
      project.findFile "cart" = .ok source ∧ source ≠ package := by
  have used : Used twoCarts [] 12 (Analyzer.new twoCarts [] 12) := .new
  obtain ⟨place, located, at_shop⟩ :
      ∃ place, twoCarts.locate? ⟨"/shop"⟩ = some place ∧ place.location = ["shop"] :=
    Option.map_eq_some_iff.mp (by decide +kernel)
  obtain ⟨project, built, builtAt⟩ := exists_builtAt twoCarts_sound used located
  rw [at_shop] at builtAt
  have found : twoCarts.moduleIn? project.rootDirectory ["cart"] =
      some ⟨"/shop/cart/__init__.py"⟩ := by
    rw [builtAt.rootDirectory_eq]
    decide +kernel
  have whole : WholeParts ["cart"] := by unfold WholeParts; decide
  have parts_plain : Location.Plain ([] ++ ["cart"]) := whole.plain
  have top_package : twoCarts.PackageBelow ["shop"] [] := trivial
  have no_imports : Python.imports? "" = some [] := by decide +kernel
  have marker_node : twoCarts.node? (["shop"] ++ ["cart"] ++ ["__init__.py"]) =
      some (.file (some "")) := rfl
  have source_node : twoCarts.node? (["shop"] ++ [] ++ ["cart.py"]) =
      some (.file (some "")) := rfl
  have at_marker : twoCarts.text? ⟨"/shop/cart/__init__.py"⟩ = some "" := by decide +kernel
  have at_source : twoCarts.text? ⟨"/shop/cart.py"⟩ = some "" := by decide +kernel
  obtain ⟨package, there, package_path⟩ := builtAt.exists_fileAt? twoCarts_sound twoCarts_cart
    marker_node (by decide) fun _ => ⟨_, _, at_marker, no_imports⟩
  obtain ⟨source, beside, source_path⟩ := builtAt.exists_fileAt? twoCarts_sound top_package
    source_node (by decide) fun _ => ⟨_, _, at_source, no_imports⟩
  refine ⟨project, package, source, built, found, there, ?answer, ?apart⟩
  case answer =>
    have source_eq : project.sourceFile? ["cart"] = some source :=
      (builtAt.sourceFile?_join parts_plain).trans beside
    have answer := builtAt.findFile_join whole found there
    rw [source_eq] at answer
    exact answer
  case apart =>
    rintro rfl
    rw [source_path] at package_path
    exact absurd package_path (by decide)

end Project

end PackageAtlas
