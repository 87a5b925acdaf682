import PackageAtlas.Proofs.Analyzer.Faithful
import PackageAtlas.Proofs.Project.Directory

/-!
# Files of a directory

The files of a package are found in the directory at its place. Those that are kept become files of
the project one after the other, and none of them is there already, since no two have the same
package and name.
-/
namespace PackageAtlas

namespace FoundFile

/-- What tells files apart. -/
def key (found : FoundFile) : PackageId × String := (found.package, found.name)

end FoundFile

/-- A file of a project, as it was found. -/
def SourceFile.found (file : SourceFile) : FoundFile := ⟨file.package, file.label, file.module⟩

/-- Whether the file at a location is kept: if it is a source file, it has to be readable and must
parse. -/
def FileTree.Keeps (tree : FileTree) (location : Location) : Prop :=
  location.path.extension? = some "py" →
    ∃ text imports, tree.text? location.path = some text ∧ Python.imports? text = some imports

namespace Project

variable {tree : FileTree} {project : Project} {places : List Location}

/-! ### Numbers -/

theorem map_package_ids (packages : PackageTree project) :
    project.packages.map (·.id) = (List.range project.packages.length).map PackageId.mk := by
  refine List.ext_getElem (by simp) fun index bound _ => ?_
  rw [List.length_map] at bound
  have number : (project.package ⟨index⟩).id = ⟨index⟩ := packages.number bound
  rw [package, List.getElem?_eq_getElem bound, Option.getD_some] at number
  simpa using number

theorem nodup_package_ids (packages : PackageTree project) :
    (project.packages.map (·.id)).Nodup := by
  rw [map_package_ids packages]
  exact List.nodup_range.map fun _ _ same => PackageId.mk.inj same

theorem map_file_ids (lists : FileLists project) :
    project.files.map (·.id) = (List.range project.files.length).map FileId.mk := by
  refine List.ext_getElem (by simp) fun index bound _ => ?_
  rw [List.length_map] at bound
  have number : (project.file ⟨index⟩).id = ⟨index⟩ := lists.number bound
  rw [file, List.getElem?_eq_getElem bound, Option.getD_some] at number
  simpa using number

theorem nodup_file_ids (lists : FileLists project) : (project.files.map (·.id)).Nodup := by
  rw [map_file_ids lists]
  exact List.nodup_range.map fun _ _ same => FileId.mk.inj same

theorem PackagesAt.hasPackage_iff (at_places : PackagesAt tree project places) {id : PackageId} :
    project.HasPackage id ↔ id.index < places.length := by
  have same := congrArg List.length at_places.paths
  rw [List.length_map, List.length_map] at same
  rw [HasPackage, same]

/-- No two packages lie at one place. -/
theorem PackagesAt.eq_of_place (at_places : PackagesAt tree project places) {a b : PackageId}
    {place : Location} (first : places[a.index]? = some place)
    (second : places[b.index]? = some place) : a = b := by
  obtain ⟨has_a, path_a⟩ := at_places.exists_package first
  obtain ⟨has_b, path_b⟩ := at_places.exists_package second
  exact at_places.reachable.wellFormed.tree.eq_of_same has_a has_b
    (congrArg Path.components (path_a.trans path_b.symm))

/-! ### Candidates -/

theorem PackagesAt.filter_fileCandidates (at_places : PackagesAt tree project places)
    {id : PackageId} {place : Location} (here : places[id.index]? = some place) :
    (project.fileCandidates tree).filter (·.1 = id) =
      (tree.fileNames place).map fun name => (id, name) := by
  obtain ⟨has, path_eq⟩ := at_places.exists_package here
  obtain ⟨node, located⟩ := at_places.located (List.mem_of_getElem? here)
  have packages := at_places.reachable.wellFormed.tree
  have member := (project.mem_packages_iff _).mpr ⟨id, has, rfl⟩
  have number : (project.package id).id = id := packages.number has
  rw [← number]
  unfold fileCandidates
  refine (filter_flatMap_of_key Package.id Prod.fst ?keyed (nodup_package_ids packages)
    member).trans ?own
  case keyed =>
    intro package candidate inside
    split at inside
    next => cases inside
    next =>
      obtain ⟨name, -, rfl⟩ := List.mem_map.mp inside
      rfl
  case own => rw [path_eq, located]

theorem PackagesAt.mem_fileCandidates_iff (at_places : PackagesAt tree project places)
    {id : PackageId} {name : String} :
    (id, name) ∈ project.fileCandidates tree ↔
      ∃ place, places[id.index]? = some place ∧ name ∈ tree.fileNames place := by
  have in_group {place : Location} (here : places[id.index]? = some place) :
      (id, name) ∈ project.fileCandidates tree ↔ name ∈ tree.fileNames place := by
    have group := at_places.filter_fileCandidates here
    have filtered : (id, name) ∈ (project.fileCandidates tree).filter (·.1 = id) ↔
        (id, name) ∈ project.fileCandidates tree := by
      simp
    rw [← filtered, group]
    simp
  constructor
  · intro member
    obtain ⟨package, among, inside⟩ := List.mem_flatMap.mp member
    obtain ⟨other, has, rfl⟩ := (project.mem_packages_iff package).mp among
    have number := at_places.reachable.wellFormed.tree.number has
    split at inside
    next => cases inside
    next =>
      obtain ⟨_, -, same⟩ := List.mem_map.mp inside
      rw [number] at same
      cases same
      obtain ⟨place, here, -⟩ := at_places.place has
      exact ⟨place, here, (in_group here).mp member⟩
  · rintro ⟨place, here, named⟩
    exact (in_group here).mpr named

theorem PackagesAt.nodup_fileCandidates (at_places : PackagesAt tree project places) :
    (project.fileCandidates tree).Nodup := by
  have ids := nodup_package_ids at_places.reachable.wellFormed.tree
  rw [List.Nodup, List.pairwise_map] at ids
  refine List.pairwise_flatMap.mpr ⟨fun package _ => ?inside, ids.imp ?between⟩
  case inside =>
    split
    next => exact List.Pairwise.nil
    next place _ =>
      rw [List.pairwise_map]
      refine (FileTree.fileNames_ascending place.location).imp ?_
      intro a b less same
      exact String.lt_irrefl a ((Prod.mk.inj same).2 ▸ less)
  case between =>
    intro first second apart x in_first y in_second same
    split at in_first
    next => cases in_first
    next =>
      split at in_second
      next => cases in_second
      next =>
        obtain ⟨a, -, rfl⟩ := List.mem_map.mp in_first
        obtain ⟨b, -, rfl⟩ := List.mem_map.mp in_second
        exact apart (Prod.mk.inj same).1

/-! ### Files that are kept -/

/-- A candidate as a file of the project, if it is kept. -/
def foundFile? (project : Project) (tree : FileTree) (package : PackageId) (name : String) :
    Option FoundFile :=
  let path := (project.package package).path.child name
  if path.extension? = some "py" then
    match Analyzer.readModule tree path with
    | .ok module => some ⟨package, name, some module⟩
    | .error _ => none
  else some ⟨package, name, none⟩

theorem key_of_foundFile? {package : PackageId} {name : String} {found : FoundFile}
    (kept : project.foundFile? tree package name = some found) :
    found.key = (package, name) := by
  unfold foundFile? at kept
  dsimp only at kept
  split at kept
  next =>
    split at kept
    next => cases kept; rfl
    next => cases kept
  next => cases kept; rfl

theorem PackagesAt.child_path (at_places : PackagesAt tree project places) {id : PackageId}
    {place : Location} (here : places[id.index]? = some place) {name : String}
    (plain : PlainName name) :
    (project.package id).path.child name = Location.path (place ++ [name]) := by
  rw [(at_places.exists_package here).2]
  exact Location.child_path (at_places.plain (List.mem_of_getElem? here)) plain

/-- The module that goes with a file. -/
theorem PackagesAt.foundFile?_eq_some_iff (at_places : PackagesAt tree project places)
    {id : PackageId} {place : Location} (here : places[id.index]? = some place) {name : String}
    (plain : PlainName name) {found : FoundFile} :
    project.foundFile? tree id name = some found ↔
      found.key = (id, name) ∧
        if (Location.path (place ++ [name])).extension? = some "py" then
          ∃ module, found.module = some module ∧
            Analyzer.readModule tree (Location.path (place ++ [name])) = .ok module
        else found.module = none := by
  obtain ⟨package, label, module⟩ := found
  simp only [foundFile?, at_places.child_path here plain, FoundFile.key, Prod.mk.injEq]
  split
  next =>
    cases Analyzer.readModule tree (Location.path (place ++ [name])) with
    | error error => simp
    | ok read =>
      simp only [Option.some.injEq, FoundFile.mk.injEq, Except.ok.injEq]
      constructor
      · rintro ⟨rfl, rfl, rfl⟩
        exact ⟨⟨rfl, rfl⟩, read, rfl, rfl⟩
      · rintro ⟨⟨rfl, rfl⟩, _, rfl, rfl⟩
        exact ⟨rfl, rfl, rfl⟩
  next =>
    simp only [Option.some.injEq, FoundFile.mk.injEq]
    constructor
    · rintro ⟨rfl, rfl, rfl⟩
      exact ⟨⟨rfl, rfl⟩, rfl⟩
    · rintro ⟨⟨rfl, rfl⟩, rfl⟩
      exact ⟨rfl, rfl, rfl⟩

/-! ### The files become part of the project -/

/-- Whether a project has its packages at the given places, and the given files. -/
structure Filled (tree : FileTree) (project : Project) (places : List Location)
    (found : List FoundFile) : Prop extends PackagesAt tree project places where
  files : project.files.map SourceFile.found = found

variable {found : List FoundFile}

theorem Filled.addFound (filled : Filled tree project places found) {new : FoundFile}
    (inside : new.package.index < places.length) (plain : PlainName new.name)
    (fresh : new.key ∉ found.map FoundFile.key) :
    Filled tree (project.addFound new) places (found ++ [new]) := by
  have has := filled.hasPackage_iff.mpr inside
  obtain ⟨place, here, -⟩ := filled.place has
  have path_eq := filled.child_path here plain
  have absent : project.fileAt? ((project.package new.package).path.child new.name) = none := by
    -- A file of the same path has the same name in the same package, so it would be known.
    rw [fileAt?_eq_none_iff]
    intro id old same
    obtain ⟨owner_place, there, -⟩ :=
      filled.place (filled.reachable.wellFormed.files.has_owner old)
    have label_plain := filled.reachable.entries.file_name old
    rw [filled.reachable.entries.file_path old, filled.child_path there label_plain,
      path_eq] at same
    have place_plain := filled.plain (List.mem_of_getElem? here)
    have owner_plain := filled.plain (List.mem_of_getElem? there)
    have cut := Location.eq_of_same (Location.plain_concat.mpr ⟨owner_plain, label_plain⟩)
      (Location.plain_concat.mpr ⟨place_plain, plain⟩) same
    obtain ⟨rfl, last⟩ := List.append_inj' cut rfl
    apply fresh
    rw [← filled.files, List.map_map]
    refine List.mem_map.mpr ⟨project.file id, (project.mem_files_iff _).mpr ⟨id, old, rfl⟩, ?_⟩
    exact Prod.ext (filled.eq_of_place there here) (List.cons.inj last).1
  have reachable : Reachable PlainName (project.addFound new) :=
    .addFile filled.reachable has plain
  rcases project.addFile_cases new.package new.name new.module with
    ⟨_, present, -⟩ | ⟨-, added⟩
  · rw [absent] at present
    cases present
  · have grown : project.addFound new = project.withFile new.package new.name new.module :=
      congrArg Prod.snd added
    rw [grown] at reachable ⊢
    refine {
      reachable := reachable
      paths := ?_
      plain := filled.plain
      located := filled.located
      files := ?_ }
    · rw [← filled.paths]
      apply map_modify
      intro package
      rfl
    · rw [withFile, List.map_append, filled.files]
      rfl

theorem Filled.foldl_addFound (filled : Filled tree project places found)
    {later : List FoundFile}
    (inside : ∀ new ∈ later, new.package.index < places.length ∧ PlainName new.name)
    (distinct : ((found ++ later).map FoundFile.key).Nodup) :
    Filled tree (later.foldl Project.addFound project) places (found ++ later) := by
  induction later generalizing project found with
  | nil => rwa [List.append_nil]
  | cons new rest ih =>
    obtain ⟨⟨bound, plain⟩, rest_inside⟩ := List.forall_mem_cons.mp inside
    have fresh : new.key ∉ found.map FoundFile.key := by
      rw [List.map_append, List.nodup_append] at distinct
      intro member
      exact distinct.2.2 _ member _ (List.mem_map_of_mem List.mem_cons_self) rfl
    have onward := ih (filled.addFound bound plain fresh) rest_inside
    rw [List.append_assoc, List.singleton_append] at onward
    exact onward distinct

/-- The files that are found in the packages of a project. -/
def foundFiles (project : Project) (tree : FileTree) : List FoundFile :=
  (project.fileCandidates tree).filterMap fun (package, name) =>
    project.foundFile? tree package name

theorem map_key_foundFiles (project : Project) (tree : FileTree) :
    ((project.foundFiles tree).map FoundFile.key).Sublist (project.fileCandidates tree) := by
  rw [foundFiles]
  induction project.fileCandidates tree with
  | nil => exact .slnil
  | cons candidate rest ih =>
    obtain ⟨package, name⟩ := candidate
    rw [List.filterMap_cons]
    dsimp only
    split
    next => exact ih.cons _
    next found kept =>
      rw [List.map_cons, key_of_foundFile? kept]
      exact ih.cons_cons _

/-- Packages with all the files found in them. -/
def withFoundFiles (project : Project) (tree : FileTree) : Project :=
  (project.foundFiles tree).foldl addFound project

theorem PackagesAt.filled_withFoundFiles (at_places : PackagesAt tree project places)
    (sound : tree.Sound) (no_files : project.files = []) :
    Filled tree (project.withFoundFiles tree) places (project.foundFiles tree) := by
  have start : Filled tree project places [] :=
    { at_places with files := by rw [no_files]; rfl }
  refine start.foldl_addFound ?_ ?_
  · intro new member
    obtain ⟨⟨package, name⟩, candidate, kept⟩ := List.mem_filterMap.mp member
    obtain ⟨rfl, rfl⟩ := Prod.mk.inj (key_of_foundFile? kept).symm
    obtain ⟨place, here, named⟩ := at_places.mem_fileCandidates_iff.mp candidate
    obtain ⟨⟨text, at_file⟩, -⟩ := FileTree.mem_fileNames_iff.mp named
    obtain ⟨bound, -⟩ := List.getElem?_eq_some_iff.mp here
    exact ⟨bound, (Location.plain_concat.mp (sound.plain at_file)).2⟩
  · -- Files are told apart like the candidates that they come from.
    exact at_places.nodup_fileCandidates.sublist (project.map_key_foundFiles tree)

/-- Neither packages nor files bring dependencies with them. -/
theorem edges_withFoundFiles (project : Project) (tree : FileTree) :
    (project.withFoundFiles tree).edges = project.edges := by
  rw [withFoundFiles]
  induction project.foundFiles tree generalizing project with
  | nil => rfl
  | cons new rest ih =>
    rw [List.foldl_cons, ih, addFound]
    rcases project.addFile_cases new.package new.name new.module with
      ⟨_, -, added⟩ | ⟨-, added⟩
    · rw [added]
    · rw [added]
      rfl

theorem files_ofDirectory (tree : FileTree) (top : Location) :
    (ofDirectory tree top).files = [] ∧ (ofDirectory tree top).edges = [] := by
  have kept (directories : List Location) (project : Project) :
      (directories.foldl addPackageAt project).files = project.files ∧
        (directories.foldl addPackageAt project).edges = project.edges := by
    induction directories generalizing project with
    | nil => exact ⟨rfl, rfl⟩
    | cons directory rest ih =>
      obtain ⟨files_eq, edges_eq⟩ := ih (project.addPackageAt directory)
      have one : (project.addPackageAt directory).files = project.files ∧
          (project.addPackageAt directory).edges = project.edges := by
        unfold addPackageAt
        split
        next parent name _ _ =>
          rcases project.addPackage_cases parent name with ⟨_, -, added⟩ | ⟨-, added⟩
          · rw [added]
            exact ⟨rfl, rfl⟩
          · rw [added]
            exact ⟨rfl, rfl⟩
        next => exact ⟨rfl, rfl⟩
      exact ⟨files_eq.trans one.1, edges_eq.trans one.2⟩
  exact kept _ _

/-! ### What they are -/

variable {packages : Project}

/-- A candidate becomes a file exactly if it is kept. -/
theorem PackagesAt.isSome_foundFile?_iff (at_places : PackagesAt tree packages places)
    (sound : tree.Sound) {id : PackageId} {place : Location}
    (here : places[id.index]? = some place) {name : String}
    (candidate : name ∈ tree.fileNames place) :
    (packages.foundFile? tree id name).isSome ↔ tree.Keeps (place ++ [name]) := by
  obtain ⟨⟨content, at_file⟩, -⟩ := FileTree.mem_fileNames_iff.mp candidate
  have plain := (Location.plain_concat.mp (sound.plain at_file)).2
  rw [Option.isSome_iff_exists]
  simp only [at_places.foundFile?_eq_some_iff here plain, FileTree.Keeps,
    Analyzer.readModule_path_iff sound at_file rfl]
  constructor
  · rintro ⟨found, -, kept⟩ is_source
    rw [if_pos is_source] at kept
    obtain ⟨module, -, text, readable, parsed, -⟩ := kept
    exact ⟨text, module.imports, readable, parsed⟩
  · intro kept
    by_cases is_source : (Location.path (place ++ [name])).extension? = some "py"
    · obtain ⟨text, imports, readable, parsed⟩ := kept is_source
      refine ⟨⟨id, name, some ⟨Location.path (place ++ [name]), imports⟩⟩, rfl, ?_⟩
      rw [if_pos is_source]
      exact ⟨_, rfl, text, readable, parsed, rfl⟩
    · refine ⟨⟨id, name, none⟩, rfl, ?_⟩
      rw [if_neg is_source]

/-- The files of a package, by their names. -/
theorem Filled.labels (filled : Filled tree project places (packages.foundFiles tree))
    (at_places : PackagesAt tree packages places) {id : PackageId} {place : Location}
    (here : places[id.index]? = some place) :
    ((project.package id).files.map fun file => (project.file file).label) =
      (tree.fileNames place).filter fun name => (packages.foundFile? tree id name).isSome := by
  obtain ⟨has, -⟩ := filled.exists_package here
  have lists := filled.reachable.wellFormed.files
  have own_labels : ((project.package id).files.map fun file => (project.file file).label) =
      (project.files.filter (·.package = id)).map (·.label) := by
    rw [filled.reachable.entries.files has, List.map_map]
    apply List.map_congr_left
    intro file member
    obtain ⟨number, old, rfl⟩ := (project.mem_files_iff file).mp (List.mem_of_mem_filter member)
    exact congrArg (fun other => (project.file other).label) (lists.number old)
  have as_found : (project.files.filter (·.package = id)).map (·.label) =
      ((packages.foundFiles tree).filter (·.package = id)).map (·.name) := by
    rw [← filled.files, List.filter_map, List.map_map]
    rfl
  -- Of all that was found, the part of this package comes from its own candidates.
  have own_part : (packages.foundFiles tree).filter (·.package = id) =
      (tree.fileNames place).filterMap fun name => packages.foundFile? tree id name := by
    have group := at_places.filter_fileCandidates here
    have step : (packages.foundFiles tree).filter (·.package = id) =
        ((packages.fileCandidates tree).filter (·.1 = id)).filterMap fun (package, name) =>
          packages.foundFile? tree package name := by
      rw [foundFiles, List.filter_filterMap, List.filterMap_filter]
      apply List.filterMap_congr
      rintro ⟨package, name⟩ -
      dsimp only
      cases kept : packages.foundFile? tree package name with
      | none => split <;> rfl
      | some found =>
        have package_eq := (Prod.mk.inj (key_of_foundFile? kept)).1
        by_cases same : package = id
        · simp [same, package_eq]
        · simp [same, package_eq]
    rw [step, group, List.filterMap_map]
    rfl
  rw [own_labels, as_found, own_part]
  induction tree.fileNames place with
  | nil => rfl
  | cons name rest ih =>
    cases kept : packages.foundFile? tree id name with
    | none => rw [List.filterMap_cons_none kept, List.filter_cons_of_neg (by simp [kept]), ih]
    | some found =>
      rw [List.filterMap_cons_some kept, List.filter_cons_of_pos (by simp [kept]), List.map_cons,
        ih, (Prod.mk.inj (key_of_foundFile? kept)).2]

theorem PackagesAt.file_path (at_places : PackagesAt tree project places) {id : PackageId}
    {place : Location} (here : places[id.index]? = some place) {file : FileId}
    (member : file ∈ (project.package id).files) :
    (project.file file).path = Location.path (place ++ [(project.file file).label]) := by
  obtain ⟨has, -⟩ := at_places.exists_package here
  obtain ⟨has_file, owner⟩ := (at_places.reachable.wellFormed.files.mem_files_iff has).mp member
  rw [at_places.reachable.entries.file_path has_file, owner]
  exact at_places.child_path here (at_places.reachable.entries.file_name has_file)

theorem Filled.mem_labels_iff (filled : Filled tree project places (packages.foundFiles tree))
    (at_places : PackagesAt tree packages places) (sound : tree.Sound) {id : PackageId}
    {place : Location} (here : places[id.index]? = some place) (name : String) :
    (∃ file ∈ (project.package id).files, (project.file file).label = name) ↔
      (∃ text, tree.node? (place ++ [name]) = some (.file text)) ∧
        FileTree.isHidden name = false ∧ tree.Keeps (place ++ [name]) := by
  rw [← List.mem_map, filled.labels at_places here, List.mem_filter, ← and_assoc,
    ← FileTree.mem_fileNames_iff]
  exact and_congr_right fun candidate =>
    at_places.isSome_foundFile?_iff sound here candidate

/-- Where a file of the project stands, and which module it has. -/
theorem Filled.file (filled : Filled tree project places (packages.foundFiles tree))
    (at_places : PackagesAt tree packages places) (sound : tree.Sound) {id : FileId}
    (has : project.HasFile id) :
    ∃ place text, place ∈ places ∧
      tree.node? (place ++ [(project.file id).label]) = some (.file text) ∧
      (project.file id).path = Location.path (place ++ [(project.file id).label]) ∧
      if (project.file id).path.extension? = some "py" then
        ∃ module, (project.file id).module = some module ∧
          Analyzer.readModule tree (project.file id).path = .ok module
      else (project.file id).module = none := by
  have member : (project.file id).found ∈ packages.foundFiles tree := by
    rw [← filled.files]
    exact List.mem_map_of_mem ((project.mem_files_iff _).mpr ⟨id, has, rfl⟩)
  obtain ⟨⟨package, name⟩, candidate, kept⟩ := List.mem_filterMap.mp member
  obtain ⟨package_eq, name_eq⟩ := Prod.mk.inj (key_of_foundFile? kept)
  obtain ⟨place, here, named⟩ := at_places.mem_fileCandidates_iff.mp candidate
  obtain ⟨⟨text, at_file⟩, -⟩ := FileTree.mem_fileNames_iff.mp named
  have plain := (Location.plain_concat.mp (sound.plain at_file)).2
  have label_eq : (project.file id).label = name := name_eq
  have owner_eq : (project.file id).package = package := package_eq
  have path_eq : (project.file id).path = Location.path (place ++ [name]) := by
    rw [filled.reachable.entries.file_path has, label_eq, owner_eq]
    exact filled.child_path here plain
  rw [label_eq, path_eq]
  exact ⟨place, text, List.mem_of_getElem? here, at_file, rfl,
    ((at_places.foundFile?_eq_some_iff here plain).mp kept).2⟩

/-- Every kept file of a package is a file of the project. -/
theorem Filled.exists_file (filled : Filled tree project places (packages.foundFiles tree))
    (at_places : PackagesAt tree packages places) (sound : tree.Sound) {place : Location}
    (among : place ∈ places) {name : String} {text : Option String}
    (at_file : tree.node? (place ++ [name]) = some (.file text))
    (shown : FileTree.isHidden name = false) (kept : tree.Keeps (place ++ [name])) :
    ∃ file, project.HasFile file ∧
      (project.file file).path = Location.path (place ++ [name]) := by
  obtain ⟨index, here⟩ := List.getElem?_of_mem among
  have at_index : places[(PackageId.mk index).index]? = some place := here
  obtain ⟨file, member, rfl⟩ :=
    (filled.mem_labels_iff at_places sound at_index name).mpr ⟨⟨text, at_file⟩, shown, kept⟩
  obtain ⟨has, -⟩ := filled.exists_package at_index
  obtain ⟨has_file, -⟩ := (filled.reachable.wellFormed.files.mem_files_iff has).mp member
  exact ⟨file, has_file, filled.file_path at_index member⟩

end Project

end PackageAtlas
