import PackageAtlas.Proofs.Project.ImportEdges
import PackageAtlas.Proofs.Project.SingleNames

/-!
# Built projects without the numbers of their files

A file that is left out moves the numbers of all files behind it. In the outline of a project files
are known by their paths, and the outline of a built project is read off its packages and the files
found in them. A file is taken out of it by taking it out of these files.
-/
namespace PackageAtlas

def Package.unlisted (package : Package) : Package := { package with files := [] }

def SourceFile.unnumbered (file : SourceFile) : SourceFile := { file with id := ⟨0⟩ }

/-- A project in which files have paths in place of numbers. -/
structure Outline where
  packages : List Package
  /-- The files of each package. -/
  contents : List (List Path)
  files : List SourceFile
  edges : List (Path × Path)
  scope : PackageId
  policies : List Policy

/-- The outline without a file and without the dependencies that start or end there. -/
def Outline.without (outline : Outline) (path : Path) : Outline :=
  { outline with
    contents := outline.contents.map fun paths => paths.filter (· ≠ path)
    files := outline.files.filter (·.path ≠ path)
    edges := outline.edges.filter fun edge => edge.1 ≠ path ∧ edge.2 ≠ path }

namespace Project

def outline (project : Project) : Outline where
  packages := project.packages.map Package.unlisted
  contents := project.packages.map fun package =>
    package.files.map fun file => (project.file file).path
  files := project.files.map SourceFile.unnumbered
  edges := project.edges.map fun edge => ((project.file edge.1).path, (project.file edge.2).path)
  scope := project.scope
  policies := project.policies

/-! ### What files and dependencies leave as it is -/

/-- A project before it has files. -/
def frame (project : Project) : Project :=
  { project with packages := project.packages.map Package.unlisted, files := [], edges := [] }

variable {project packages : Project}

theorem package_frame (project : Project) (id : PackageId) :
    project.frame.package id = (project.package id).unlisted := by
  rw [package, package, frame, List.getElem?_map]
  cases project.packages[id.index]? <;> rfl

theorem frame_addFound (new : FoundFile) : (project.addFound new).frame = project.frame := by
  rw [addFound]
  rcases project.addFile_cases new.package new.name new.module with ⟨_, -, added⟩ | ⟨-, added⟩
  · rw [added]
  · rw [added, frame, frame, withFile]
    congr 1
    refine map_modify ?_ new.package.index project.packages
    intro package
    rfl

theorem frame_withFoundFiles (project : Project) (tree : FileTree) :
    (project.withFoundFiles tree).frame = project.frame := by
  rw [withFoundFiles]
  induction project.foundFiles tree generalizing project with
  | nil => rfl
  | cons new rest ih => rw [List.foldl_cons, ih, frame_addFound]

theorem frame_addDependencies (edges : List (FileId × FileId)) :
    (project.addDependencies edges).frame = project.frame := by
  induction edges generalizing project with
  | nil => rfl
  | cons edge rest ih =>
    have one : (project.addDependency edge.1 edge.2).frame = project.frame := by
      unfold Project.addDependency
      split <;> rfl
    exact ih.trans one

variable {origin : Analyzer} {tree : FileTree} {root : Path} {top : FileTree.Place}

theorem frame_uncached (origin : Analyzer) (tree : FileTree) (top : Location) :
    (uncached origin tree top).frame = (ofDirectory tree top).frame := by
  rw [uncached, withTargets_eq, frame_addDependencies]
  exact frame_withFoundFiles _ tree

/-! ### Files -/

/-- The file that is found in one of the packages, before it gets its number. -/
def found (packages : Project) (new : FoundFile) : SourceFile :=
  (packages.freshFile new.package new.name new.module).unnumbered

theorem unnumbered_files (reachable : Reachable PlainName project)
    (same : project.frame = packages.frame) :
    project.files.map SourceFile.unnumbered =
      (project.files.map SourceFile.found).map packages.found := by
  rw [List.map_map]
  refine List.map_congr_left fun file member => ?_
  obtain ⟨id, has, rfl⟩ := (mem_files_iff project file).mp member
  have owner : (project.package (project.file id).package).unlisted =
      (packages.package (project.file id).package).unlisted := by
    rw [← package_frame, same, package_frame]
  have path_eq := congrArg Package.path owner
  have relative_eq := congrArg Package.relative owner
  dsimp only [Package.unlisted] at path_eq relative_eq
  have path := reachable.entries.file_path has
  have relative := reachable.stepwise.file has
  rw [path_eq] at path
  rw [relative_eq] at relative
  rw [Function.comp_apply, found, freshFile, SourceFile.unnumbered, SourceFile.unnumbered,
    SourceFile.found, ← path, ← relative]

/-- The paths of those files that are in a package. -/
def pathsIn (files : List SourceFile) (package : PackageId) : List Path :=
  (files.filter (·.package = package)).map (·.path)

/-- What a package lists, by the paths of its files. -/
theorem contents_eq (reachable : Reachable PlainName project) :
    (project.packages.map fun package => package.files.map fun file => (project.file file).path) =
      project.packages.map fun package =>
        pathsIn (project.files.map SourceFile.unnumbered) package.id := by
  refine List.map_congr_left fun package member => ?_
  obtain ⟨id, has, rfl⟩ := (mem_packages_iff project package).mp member
  have lists := reachable.wellFormed.files
  rw [reachable.wellFormed.tree.number has, reachable.entries.files has, pathsIn, List.map_map,
    List.filter_map, List.map_map]
  refine List.map_congr_left fun file inside => ?_
  obtain ⟨number, old, rfl⟩ := (project.mem_files_iff file).mp (List.mem_of_mem_filter inside)
  exact congrArg (fun other => (project.file other).path) (lists.number old)

/-! ### Dependencies -/

/-- The paths that the search finds for the imports of a file, import by import. -/
def leads (origin : Analyzer) (tree : FileTree) (file : SourceFile) : List Path :=
  match file.module, file.path.parent? with
  | some module, some directory =>
    (module.imports.flatMap (·.candidates tree directory)).filterMap fun names =>
      names.findSome? (origin.search tree · directory)
  | _, _ => []

/-- The dependencies of some files on each other, by paths. -/
def importEdges (origin : Analyzer) (tree : FileTree) (files : List SourceFile) :
    List (Path × Path) :=
  files.flatMap fun file =>
    ((leads origin tree file).filter fun path =>
      path ∈ files.map (·.path) ∧ path ≠ file.path).eraseDups.map fun path => (file.path, path)

theorem importedFiles_eq (project : Project) (origin : Analyzer) (tree : FileTree)
    (file : FileId) :
    project.importedFiles origin tree file =
      ((leads origin tree (project.file file)).filterMap project.fileAt?).filter (· ≠ file) := by
  unfold importedFiles leads
  cases (project.file file).module with
  | none => rfl
  | some module =>
    cases (project.file file).path.parent? with
    | none => rfl
    | some directory =>
      dsimp only
      rw [List.filterMap_filterMap]

theorem has_of_mem_importedFiles (lists : FileLists project) {source target : FileId}
    (member : target ∈ project.importedFiles origin tree source) : project.HasFile target := by
  rw [importedFiles_eq] at member
  obtain ⟨path, -, led⟩ := List.mem_filterMap.mp (List.mem_of_mem_filter member)
  exact ((fileAt?_eq_some_iff lists).mp led).1

theorem leads_location (sound : tree.Sound) {file : SourceFile} {path : Path}
    (member : path ∈ leads origin tree file) :
    ∃ location : Location, location.Plain ∧ path = location.path := by
  unfold leads at member
  split at member
  next =>
    obtain ⟨names, -, searched⟩ := List.mem_filterMap.mp member
    obtain ⟨name, -, answer⟩ := List.exists_of_findSome?_eq_some searched
    exact Analyzer.search_location sound answer
  next => cases member

variable {places : List Location} {candidates : Project}

/-- The path of a location leads to a file of the project exactly if it is the path of one. -/
theorem Filled.path_fileAt? (filled : Filled tree project places (candidates.foundFiles tree))
    (at_places : PackagesAt tree candidates places) (sound : tree.Sound) {location : Location}
    (plain : location.Plain) :
    ((project.fileAt? location.path).map fun target => (project.file target).path) =
      if location.path ∈ project.files.map (·.path) then some location.path else none := by
  split
  next member =>
    obtain ⟨_, among, same⟩ := List.mem_map.mp member
    obtain ⟨target, has, rfl⟩ := (mem_files_iff project _).mp among
    rw [(filled.fileAt?_path at_places sound has plain).mpr same.symm, Option.map_some, same]
  next absent =>
    rw [Option.map_eq_none_iff, Option.eq_none_iff_forall_ne_some]
    intro target led
    have has := ((fileAt?_eq_some_iff filled.reachable.wellFormed.files).mp led).1
    apply absent
    rw [(filled.fileAt?_path at_places sound has plain).mp led]
    exact List.mem_map_of_mem ((mem_files_iff project _).mpr ⟨target, has, rfl⟩)

theorem Filled.map_path_importedFiles
    (filled : Filled tree project places (candidates.foundFiles tree))
    (at_places : PackagesAt tree candidates places) (sound : tree.Sound) {file : FileId}
    (has : project.HasFile file) :
    ((project.importedFiles origin tree file).map fun target => (project.file target).path) =
      (leads origin tree (project.file file)).filter fun path =>
        path ∈ project.files.map (·.path) ∧ path ≠ (project.file file).path := by
  have lists := filled.reachable.wellFormed.files
  let reached := (leads origin tree (project.file file)).filterMap project.fileAt?
  have own_iff : ∀ target ∈ reached,
      target ≠ file ↔ (project.file target).path ≠ (project.file file).path := by
    intro target member
    obtain ⟨path, -, led⟩ := List.mem_filterMap.mp member
    have has_target := ((fileAt?_eq_some_iff lists).mp led).1
    refine not_congr ⟨fun same => by rw [same], fun same => ?_⟩
    exact lists.eq_of_same has_target has (congrArg Path.components same)
  have map_reached : (reached.map fun target => (project.file target).path) =
      (leads origin tree (project.file file)).filter (· ∈ project.files.map (·.path)) := by
    rw [List.map_filterMap, ← List.filterMap_eq_filter]
    refine List.filterMap_congr fun path member => ?_
    obtain ⟨location, plain, rfl⟩ := leads_location sound member
    rw [filled.path_fileAt? at_places sound plain, Option.guard]
    simp only [decide_eq_true_eq]
  calc ((project.importedFiles origin tree file).map fun target => (project.file target).path)
      = (reached.filter fun target =>
          (project.file target).path ≠ (project.file file).path).map fun target =>
            (project.file target).path := by
        rw [importedFiles_eq]
        congr 1
        exact List.filter_congr fun target member => decide_eq_decide.mpr (own_iff target member)
    _ = (reached.map fun target => (project.file target).path).filter
          (· ≠ (project.file file).path) := by
        rw [List.filter_map]
        rfl
    _ = _ := by
        rw [map_reached, List.filter_filter]
        refine List.filter_congr fun path _ => ?_
        rw [Bool.decide_and, Bool.and_comm]

/-- The dependencies of a built project, by paths. -/
theorem map_paths_edges (origin : Analyzer) (sound : tree.Sound)
    (found : tree.locate? root = some top) :
    ((uncached origin tree top.location).edges.map fun edge =>
      (((uncached origin tree top.location).file edge.1).path,
        ((uncached origin tree top.location).file edge.2).path)) =
      importEdges origin tree
        ((uncached origin tree top.location).files.map SourceFile.unnumbered) := by
  have at_places := packagesAt_ofDirectory sound found
  have filled : Filled tree (uncached origin tree top.location)
      (tree.packagePlaces top.location) ((ofDirectory tree top.location).foundFiles tree) :=
    filled_uncached sound found
  have edges_eq := edges_uncached origin sound found
  generalize uncached origin tree top.location = project at *
  have lists := filled.reachable.wellFormed.files
  rw [edges_eq, importEdges, List.map_flatMap, List.flatMap_map, List.flatMap_map]
  refine List.flatMap_congr fun file among => ?_
  obtain ⟨id, has, rfl⟩ := (mem_files_iff project file).mp among
  have apart : ∀ a ∈ project.importedFiles origin tree id,
      ∀ b ∈ project.importedFiles origin tree id,
        (project.file a).path = (project.file b).path → a = b := by
    intro a in_a b in_b same
    exact lists.eq_of_same (has_of_mem_importedFiles lists in_a)
      (has_of_mem_importedFiles lists in_b) (congrArg Path.components same)
  have targets_eq := eraseDups_map (f := fun target => (project.file target).path) apart
  rw [filled.map_path_importedFiles at_places sound has] at targets_eq
  rw [lists.number has, List.map_map, List.map_map]
  change _ = (((leads origin tree (project.file id)).filter fun path =>
    path ∈ project.files.map (·.path) ∧ path ≠ (project.file id).path).eraseDups).map
      fun path => ((project.file id).path, path)
  rw [targets_eq, List.map_map]
  rfl

/-- The outline that some files give with the packages that they are found in. -/
def outlineOf (packages : Project) (origin : Analyzer) (tree : FileTree)
    (files : List SourceFile) : Outline where
  packages := packages.packages.map Package.unlisted
  contents := packages.packages.map fun package => pathsIn files package.id
  files
  edges := importEdges origin tree files
  scope := packages.scope
  policies := packages.policies

/-- Without a file the edges are those of the other files. -/
theorem filter_importEdges (origin : Analyzer) (tree : FileTree) (files : List SourceFile)
    (path : Path) :
    (importEdges origin tree files).filter (fun edge => edge.1 ≠ path ∧ edge.2 ≠ path) =
      importEdges origin tree (files.filter (·.path ≠ path)) := by
  -- Of a file that stays, what leads to the file that is taken out goes.
  have kept (file : SourceFile) (stays : file.path ≠ path) :
      (((leads origin tree file).filter fun lead =>
        lead ∈ files.map (·.path) ∧ lead ≠ file.path).eraseDups.filter (· ≠ path)) =
      ((leads origin tree file).filter fun lead =>
        lead ∈ (files.filter (·.path ≠ path)).map (·.path) ∧ lead ≠ file.path).eraseDups := by
    rw [← eraseDups_filter, List.filter_filter]
    congr 1
    refine List.filter_congr fun lead _ => ?_
    rw [← Bool.decide_and, decide_eq_decide]
    simp only [List.mem_map, List.mem_filter, decide_eq_true_eq]
    constructor
    · rintro ⟨other, ⟨target, among, rfl⟩, apart⟩
      exact ⟨⟨target, ⟨among, other⟩, rfl⟩, apart⟩
    · rintro ⟨⟨target, ⟨among, other⟩, rfl⟩, apart⟩
      exact ⟨other, ⟨target, among, rfl⟩, apart⟩
  unfold importEdges
  rw [List.filter_flatMap, flatMap_filter]
  refine List.flatMap_congr fun file _ => ?_
  rw [List.filter_map]
  split
  next stays =>
    have apart := of_decide_eq_true stays
    rw [← kept file apart]
    congr 1
    exact List.filter_congr fun lead _ => by simp [apart]
  next goes => simp_all

theorem without_outlineOf (packages : Project) (origin : Analyzer) (tree : FileTree)
    (files : List SourceFile) (path : Path) :
    (packages.outlineOf origin tree files).without path =
      packages.outlineOf origin tree (files.filter (·.path ≠ path)) := by
  rw [Outline.without, outlineOf, outlineOf, filter_importEdges]
  congr 1
  dsimp only
  rw [List.map_map]
  refine List.map_congr_left fun package _ => ?_
  rw [Function.comp_apply, pathsIn, pathsIn, List.filter_map, List.filter_filter,
    List.filter_filter]
  congr 1
  refine List.filter_congr fun file _ => ?_
  exact Bool.and_comm _ _

/-- The outline of a built project comes from the files that are found in its packages. -/
theorem outline_uncached (origin : Analyzer) (sound : tree.Sound)
    (found : tree.locate? root = some top) :
    (uncached origin tree top.location).outline =
      (ofDirectory tree top.location).outlineOf origin tree
        (((ofDirectory tree top.location).foundFiles tree).map
          (ofDirectory tree top.location).found) := by
  have at_places := packagesAt_ofDirectory sound found
  have filled : Filled tree (uncached origin tree top.location)
      (tree.packagePlaces top.location) ((ofDirectory tree top.location).foundFiles tree) :=
    filled_uncached sound found
  have same := frame_uncached origin tree top.location
  have files_eq := unnumbered_files filled.reachable same
  rw [filled.files] at files_eq
  have packages_eq : (uncached origin tree top.location).packages.map Package.unlisted =
      (ofDirectory tree top.location).packages.map Package.unlisted :=
    congrArg Project.packages same
  have scope_eq : (uncached origin tree top.location).scope =
      (ofDirectory tree top.location).scope := (congrArg Project.scope same :)
  have policies_eq : (uncached origin tree top.location).policies =
      (ofDirectory tree top.location).policies := (congrArg Project.policies same :)
  have ids_eq : (uncached origin tree top.location).packages.map (·.id) =
      (ofDirectory tree top.location).packages.map (·.id) := by
    have unlisted_ids := congrArg (List.map Package.id) packages_eq
    rwa [List.map_map, List.map_map] at unlisted_ids
  have contents := congrArg (List.map (pathsIn
    ((uncached origin tree top.location).files.map SourceFile.unnumbered))) ids_eq
  rw [List.map_map, List.map_map] at contents
  rw [← files_eq, outline, outlineOf, contents_eq filled.reachable,
    map_paths_edges origin sound found, packages_eq, scope_eq, policies_eq]
  congr 1

end Project

end PackageAtlas
