import PackageAtlas.Proofs.FileTree.Shapes
import PackageAtlas.Proofs.Project.Outline

/-!
# Changing the text of one file

The text of a file decides whether the file is kept, what it imports, and nothing else. Where it is
not kept in one of two trees, the project of that tree is the other one without the file. Where it
is kept in both, at most its imports differ, and the dependencies that start there.
-/
namespace PackageAtlas

open FileTree

variable {file : Location} {first second : FileTree} {origin : Analyzer}

/-! ### Reading files -/

/-- Any other file is read alike in both trees. -/
theorem FileTree.SameBut.readModule_eq (same : SameBut file first second) (sound : first.Sound)
    {location : Location} {node : Node} (found : first.node? location = some node)
    (no_link : node.isLink = false) (other : location ≠ file) :
    Analyzer.readModule first location.path = Analyzer.readModule second location.path := by
  have located := sound.locate?_path found no_link
  have canonical := canonicalOrSelf_of_locate? located
  have texts : first.text? location.path = second.text? location.path :=
    same.text?_eq located other
  unfold Analyzer.readModule
  rw [← same.canonicalOrSelf_eq]
  dsimp only at canonical ⊢
  rw [canonical, texts]

/-- A file without the imports of its text, if it is the one at a path. -/
def SourceFile.withoutImports (source : SourceFile) (path : Path) : SourceFile :=
  if source.path = path then
    { source with module := source.module.map fun module => { module with imports := [] } }
  else source

namespace SourceFile

variable (source : SourceFile) (path : Path)

@[simp]
theorem id_withoutImports : (source.withoutImports path).id = source.id := by
  unfold withoutImports
  split <;> rfl

@[simp]
theorem path_withoutImports : (source.withoutImports path).path = source.path := by
  unfold withoutImports
  split <;> rfl

@[simp]
theorem package_withoutImports : (source.withoutImports path).package = source.package := by
  unfold withoutImports
  split <;> rfl

theorem unnumbered_withoutImports :
    (source.withoutImports path).unnumbered = source.unnumbered.withoutImports path := by
  by_cases here : source.path = path <;> simp [withoutImports, unnumbered, here]

variable {source path}

theorem withoutImports_of_ne (other : source.path ≠ path) :
    source.withoutImports path = source := if_neg other

/-- Files are the same if they are the same but for their numbers, and have one number. -/
theorem eq_of_unnumbered {files others : List SourceFile}
    (same : files.map unnumbered = others.map unnumbered)
    (same_ids : files.map (·.id) = others.map (·.id)) : files = others := by
  have inj : Function.Injective fun source : SourceFile => (source.unnumbered, source.id) := by
    rintro ⟨⟩ ⟨⟩ both
    simp_all [unnumbered]
  have pairs := congrArg₂ List.zip same same_ids
  rw [List.zip_map', List.zip_map'] at pairs
  exact List.map_injective_iff.mpr inj pairs

end SourceFile

namespace Project

variable {packages : Project} {places : List Location}

theorem fileCandidates_of_sameBut (same : SameBut file first second) (packages : Project) :
    packages.fileCandidates first = packages.fileCandidates second := by
  unfold fileCandidates
  refine List.flatMap_congr fun package _ => ?_
  have twins := same.locate? package.path
  generalize first.locate? package.path = a, second.locate? package.path = b at twins
  cases twins with
  | none => rfl
  | some twin =>
    dsimp only
    rw [twin.location, same.fileNames_eq]

theorem ofDirectory_of_sameBut (same : SameBut file first second) (top : Location) :
    ofDirectory first top = ofDirectory second top := by
  rw [ofDirectory, ofDirectory, same.markedDirectories_eq]

/-- Where a candidate stands, and what is there. -/
theorem PackagesAt.candidate (at_places : PackagesAt first packages places) (sound : first.Sound)
    {id : PackageId} {name : String} (candidate : (id, name) ∈ packages.fileCandidates first) :
    ∃ place text, places[id.index]? = some place ∧ name ∈ first.fileNames place ∧
      first.node? (place ++ [name]) = some (.file text) ∧ PlainName name ∧
      (packages.package id).path.child name = Location.path (place ++ [name]) := by
  obtain ⟨place, here, named⟩ := at_places.mem_fileCandidates_iff.mp candidate
  obtain ⟨⟨text, at_file⟩, -⟩ := mem_fileNames_iff.mp named
  have plain := (Location.plain_concat.mp (sound.plain at_file)).2
  exact ⟨place, text, here, named, at_file, plain, at_places.child_path here plain⟩

theorem path_found {id : PackageId} {name : String} {tree : FileTree} {new : FoundFile}
    (kept : packages.foundFile? tree id name = some new) :
    (packages.found new).path = (packages.package id).path.child name := by
  obtain ⟨rfl, rfl⟩ := Prod.mk.inj (key_of_foundFile? kept).symm
  rfl

/-- A candidate other than the file in which the trees differ is found alike. -/
theorem PackagesAt.foundFile?_of_sameBut (at_places : PackagesAt first packages places)
    (sound : first.Sound) (same : SameBut file first second) {id : PackageId} {name : String}
    (candidate : (id, name) ∈ packages.fileCandidates first)
    (other : (packages.package id).path.child name ≠ file.path) :
    packages.foundFile? first id name = packages.foundFile? second id name := by
  obtain ⟨place, text, -, -, at_file, -, path_eq⟩ := at_places.candidate sound candidate
  have apart : place ++ [name] ≠ file := by
    rintro rfl
    exact other path_eq
  unfold foundFile?
  dsimp only
  rw [path_eq, same.readModule_eq sound at_file rfl apart]

/-- Of the files that are found, all but the one in which the trees differ are the same. -/
theorem PackagesAt.filter_found (at_places : PackagesAt first packages places)
    (sound : first.Sound) (same : SameBut file first second) :
    ((packages.foundFiles first).map packages.found).filter (·.path ≠ file.path) =
      ((packages.foundFiles second).map packages.found).filter (·.path ≠ file.path) := by
  rw [foundFiles, foundFiles, ← fileCandidates_of_sameBut same, List.map_filterMap,
    List.map_filterMap, List.filter_filterMap, List.filter_filterMap]
  apply List.filterMap_congr
  rintro ⟨id, name⟩ candidate
  dsimp only
  by_cases here : (packages.package id).path.child name = file.path
  · -- The file itself is left out on both sides, whether it is kept or not.
    have left_out (tree : FileTree) : ((packages.foundFile? tree id name).map packages.found).filter
        (fun found => decide (found.path ≠ file.path)) = none := by
      cases kept : packages.foundFile? tree id name with
      | none => rfl
      | some new => simp [path_found kept, here]
    rw [left_out, left_out]
  · rw [at_places.foundFile?_of_sameBut sound same candidate here]

/-- A file that is not kept is not found. -/
theorem PackagesAt.filter_found_of_not_keeps (at_places : PackagesAt first packages places)
    (sound : first.Sound) (plain : file.Plain) (lost : ¬ first.Keeps file) :
    ((packages.foundFiles first).map packages.found).filter (·.path ≠ file.path) =
      (packages.foundFiles first).map packages.found := by
  refine List.filter_eq_self.mpr fun found member => decide_eq_true fun here => ?_
  obtain ⟨new, among, rfl⟩ := List.mem_map.mp member
  obtain ⟨⟨id, name⟩, candidate, kept⟩ := List.mem_filterMap.mp among
  obtain ⟨place, text, at_id, named, at_file, -, path_eq⟩ := at_places.candidate sound candidate
  rw [path_found kept, path_eq] at here
  have location_eq := Location.eq_of_same (sound.plain at_file) plain
    (congrArg Path.components here)
  apply lost
  rw [← location_eq, ← at_places.isSome_foundFile?_iff sound at_id named]
  exact Option.isSome_of_eq_some kept

/-- What a file imports is found alike in both trees. -/
theorem leads_of_sameBut (same : SameBut file first second) (origin : Analyzer)
    (source : SourceFile) : leads origin first source = leads origin second source := by
  unfold leads
  simp only [same.candidates_eq, same.search_eq]

theorem outlineOf_of_sameBut (same : SameBut file first second) (packages : Project)
    (origin : Analyzer) (files : List SourceFile) :
    packages.outlineOf origin first files = packages.outlineOf origin second files := by
  have edges_eq : importEdges origin first files = importEdges origin second files := by
    unfold importEdges
    simp only [leads_of_sameBut same]
  rw [outlineOf, outlineOf, edges_eq]

/-! ### Projects but for the imports of one file -/

/-- The project without the imports of a file and the dependencies that start there. -/
def withoutImports (project : Project) (path : Path) : Project :=
  { project with
    files := project.files.map (·.withoutImports path)
    edges := project.edges.filter fun edge => (project.file edge.1).path ≠ path }

variable {p q : Project} {path : Path}

theorem file_withoutImports (project : Project) (path : Path) (id : FileId) :
    (project.withoutImports path).file id = (project.file id).withoutImports path := by
  rw [Project.file, Project.file, withoutImports, List.getElem?_map]
  cases project.files[id.index]? with
  | some source => rfl
  | none =>
    rw [Option.map_none, Option.getD_none, SourceFile.withoutImports]
    split <;> rfl

theorem map_id_withoutImports (project : Project) (path : Path) :
    (project.withoutImports path).files.map (·.id) = project.files.map (·.id) := by
  rw [withoutImports, List.map_map]
  simp only [Function.comp_def, SourceFile.id_withoutImports]

theorem fileAt?_withoutImports (project : Project) (path : Path) :
    (project.withoutImports path).fileAt? = project.fileAt? := by
  funext wanted
  rw [fileAt?, fileAt?, withoutImports, List.find?_map, Option.map_map]
  simp only [Function.comp_def, SourceFile.path_withoutImports, SourceFile.id_withoutImports]

theorem fileAt?_of_files (files : (p.withoutImports path).files = (q.withoutImports path).files) :
    p.fileAt? = q.fileAt? := by
  rw [← fileAt?_withoutImports p path, ← fileAt?_withoutImports q path]
  funext wanted
  rw [fileAt?, fileAt?, files]

theorem file_of_files (files : (p.withoutImports path).files = (q.withoutImports path).files)
    (id : FileId) : (p.file id).withoutImports path = (q.file id).withoutImports path := by
  rw [← file_withoutImports, ← file_withoutImports, Project.file, Project.file, files]

/-- What a package lists is known from the packages and numbers of the files. -/
theorem packages_eq (reachable : Reachable PlainName p) (path : Path) :
    p.packages = p.frame.packages.map fun package =>
      { package with
        files := ((p.withoutImports path).files.filter (·.package = package.id)).map (·.id) } := by
  have listed (id : PackageId) :
      ((p.withoutImports path).files.filter (·.package = id)).map (·.id) =
        (p.files.filter (·.package = id)).map (·.id) := by
    rw [withoutImports, List.filter_map, List.map_map]
    simp only [Function.comp_def, SourceFile.package_withoutImports, SourceFile.id_withoutImports]
  rw [frame, List.map_map]
  refine (List.map_id _).symm.trans (List.map_congr_left fun package member => ?_)
  obtain ⟨id, has, rfl⟩ := (mem_packages_iff p package).mp member
  have number : (p.package id).unlisted.id = id := reachable.wellFormed.tree.number has
  have own_files : ((p.withoutImports path).files.filter
      (·.package = (p.package id).unlisted.id)).map (·.id) = (p.package id).files := by
    rw [listed, number, reachable.entries.files has]
  rw [Function.comp_apply, own_files]
  rfl

theorem withoutImports_eq (reachable_p : Reachable PlainName p)
    (reachable_q : Reachable PlainName q) (frames : p.frame = q.frame)
    (files : (p.withoutImports path).files = (q.withoutImports path).files)
    (edges : (p.withoutImports path).edges = (q.withoutImports path).edges) :
    p.withoutImports path = q.withoutImports path := by
  have packages : p.packages = q.packages := by
    rw [packages_eq reachable_p path, packages_eq reachable_q path, frames, files]
  have scope : p.scope = q.scope := (congrArg Project.scope frames :)
  have policies : p.policies = q.policies := (congrArg Project.policies frames :)
  rw [withoutImports, withoutImports, Project.mk.injEq]
  exact ⟨packages, files, edges, scope, policies⟩

/-! ### Builds -/

variable {root : Path} {top otherTop : Place}

theorem PackagesAt.of_sameBut (at_places : PackagesAt first packages places)
    (same : SameBut file first second) : PackagesAt second packages places where
  reachable := at_places.reachable
  paths := at_places.paths
  plain := at_places.plain
  located := fun {place} member => by
    obtain ⟨node, located⟩ := at_places.located member
    have twins := same.locate? place.path
    rw [located] at twins
    generalize second.locate? place.path = other at twins
    cases twins with
    | @some _ there twin =>
      have here : place = there.location := twin.location
      exact ⟨there.node, by rw [here]⟩

/-- Whatever a file imports, the rest of its module is known from where it stands. -/
theorem PackagesAt.module_found {tree : FileTree} (at_places : PackagesAt tree packages places)
    (sound : tree.Sound) {id : PackageId} {place : Location} {name : String}
    {node : FileTree.Node} (here : places[id.index]? = some place)
    (found : tree.node? (place ++ [name]) = some node) (no_link : node.isLink = false)
    {new : FoundFile}
    (kept : packages.foundFile? tree id name = some new) :
    new.module.map (fun module => { module with imports := [] }) =
      if (Location.path (place ++ [name])).extension? = some "py" then
        some ⟨Location.path (place ++ [name]), []⟩
      else none := by
  have plain := (Location.plain_concat.mp (sound.plain found)).2
  obtain ⟨-, module⟩ := (at_places.foundFile?_eq_some_iff here plain).mp kept
  split at module
  next source =>
    obtain ⟨read, is_read, read_ok⟩ := module
    obtain ⟨-, -, -, path_eq⟩ := (Analyzer.readModule_path_iff sound found no_link).mp read_ok
    rw [is_read, if_pos source, Option.map_some, path_eq]
  next other => rw [module, if_neg other, Option.map_none]

/-- Where the file is kept in both trees, it is found alike but for its imports. -/
theorem PackagesAt.found_withoutImports (at_places : PackagesAt first packages places)
    (sound : first.Sound) (same : SameBut file first second) (plain : file.Plain)
    (kept : first.Keeps file) (kept_too : second.Keeps file) :
    ((packages.foundFiles first).map packages.found).map (·.withoutImports file.path) =
      ((packages.foundFiles second).map packages.found).map (·.withoutImports file.path) := by
  rw [foundFiles, foundFiles, ← fileCandidates_of_sameBut same, List.map_map, List.map_map,
    List.map_filterMap, List.map_filterMap]
  apply List.filterMap_congr
  rintro ⟨id, name⟩ candidate
  dsimp only
  by_cases here : (packages.package id).path.child name = file.path
  · obtain ⟨place, text, at_id, named, at_file, -, path_eq⟩ :=
      at_places.candidate sound candidate
    obtain rfl : place ++ [name] = file := Location.eq_of_same (sound.plain at_file) plain
      (congrArg Path.components (path_eq.symm.trans here))
    have others := at_places.of_sameBut same
    obtain ⟨other, at_other, shape⟩ := same.exists_node at_file
    have not_link : other.isLink = false := by cases other <;> first | rfl | cases shape
    obtain ⟨new, is_new⟩ := Option.isSome_iff_exists.mp
      ((at_places.isSome_foundFile?_iff sound at_id named).mpr kept)
    obtain ⟨new_too, is_new_too⟩ := Option.isSome_iff_exists.mp
      ((others.isSome_foundFile?_iff (same.sound sound) at_id
        (same.fileNames_eq ▸ named)).mpr kept_too)
    have modules := (at_places.module_found sound at_id at_file rfl is_new).trans
      (others.module_found (same.sound sound) at_id at_other not_link is_new_too).symm
    have key := key_of_foundFile? is_new
    have key_too := key_of_foundFile? is_new_too
    rw [is_new, is_new_too]
    obtain ⟨package, label, module⟩ := new
    obtain ⟨package_too, label_too, module_too⟩ := new_too
    cases key
    cases key_too
    have own_path (module : Option ParsedModule) :
        (packages.found ⟨package, label, module⟩).path = (place ++ [label]).path := path_eq
    simp only [Option.map_some, Function.comp_apply, SourceFile.withoutImports, own_path, if_true]
    simp only [found, freshFile, SourceFile.unnumbered, modules]
  · rw [at_places.foundFile?_of_sameBut sound same candidate here]

/-- Where the file is kept in both trees, the files are the same but for its imports. -/
theorem files_of_sameBut (origin : Analyzer) (sound : first.Sound)
    (same : SameBut file first second) (plain : file.Plain)
    (here : top.location = otherTop.location) (found : first.locate? root = some top)
    (found_too : second.locate? root = some otherTop)
    (kept : first.Keeps file) (kept_too : second.Keeps file) :
    ((uncached origin first top.location).withoutImports file.path).files =
      ((uncached origin second otherTop.location).withoutImports file.path).files := by
  have at_places := packagesAt_ofDirectory sound found
  have filled := @filled_uncached origin _ _ _ sound found
  have filled_too := @filled_uncached origin _ _ _ (same.sound sound) found_too
  have files := unnumbered_files filled.reachable (frame_uncached origin first top.location)
  have files_too := unnumbered_files filled_too.reachable
    (frame_uncached origin second otherTop.location)
  rw [filled.files] at files
  rw [filled_too.files, ← here, ← ofDirectory_of_sameBut same] at files_too
  have found_alike := at_places.found_withoutImports sound same plain kept kept_too
  rw [← files, ← files_too] at found_alike
  rw [here] at *
  generalize uncached origin first otherTop.location = p at *
  generalize uncached origin second otherTop.location = q at *
  have unnumbered (project : Project) :
      (project.withoutImports file.path).files.map SourceFile.unnumbered =
        (project.files.map SourceFile.unnumbered).map (·.withoutImports file.path) := by
    rw [withoutImports, List.map_map, List.map_map]
    exact List.map_congr_left fun source _ => source.unnumbered_withoutImports file.path
  refine SourceFile.eq_of_unnumbered ?_ ?_
  · rw [unnumbered, unnumbered, found_alike]
  · -- Numbers count the files, so it is enough that there are as many of them.
    have lengths := congrArg List.length found_alike
    simp only [List.length_map] at lengths
    rw [map_id_withoutImports, map_id_withoutImports,
      map_file_ids filled.reachable.wellFormed.files,
      map_file_ids filled_too.reachable.wellFormed.files, lengths]

/-- Where the file is kept in both trees, the dependencies of all other files are the same. -/
theorem edges_of_sameBut (sound : first.Sound) (same : SameBut file first second)
    (found : first.locate? root = some top) (found_too : second.locate? root = some otherTop)
    (files : ((uncached origin first top.location).withoutImports file.path).files =
      ((uncached origin second otherTop.location).withoutImports file.path).files) :
    ((uncached origin first top.location).withoutImports file.path).edges =
      ((uncached origin second otherTop.location).withoutImports file.path).edges := by
  have same_ids := congrArg (List.map SourceFile.id) files
  rw [map_id_withoutImports, map_id_withoutImports] at same_ids
  have same_lookup := fileAt?_of_files files
  have edges_first := edges_uncached origin sound found
  have edges_second := edges_uncached origin (same.sound sound) found_too
  have same_file := file_of_files files
  rw [withoutImports, withoutImports]
  dsimp only
  rw [edges_first, edges_second, same_ids, List.filter_flatMap, List.filter_flatMap]
  refine List.flatMap_congr fun id _ => ?_
  rw [importedFiles_eq, importedFiles_eq, same_lookup]
  generalize uncached origin first top.location = p at *
  generalize uncached origin second otherTop.location = q at *
  have same_path : (p.file id).path = (q.file id).path := by
    have paths := congrArg SourceFile.path (same_file id)
    rwa [SourceFile.path_withoutImports, SourceFile.path_withoutImports] at paths
  rw [List.filter_map, List.filter_map]
  by_cases here : (p.file id).path = file.path
  · simp [Function.comp_def, here, ← same_path]
  · have unchanged := same_file id
    rw [SourceFile.withoutImports_of_ne here,
      SourceFile.withoutImports_of_ne (same_path ▸ here)] at unchanged
    rw [unchanged, leads_of_sameBut same]
    simp only [Function.comp_def, unchanged]

/-- Where the file is kept in both trees, the projects are the same but for its imports. -/
theorem withoutImports_of_sameBut (origin : Analyzer) (sound : first.Sound)
    (same : SameBut file first second) (plain : file.Plain)
    (here : top.location = otherTop.location) (found : first.locate? root = some top)
    (found_too : second.locate? root = some otherTop)
    (kept : first.Keeps file) (kept_too : second.Keeps file) :
    (uncached origin first top.location).withoutImports file.path =
      (uncached origin second otherTop.location).withoutImports file.path := by
  have reachable := (@filled_uncached origin _ _ _ sound found).reachable
  have reachable_too := (@filled_uncached origin _ _ _ (same.sound sound) found_too).reachable
  have frames : (uncached origin first top.location).frame =
      (uncached origin second otherTop.location).frame := by
    rw [frame_uncached, frame_uncached, here, ofDirectory_of_sameBut same]
  have files := files_of_sameBut origin sound same plain here found found_too kept kept_too
  have edges := edges_of_sameBut sound same found found_too files
  exact withoutImports_eq reachable reachable_too frames files edges

/-- The text of one file affects no more than that file. -/
theorem build_of_sameBut (sound : first.Sound) (same : SameBut file first second)
    {text : Option String} (there : first.node? file = some (.file text))
    (searchPaths : List Path) (pythonVersion : Nat) (root : Path) :
    let before := (build first root (Analyzer.new first searchPaths pythonVersion)).1
    let after := (build second root (Analyzer.new second searchPaths pythonVersion)).1
    before = none ∧ after = none ∨
      ∃ p q, before = some p ∧ after = some q ∧
        p.outline.without file.path = q.outline.without file.path ∧
        (¬ first.Keeps file → p.outline = q.outline.without file.path) ∧
        (¬ second.Keeps file → q.outline = p.outline.without file.path) ∧
        (first.Keeps file → second.Keeps file →
          p.withoutImports file.path = q.withoutImports file.path) := by
  intro before after
  have twins := same.locate? root
  cases found : first.locate? root with
  | none =>
    rw [found] at twins
    generalize missing : second.locate? root = place at twins
    cases twins with
    | none =>
      exact Or.inl ⟨congrArg Prod.fst (build_of_missing found),
        congrArg Prod.fst (build_of_missing missing)⟩
  | some top =>
    rw [found] at twins
    generalize found_too : second.locate? root = place at twins
    cases twins with
    | @some _ other_top twin =>
      -- Nothing was cached before either build, so each gives the project without caches.
      have built := (build_of_faithful sound
        (Analyzer.faithful_new first searchPaths pythonVersion) found).1
      have built_too := (build_of_faithful (same.sound sound)
        (Analyzer.faithful_new second searchPaths pythonVersion) found_too).1
      refine Or.inr ⟨_, _, built, built_too, ?_⟩
      rw [← same.new_eq]
      generalize Analyzer.new first searchPaths pythonVersion = origin
      have at_places := packagesAt_ofDirectory sound found
      have plain := sound.plain there
      have outline_first := outline_uncached origin sound found
      have outline_second := outline_uncached origin (same.sound sound) found_too
      rw [← twin.location, ← ofDirectory_of_sameBut same, ← outlineOf_of_sameBut same]
        at outline_second
      have others := at_places.filter_found sound same
      rw [← twin.location, outline_first, outline_second, without_outlineOf, without_outlineOf]
      refine ⟨by rw [others], fun lost => ?first, fun lost => ?second, fun kept kept_too => ?both⟩
      case first => rw [← others, at_places.filter_found_of_not_keeps sound plain lost]
      case second =>
        have at_places_too := at_places.of_sameBut same
        rw [others, at_places_too.filter_found_of_not_keeps (same.sound sound) plain lost]
      case both =>
        have alike := withoutImports_of_sameBut origin sound same plain twin.location found
          found_too kept kept_too
        rwa [← twin.location] at alike

/-- A package stays when its marker is no text any more, and so does the one inside whose marker is
a link to it. Only the file itself is lost. -/
theorem storefront_unreadable_marker :
    let broken := storefront.insert ["shop", "__init__.py"] (.file none)
    ∃ p q, (build storefront ⟨"/shop"⟩ (Analyzer.new storefront [] 12)).1 = some p ∧
      (build broken ⟨"/shop"⟩ (Analyzer.new broken [] 12)).1 = some q ∧
      q.outline = p.outline.without ⟨"/shop/__init__.py"⟩ ∧
      q.outline.packages = p.outline.packages := by
  intro broken
  have there : storefront.node? ["shop", "__init__.py"] = some (.file (some "")) := rfl
  have same : SameBut ["shop", "__init__.py"] storefront broken := sameBut_insert there none
  have lost : ¬ broken.Keeps ["shop", "__init__.py"] := by
    intro kept
    obtain ⟨text, -, readable, -⟩ := kept (by decide +kernel)
    have unreadable : broken.text? (Location.path ["shop", "__init__.py"]) = none := by
      decide +kernel
    rw [unreadable] at readable
    cases readable
  rcases build_of_sameBut storefront_sound same there [] 12 ⟨"/shop"⟩ with
    ⟨missing, -⟩ | ⟨p, q, built, built_too, -, -, without, -⟩
  · obtain ⟨place, found, -⟩ := exists_storefront
    have fresh := Analyzer.faithful_new storefront [] 12
    rw [(build_of_faithful storefront_sound fresh found).1] at missing
    cases missing
  · have outline_eq := without lost
    exact ⟨p, q, built, built_too, outline_eq, (congrArg Outline.packages outline_eq :)⟩

end Project

end PackageAtlas
