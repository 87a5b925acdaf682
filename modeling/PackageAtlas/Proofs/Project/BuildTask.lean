import PackageAtlas.Proofs.Analyzer.Task
import PackageAtlas.Proofs.Project.Targets

/-!
# The build as a task

A build is one task for each file that is read and one for each file whose imports are followed, and
without caches it gives one project. A build with faithful caches gives that project too.
-/
namespace PackageAtlas

namespace Project

variable {origin analyzer : Analyzer} {tree : FileTree} {root : Path} {top : FileTree.Place}

/-! ### Tasks of a build -/

def readTask (project : Project) (package : PackageId) (name : String) :
    Task (Option FoundFile) :=
  let path := (project.package package).path.child name
  if path.extension? = some "py" then
    .parse path fun read =>
      match read with
      | .ok module => .done (some ⟨package, name, some module⟩)
      | .error _ => .done none
  else .done (some ⟨package, name, none⟩)

def firstTargetTask (context : Path) : List String → Task (Option ImportTarget)
  | [] => .done none
  | name :: rest =>
    .resolve name context fun found =>
      match found with
      | some path => .done (some ⟨name, path⟩)
      | none => firstTargetTask context rest

def targetsTask (tree : FileTree) (file : SourceFile) : Task (FileId × List ImportTarget) :=
  match file.module with
  | none => .done (file.id, [])
  | some module =>
    match module.path.parent? with
    | none => .done (file.id, [])
    | some context =>
      (Task.each (firstTargetTask context)
        (module.imports.flatMap (·.candidates tree context))).bind fun found =>
          .done (file.id, (found.filterMap id).eraseDups)

/-- A whole build, with its tasks one behind the other. -/
def buildTask (tree : FileTree) (root : Location) : Task Project :=
  let packages := ofDirectory tree root
  (Task.each (fun (package, name) => packages.readTask package name)
    (packages.fileCandidates tree)).bind fun found =>
      let files := (found.filterMap id).foldl addFound packages
      (Task.each (targetsTask tree) files.files).bind fun targets =>
        .done (files.withTargets targets)

theorem run_readTask (project : Project) (package : PackageId) (name : String) :
    (project.readTask package name).run tree = project.readFile tree package name := by
  unfold readTask readFile
  dsimp only
  split
  next =>
    rw [Task.run]
    congr 1
    funext read
    cases read <;> rfl
  next => rfl

theorem run_firstTargetTask (context : Path) (names : List String) :
    (firstTargetTask context names).run tree = Analyzer.firstTarget tree context names := by
  induction names with
  | nil => rfl
  | cons name rest ih =>
    rw [firstTargetTask, Analyzer.firstTarget, Task.run]
    congr 1
    funext found
    cases found with
    | none => exact ih
    | some path => rfl

theorem run_targetsTask (file : SourceFile) :
    (targetsTask tree file).run tree = fileTargets tree file := by
  unfold targetsTask fileTargets
  cases file.module with
  | none => rfl
  | some module =>
    dsimp only
    unfold Analyzer.targets
    cases module.path.parent? with
    | none => rfl
    | some context =>
      dsimp only
      rw [Task.run_bind, Task.run_each]
      simp only [run_firstTargetTask]
      rfl

theorem run_buildTask (location : Location) :
    (buildTask tree location).run tree = buildAt tree location := by
  unfold buildTask buildAt
  simp only [Task.run_bind, Task.run_each, run_readTask, run_targetsTask]
  rfl

/-! ### Their answers without caches -/

theorem answer_readTask (project : Project) (package : PackageId) (name : String) :
    (project.readTask package name).answer origin tree =
      project.foundFile? tree package name := by
  unfold readTask foundFile?
  dsimp only
  split
  next =>
    rw [Task.answer]
    cases Analyzer.readModule tree ((project.package package).path.child name) <;> rfl
  next => rfl

theorem answer_firstTargetTask (context : Path) (names : List String) :
    (firstTargetTask context names).answer origin tree =
      origin.contribution tree context names := by
  induction names with
  | nil => rfl
  | cons name rest ih =>
    rw [firstTargetTask, Task.answer, Analyzer.contribution, List.findSome?_cons]
    cases origin.search tree name context with
    | none => exact ih
    | some path => rfl

/-- The targets of the imports of a file, as the search finds them. -/
def searchedTargets (origin : Analyzer) (tree : FileTree) (file : SourceFile) :
    List ImportTarget :=
  match file.module with
  | none => []
  | some module =>
    match module.path.parent? with
    | none => []
    | some context =>
      ((module.imports.flatMap (·.candidates tree context)).filterMap
        (origin.contribution tree context)).eraseDups

theorem answer_targetsTask (file : SourceFile) :
    (targetsTask tree file).answer origin tree = (file.id, searchedTargets origin tree file) := by
  unfold targetsTask searchedTargets
  cases file.module with
  | none => rfl
  | some module =>
    dsimp only
    cases module.path.parent? with
    | none => rfl
    | some context =>
      dsimp only
      rw [Task.answer_bind, Task.answer_each]
      simp only [answer_firstTargetTask]
      rw [Task.answer, List.filterMap_map]
      rfl

/-- The packages and files of a directory. -/
def filesOfDirectory (tree : FileTree) (top : Location) : Project :=
  (ofDirectory tree top).withFoundFiles tree

/-- The project of a directory, with every file read and every name looked up anew. -/
def uncached (origin : Analyzer) (tree : FileTree) (top : Location) : Project :=
  let files := filesOfDirectory tree top
  files.withTargets (files.files.map fun file => (file.id, searchedTargets origin tree file))

/-- What all reading tasks of a build find makes up the files of the directory. -/
theorem foldl_answer_readTask (origin : Analyzer) (tree : FileTree) (top : Location) :
    ((((ofDirectory tree top).fileCandidates tree).map fun (package, name) =>
      ((ofDirectory tree top).readTask package name).answer origin tree).filterMap id).foldl
        addFound (ofDirectory tree top) = filesOfDirectory tree top := by
  simp only [answer_readTask, List.filterMap_map]
  rfl

theorem answer_buildTask (location : Location) :
    (buildTask tree location).answer origin tree = uncached origin tree location := by
  have files_eq := foldl_answer_readTask origin tree location
  unfold buildTask
  dsimp only
  rw [Task.answer_bind, Task.answer_each, files_eq, Task.answer_bind, Task.answer_each]
  simp only [answer_targetsTask]
  rfl

/-! ### What the tasks ask for -/

theorem filled_filesOfDirectory (sound : tree.Sound) (found : tree.locate? root = some top) :
    Filled tree (filesOfDirectory tree top.location) (tree.packagePlaces top.location)
      ((ofDirectory tree top.location).foundFiles tree) :=
  (packagesAt_ofDirectory sound found).filled_withFoundFiles sound
    (files_ofDirectory tree top.location).1

theorem edges_filesOfDirectory (tree : FileTree) (location : Location) :
    (filesOfDirectory tree location).edges = [] :=
  (edges_withFoundFiles _ _).trans (files_ofDirectory tree location).2

theorem posed_readTask (sound : tree.Sound) (found : tree.locate? root = some top)
    {candidate : PackageId × String}
    (member : candidate ∈ (ofDirectory tree top.location).fileCandidates tree) :
    ((ofDirectory tree top.location).readTask candidate.1 candidate.2).Posed origin tree := by
  have at_places := packagesAt_ofDirectory sound found
  obtain ⟨place, here, named⟩ := at_places.mem_fileCandidates_iff.mp member
  obtain ⟨⟨text, at_file⟩, -⟩ := FileTree.mem_fileNames_iff.mp named
  have plain := (Location.plain_concat.mp (sound.plain at_file)).2
  unfold readTask
  dsimp only
  split
  next =>
    refine ⟨⟨⟨place ++ [candidate.2], .file text⟩, ?_⟩, ?_⟩
    · rw [at_places.child_path here plain]
      exact sound.locate?_path at_file rfl
    · dsimp only
      split <;> trivial
  next => trivial

theorem posed_firstTargetTask {location : Location} (plain : location.Plain)
    (names : List String) : (firstTargetTask location.path names).Posed origin tree := by
  induction names with
  | nil => trivial
  | cons name rest ih =>
    refine ⟨⟨location, plain, rfl⟩, ?_⟩
    dsimp only
    split
    next => trivial
    next => exact ih

theorem posed_targetsTask (sound : tree.Sound) (found : tree.locate? root = some top)
    {file : SourceFile} (member : file ∈ (filesOfDirectory tree top.location).files) :
    (targetsTask tree file).Posed origin tree := by
  have filled := filled_filesOfDirectory sound found
  obtain ⟨id, has, rfl⟩ := (Project.mem_files_iff _ file).mp member
  obtain ⟨place, text, -, at_file, path_eq, module_eq⟩ :=
    filled.file (packagesAt_ofDirectory sound found) sound has
  unfold targetsTask
  split
  next => trivial
  next module has_module =>
    split
    next => trivial
    next context inside =>
      -- The path of a module is that of the file, so its directory is the one of the package.
      have module_path : module.path = ((filesOfDirectory tree top.location).file id).path := by
        rw [has_module] at module_eq
        split at module_eq
        next =>
          obtain ⟨read, same, is_read⟩ := module_eq
          cases same
          rw [path_eq] at is_read ⊢
          obtain ⟨_, -, -, path_eq'⟩ := (Analyzer.readModule_path_iff sound at_file rfl).mp is_read
          exact path_eq'
        next => cases module_eq
      have plain := sound.plain at_file
      rw [module_path, path_eq, Location.parent?_path plain] at inside
      cases inside
      refine (Task.posed_each fun names _ => ?_).bind trivial
      exact posed_firstTargetTask (Location.plain_concat.mp plain).1 names

theorem posed_buildTask (sound : tree.Sound) (found : tree.locate? root = some top) :
    (buildTask tree top.location).Posed origin tree := by
  -- What the second phase asks for is fixed by the answers of the first.
  refine (Task.posed_each fun candidate member => posed_readTask sound found member).bind ?_
  rw [Task.answer_each]
  dsimp only
  rw [foldl_answer_readTask]
  exact (Task.posed_each fun file member => posed_targetsTask sound found member).bind trivial

/-! ### Builds -/

/-- With faithful caches a build gives the project that it gives without them. -/
theorem build_of_faithful (sound : tree.Sound) (faithful : origin.Faithful tree analyzer)
    (found : tree.locate? root = some top) :
    (build tree root analyzer).1 = some (uncached origin tree top.location) ∧
      origin.Faithful tree (build tree root analyzer).2 := by
  obtain ⟨answer_eq, after⟩ := (posed_buildTask sound found).run sound faithful
  rw [run_buildTask] at answer_eq after
  rw [answer_buildTask] at answer_eq
  unfold build
  rw [found]
  exact ⟨congrArg some answer_eq, after⟩

theorem build_of_missing (missing : tree.locate? root = none) :
    build tree root analyzer = (none, analyzer) := by
  unfold build
  rw [missing]
  rfl

/-- Packages and files stay as they are when dependencies are added. -/
theorem filled_uncached (sound : tree.Sound) (found : tree.locate? root = some top) :
    Filled tree (uncached origin tree top.location) (tree.packagePlaces top.location)
      ((ofDirectory tree top.location).foundFiles tree) := by
  have filled := filled_filesOfDirectory sound found
  refine filled.withTargets fun entry member => ?_
  obtain ⟨file, among, rfl⟩ := List.mem_map.mp member
  obtain ⟨id, has, rfl⟩ := (Project.mem_files_iff _ file).mp among
  exact (filled.reachable.wellFormed.files.number has).symm ▸ has

end Project

end PackageAtlas
