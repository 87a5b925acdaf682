import PackageAtlas.Proofs.Path.Components
import PackageAtlas.Proofs.Project.WellFormed
import PackageAtlas.View.Spec

/-!
# Logical paths of packages and files

As long as no name is an absolute path, everything lies below the root directory where its logical
path leads. So a logical path belongs to one package, and to one file.
-/
namespace PackageAtlas.Project

/-- Names that are no absolute paths. Among them are the names of single entries of a
directory. -/
def RelativeName (name : String) : Prop :=
  (Path.mk name).isAbsolute = false

instance : DecidablePred RelativeName := fun name =>
  inferInstanceAs (Decidable ((Path.mk name).isAbsolute = false))

/-- Whether packages and files lie where their logical paths lead. -/
structure LogicallyPlaced (project : Project) : Prop where
  package {id : PackageId} :
    project.HasPackage id →
      Path.Placed project.rootDirectory (project.package id).path (project.package id).relative
  file {id : FileId} :
    project.HasFile id →
      Path.Placed project.rootDirectory (project.file id).path (project.file id).relative

theorem rootDirectory_withPackage {project : Project} (tree : PackageTree project)
    (parent : PackageId) (name : String) :
    (project.withPackage parent name).rootDirectory = project.rootDirectory :=
  (congrArg Package.path (project.package_withPackage_frame parent name tree.has_root) :)

theorem rootDirectory_withFile {project : Project} (tree : PackageTree project)
    (owner : PackageId) (name : String) (module : Option ParsedModule) :
    (project.withFile owner name module).rootDirectory = project.rootDirectory :=
  (congrArg Package.path (project.package_withFile_frame owner name module tree.has_root) :)

theorem LogicallyPlaced.withPackage {project : Project} (placed : LogicallyPlaced project)
    (tree : PackageTree project) {parent : PackageId} (above : project.HasPackage parent)
    {name : String} (plain : RelativeName name) :
    LogicallyPlaced (project.withPackage parent name) := by
  have directory := rootDirectory_withPackage tree parent name
  constructor
  · intro id has
    rw [directory]
    rcases (project.hasPackage_withPackage parent name id).mp has with old | rfl
    · have frame := project.package_withPackage_frame parent name old
      have path_eq := congrArg Package.path frame
      have relative_eq := congrArg Package.relative frame
      dsimp only at path_eq relative_eq
      rw [path_eq, relative_eq]
      exact placed.package old
    · rw [project.package_withPackage_next]
      exact (placed.package above).child plain
  · intro id has
    rw [directory]
    exact placed.file has

theorem LogicallyPlaced.withFile {project : Project} (placed : LogicallyPlaced project)
    (tree : PackageTree project) {owner : PackageId} (above : project.HasPackage owner)
    {name : String} (plain : RelativeName name) (module : Option ParsedModule) :
    LogicallyPlaced (project.withFile owner name module) := by
  have directory := rootDirectory_withFile tree owner name module
  constructor
  · intro id has
    have old := (project.hasPackage_withFile owner name module id).mp has
    have frame := project.package_withFile_frame owner name module old
    have path_eq := congrArg Package.path frame
    have relative_eq := congrArg Package.relative frame
    dsimp only at path_eq relative_eq
    rw [directory, path_eq, relative_eq]
    exact placed.package old
  · intro id has
    rw [directory]
    rcases (project.hasFile_withFile owner name module id).mp has with old | rfl
    · rw [project.file_withFile owner name module old]
      exact placed.file old
    · rw [project.file_withFile_next]
      exact (placed.package above).child plain

/-- Building with relative names keeps every element in its place. -/
theorem Reachable.logicallyPlaced {project : Project} (reachable : Reachable RelativeName project) :
    LogicallyPlaced project := by
  induction reachable with
  | new directory =>
    constructor
    · intro id has
      rw [eq_root_of_new has]
      exact Path.Placed.self _
    · intro id has
      exact absurd has not_hasFile_new
  | @addPackage project parent name before above plain ih =>
    rcases project.addPackage_cases parent name with ⟨_, -, added⟩ | ⟨-, added⟩ <;> rw [added]
    · exact ih
    · exact ih.withPackage before.wellFormed.tree above plain
  | @addFile project owner name module before above plain ih =>
    rcases project.addFile_cases owner name module with ⟨_, -, added⟩ | ⟨-, added⟩ <;> rw [added]
    · exact ih
    · exact ih.withFile before.wellFormed.tree above plain module
  | addDependency _ _ _ ih =>
    unfold Project.addDependency
    split
    next => exact ih
    next => exact { ih with }
  | rescope _ _ ih => exact { ih with }
  | declare policy _ ih => exact { ih with }

theorem LogicallyPlaced.package_eq {project : Project} (placed : LogicallyPlaced project)
    (tree : PackageTree project) {a b : PackageId} (has_a : project.HasPackage a)
    (has_b : project.HasPackage b)
    (same : (project.package a).relative = (project.package b).relative) : a = b := by
  have first := placed.package has_a
  rw [same] at first
  exact tree.eq_of_same has_a has_b (first.same_of_relative (placed.package has_b))

theorem LogicallyPlaced.file_eq {project : Project} (placed : LogicallyPlaced project)
    (lists : FileLists project) {a b : FileId} (has_a : project.HasFile a)
    (has_b : project.HasFile b)
    (same : (project.file a).relative = (project.file b).relative) : a = b := by
  have first := placed.file has_a
  rw [same] at first
  exact lists.eq_of_same has_a has_b (first.same_of_relative (placed.file has_b))

/-! ### A small project -/

/-- Packages `a`, `b`, `a/c` and `a/c/d`, numbered in this order. All but `a` have a file, and so
has the root package. The files of `a/c`, `a/c/d` and the root import the one of `b`, the file of
`a/c` that of `a/c/d` too. -/
def sample : Project :=
  let project := Project.new ⟨"/p"⟩
  let project := (project.addPackage root "a").2
  let project := (project.addPackage root "b").2
  let project := (project.addPackage ⟨1⟩ "c").2
  let project := (project.addPackage ⟨3⟩ "d").2
  let project := (project.addFile ⟨3⟩ "x.py" none).2
  let project := (project.addFile ⟨2⟩ "y.py" none).2
  let project := (project.addFile ⟨4⟩ "z.py" none).2
  let project := (project.addFile root "r.py" none).2
  let project := project.addDependency ⟨0⟩ ⟨1⟩
  let project := project.addDependency ⟨2⟩ ⟨1⟩
  let project := project.addDependency ⟨3⟩ ⟨1⟩
  project.addDependency ⟨0⟩ ⟨2⟩

/-- The view of `sample` that shows `a`, `b` and `a/c/d`, with `a/c` hidden in between. -/
def sampleSpec : ViewSpec :=
  ⟨[.anchored "a" 0, .anchored "b" 0, .byPrefix "a/c/d"], [], none⟩

theorem sample_reachable : Reachable RelativeName sample := by
  refine .addDependency (.addDependency (.addDependency (.addDependency ?files
    ?_ ?_) ?_ ?_) ?_ ?_) ?_ ?_
  case files =>
    refine .addFile (.addFile (.addFile (.addFile ?packages ?_ ?_) ?_ ?_) ?_ ?_) ?_ ?_
    case packages =>
      refine .addPackage (.addPackage (.addPackage (.addPackage (.new _) ?_ ?_) ?_ ?_) ?_ ?_) ?_ ?_
      all_goals decide
    all_goals decide
  all_goals decide

end PackageAtlas.Project
