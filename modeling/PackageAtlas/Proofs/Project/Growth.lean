import PackageAtlas.Project.Basic

/-!
# How a project grows

Adding a package or a file either finds it there already or makes one new element with the next
number. The equations below tell what becomes of every element, number by number; later modules
use them and never look at the lists behind them.
-/
namespace PackageAtlas.Project

/-- Whether a number stands for a package of the project. -/
def HasPackage (project : Project) (id : PackageId) : Prop :=
  id.index < project.packages.length

/-- Whether a number stands for a file of the project. -/
def HasFile (project : Project) (id : FileId) : Prop :=
  id.index < project.files.length

instance (project : Project) (id : PackageId) : Decidable (project.HasPackage id) :=
  inferInstanceAs (Decidable (id.index < project.packages.length))

instance (project : Project) (id : FileId) : Decidable (project.HasFile id) :=
  inferInstanceAs (Decidable (id.index < project.files.length))

theorem eq_root_of_new {directory : Path} {id : PackageId}
    (has : (Project.new directory).HasPackage id) : id = root := by
  have bound : id.index < 1 := has
  obtain ⟨index⟩ := id
  exact congrArg PackageId.mk (by simpa using bound)

theorem HasPackage.exists_length {project : Project} {id : PackageId}
    (has : project.HasPackage id) : ∃ count, project.packages.length = count + 1 :=
  ⟨_, (Nat.sub_one_add_one (Nat.ne_of_gt (Nat.zero_lt_of_lt has))).symm⟩

theorem not_hasFile_new {directory : Path} {id : FileId} : ¬ (Project.new directory).HasFile id :=
  Nat.not_lt_zero _

def nextPackage (project : Project) : PackageId := ⟨project.packages.length⟩

def nextFile (project : Project) : FileId := ⟨project.files.length⟩

theorem not_hasPackage_next (project : Project) : ¬ project.HasPackage project.nextPackage :=
  Nat.lt_irrefl _

theorem not_hasFile_next (project : Project) : ¬ project.HasFile project.nextFile :=
  Nat.lt_irrefl _

/-- The package of the directory `name` in `parent`. -/
def freshPackage (project : Project) (parent : PackageId) (name : String) : Package where
  id := project.nextPackage
  path := (project.package parent).path.child name
  relative := LogicalPath.child (project.package parent).relative name
  name
  depth := (project.package parent).depth + 1
  parent := some parent
  children := []
  files := []

/-- The file `name` of the package `owner`. -/
def freshFile (project : Project) (owner : PackageId) (name : String)
    (module : Option ParsedModule) : SourceFile where
  id := project.nextFile
  path := (project.package owner).path.child name
  relative := LogicalPath.child (project.package owner).relative name
  label := name
  package := owner
  module

/-- The project with a fresh package, known to its parent. -/
def withPackage (project : Project) (parent : PackageId) (name : String) : Project :=
  let linked := project.packages.modify parent.index fun package =>
    { package with children := package.children ++ [project.nextPackage] }
  { project with packages := linked ++ [project.freshPackage parent name] }

/-- The project with a fresh file, known to its package. -/
def withFile (project : Project) (owner : PackageId) (name : String)
    (module : Option ParsedModule) : Project :=
  let linked := project.packages.modify owner.index fun package =>
    { package with files := package.files ++ [project.nextFile] }
  { project with
    packages := linked
    files := project.files ++ [project.freshFile owner name module] }

variable (project : Project) (parent owner : PackageId) (name : String)
  (module : Option ParsedModule)

/-- All that adding a package can do. -/
theorem addPackage_cases :
    (∃ existing, project.packageAt? ((project.package parent).path.child name) = some existing ∧
      project.addPackage parent name = (existing, project)) ∨
    (project.packageAt? ((project.package parent).path.child name) = none ∧
      project.addPackage parent name =
        (project.nextPackage, project.withPackage parent name)) := by
  cases known : project.packageAt? ((project.package parent).path.child name) with
  | some existing => exact Or.inl ⟨existing, rfl, by simp [addPackage, known]⟩
  | none =>
    exact Or.inr ⟨rfl, by simp [addPackage, known, withPackage, freshPackage, nextPackage]⟩

/-- All that adding a file can do. -/
theorem addFile_cases :
    (∃ existing, project.fileAt? ((project.package owner).path.child name) = some existing ∧
      project.addFile owner name module = (existing, project)) ∨
    (project.fileAt? ((project.package owner).path.child name) = none ∧
      project.addFile owner name module =
        (project.nextFile, project.withFile owner name module)) := by
  cases known : project.fileAt? ((project.package owner).path.child name) with
  | some existing => exact Or.inl ⟨existing, rfl, by simp [addFile, known]⟩
  | none => exact Or.inr ⟨rfl, by simp [addFile, known, withFile, freshFile, nextFile]⟩

/-! ### Elements by path -/

theorem mem_packages_iff (element : Package) :
    element ∈ project.packages ↔ ∃ id, project.HasPackage id ∧ project.package id = element := by
  rw [List.mem_iff_getElem?]
  constructor
  · rintro ⟨index, found⟩
    obtain ⟨bound, -⟩ := List.getElem?_eq_some_iff.mp found
    exact ⟨⟨index⟩, bound, by simp [package, found]⟩
  · rintro ⟨id, old, rfl⟩
    exact ⟨id.index, by rw [package, List.getElem?_eq_getElem old, Option.getD_some]⟩

theorem mem_files_iff (element : SourceFile) :
    element ∈ project.files ↔ ∃ id, project.HasFile id ∧ project.file id = element := by
  rw [List.mem_iff_getElem?]
  constructor
  · rintro ⟨index, found⟩
    obtain ⟨bound, -⟩ := List.getElem?_eq_some_iff.mp found
    exact ⟨⟨index⟩, bound, by simp [file, found]⟩
  · rintro ⟨id, old, rfl⟩
    exact ⟨id.index, by rw [file, List.getElem?_eq_getElem old, Option.getD_some]⟩

theorem packageAt?_eq_none_iff (path : Path) :
    project.packageAt? path = none ↔
      ∀ id, project.HasPackage id → ¬ (project.package id).path.Same path := by
  simp only [packageAt?, Option.map_eq_none_iff, List.find?_eq_none, decide_eq_true_eq,
    mem_packages_iff]
  exact ⟨fun none id old => none _ ⟨id, old, rfl⟩, fun none _ ⟨id, old, h⟩ => h ▸ none id old⟩

theorem fileAt?_eq_none_iff (path : Path) :
    project.fileAt? path = none ↔
      ∀ id, project.HasFile id → ¬ (project.file id).path.Same path := by
  simp only [fileAt?, Option.map_eq_none_iff, List.find?_eq_none, decide_eq_true_eq,
    mem_files_iff]
  exact ⟨fun none id old => none _ ⟨id, old, rfl⟩, fun none _ ⟨id, old, h⟩ => h ▸ none id old⟩

/-! ### Packages and files of a grown project -/

theorem hasPackage_withPackage (id : PackageId) :
    (project.withPackage parent name).HasPackage id ↔
      project.HasPackage id ∨ id = project.nextPackage := by
  obtain ⟨index⟩ := id
  simp only [HasPackage, withPackage, nextPackage, List.length_append, List.length_modify,
    List.length_singleton, PackageId.mk.injEq]
  omega

/-- An old package gets the new one as a child if it is the parent, and stays as it was in all
else. -/
theorem package_withPackage {id : PackageId} (old : project.HasPackage id) :
    (project.withPackage parent name).package id =
      if id = parent then
        { project.package id with
          children := (project.package id).children ++ [project.nextPackage] }
      else project.package id := by
  have present : project.packages[id.index]? = some project.packages[id.index] :=
    List.getElem?_eq_getElem old
  have bound : id.index < (project.packages.modify parent.index fun package =>
      { package with children := package.children ++ [project.nextPackage] }).length := by
    rw [List.length_modify]
    exact old
  -- The new package stands behind all others, so the old ones are found where they were.
  unfold package withPackage
  rw [List.getElem?_append_left bound, List.getElem?_modify, present]
  by_cases h : id = parent
  · simp [h]
  · have other : parent.index ≠ id.index := fun same => h (by cases id; cases parent; simp_all)
    simp [h, other]

theorem package_withPackage_frame {id : PackageId} (old : project.HasPackage id) :
    { (project.withPackage parent name).package id with
      children := (project.package id).children } = project.package id := by
  rw [package_withPackage project parent name old]
  split <;> rfl

theorem children_withPackage {id : PackageId} (old : project.HasPackage id) :
    ((project.withPackage parent name).package id).children =
      if id = parent then (project.package id).children ++ [project.nextPackage]
      else (project.package id).children := by
  rw [package_withPackage project parent name old]
  split <;> rfl

theorem package_withPackage_next :
    (project.withPackage parent name).package project.nextPackage =
      project.freshPackage parent name := by
  unfold package withPackage
  rw [List.getElem?_append_right (by simp [nextPackage])]
  simp [nextPackage]

theorem hasPackage_withFile (id : PackageId) :
    (project.withFile owner name module).HasPackage id ↔ project.HasPackage id := by
  simp [HasPackage, withFile]

theorem hasFile_withFile (id : FileId) :
    (project.withFile owner name module).HasFile id ↔
      project.HasFile id ∨ id = project.nextFile := by
  obtain ⟨index⟩ := id
  simp only [HasFile, withFile, nextFile, List.length_append, List.length_singleton,
    FileId.mk.injEq]
  omega

theorem package_withFile {id : PackageId} (old : project.HasPackage id) :
    (project.withFile owner name module).package id =
      if id = owner then
        { project.package id with files := (project.package id).files ++ [project.nextFile] }
      else project.package id := by
  have present : project.packages[id.index]? = some project.packages[id.index] :=
    List.getElem?_eq_getElem old
  unfold package withFile
  rw [List.getElem?_modify, present]
  by_cases h : id = owner
  · simp [h]
  · have other : owner.index ≠ id.index := fun same => h (by cases id; cases owner; simp_all)
    simp [h, other]

theorem package_withFile_frame {id : PackageId} (old : project.HasPackage id) :
    { (project.withFile owner name module).package id with
      files := (project.package id).files } = project.package id := by
  rw [package_withFile project owner name module old]
  split <;> rfl

theorem files_withFile {id : PackageId} (old : project.HasPackage id) :
    ((project.withFile owner name module).package id).files =
      if id = owner then (project.package id).files ++ [project.nextFile]
      else (project.package id).files := by
  rw [package_withFile project owner name module old]
  split <;> rfl

theorem file_withFile {id : FileId} (old : project.HasFile id) :
    (project.withFile owner name module).file id = project.file id := by
  unfold file withFile
  rw [List.getElem?_append_left old]

theorem file_withFile_next :
    (project.withFile owner name module).file project.nextFile =
      project.freshFile owner name module := by
  unfold file withFile
  rw [List.getElem?_append_right (by simp [nextFile])]
  simp [nextFile]

end PackageAtlas.Project
