import PackageAtlas.Proofs.Project.WellFormed

/-!
# Packages and files as entries of their directories

A package lists its children and its files in the order of their numbers, and the path of each is
that of the package with the entry's own name behind it.
-/
namespace PackageAtlas.Project

/-! ### Lists with one element changed -/

theorem map_modify {α β : Type} {change : α → α} {read : α → β}
    (same : ∀ a, read (change a) = read a) (index : Nat) (elements : List α) :
    (elements.modify index change).map read = elements.map read := by
  induction elements generalizing index with
  | nil => rw [List.modify_nil]
  | cons first rest ih => cases index <;> simp [same, ih]

theorem map_filter_modify {α β : Type} {change : α → α} {keep : α → Bool} {read : α → β}
    (same_keep : ∀ a, keep (change a) = keep a) (same_read : ∀ a, read (change a) = read a)
    (index : Nat) (elements : List α) :
    ((elements.modify index change).filter keep).map read = (elements.filter keep).map read := by
  induction elements generalizing index with
  | nil => rw [List.modify_nil]
  | cons first rest ih =>
    cases index with
    | zero => by_cases kept : keep first <;> simp [same_keep, same_read, kept]
    | succ index => by_cases kept : keep first <;> simp [kept, ih]

/-! ### What a package lists -/

/-- Whether packages and files stand as entries, called as `names` allows, in the directories of
their packages, which list them in the order of their numbers. -/
structure Entries (names : String → Prop) (project : Project) : Prop where
  package_path {id parent : PackageId} :
    project.HasPackage id → (project.package id).parent = some parent →
      (project.package id).path = (project.package parent).path.child (project.package id).name
  package_name {id parent : PackageId} :
    project.HasPackage id → (project.package id).parent = some parent →
      names (project.package id).name
  file_path {id : FileId} :
    project.HasFile id →
      (project.file id).path =
        (project.package (project.file id).package).path.child (project.file id).label
  file_name {id : FileId} : project.HasFile id → names (project.file id).label
  children {id : PackageId} :
    project.HasPackage id →
      (project.package id).children =
        (project.packages.filter fun package => package.parent = some id).map (·.id)
  files {id : PackageId} :
    project.HasPackage id →
      (project.package id).files =
        (project.files.filter fun file => file.package = id).map (·.id)

variable {names : String → Prop} {project : Project}

theorem entries_new (directory : Path) : Entries names (Project.new directory) where
  package_path has linked := by
    rw [eq_root_of_new has] at linked
    cases linked
  package_name has linked := by
    rw [eq_root_of_new has] at linked
    cases linked
  file_path has := absurd has not_hasFile_new
  file_name has := absurd has not_hasFile_new
  children has := by
    rw [eq_root_of_new has]
    rfl
  files has := by
    rw [eq_root_of_new has]
    rfl

theorem Entries.withPackage (entries : Entries names project) (tree : PackageTree project)
    (lists : FileLists project) {parent : PackageId} (above : project.HasPackage parent)
    {name : String} (allowed : names name) : Entries names (project.withPackage parent name) := by
  have has_iff := project.hasPackage_withPackage parent name
  have next := project.package_withPackage_next parent name
  have frame {id : PackageId} (old : project.HasPackage id) :=
    project.package_withPackage_frame parent name old
  have path_eq {id : PackageId} (old : project.HasPackage id) :
      ((project.withPackage parent name).package id).path = (project.package id).path :=
    (congrArg Package.path (frame old) :)
  have parent_eq {id : PackageId} (old : project.HasPackage id) :
      ((project.withPackage parent name).package id).parent = (project.package id).parent :=
    (congrArg Package.parent (frame old) :)
  have name_eq {id : PackageId} (old : project.HasPackage id) :
      ((project.withPackage parent name).package id).name = (project.package id).name :=
    (congrArg Package.name (frame old) :)
  -- The list of children is the old one, with the new package behind it in its parent.
  have listed (id : PackageId) :
      ((project.withPackage parent name).packages.filter fun package =>
        package.parent = some id).map (·.id) =
      (project.packages.filter fun package => package.parent = some id).map (·.id) ++
        if id = parent then [project.nextPackage] else [] := by
    simp only [Project.withPackage, List.filter_append, List.map_append]
    rw [map_filter_modify]
    · by_cases same : parent = id
      · simp [freshPackage, same]
      · simp [freshPackage, same, Ne.symm same]
    · intro package; rfl
    · intro package; rfl
  refine {
    package_path := fun {id top} has linked => ?path
    package_name := fun {id top} has linked => ?name
    file_path := fun {id} has => ?file
    file_name := entries.file_name
    children := fun {id} has => ?children
    files := fun {id} has => ?files }
  case path =>
    rcases (has_iff id).mp has with old | rfl
    · rw [parent_eq old] at linked
      rw [path_eq old, name_eq old, path_eq (tree.has_parent old linked)]
      exact entries.package_path old linked
    · rw [next] at linked ⊢
      cases linked
      rw [path_eq above]
      rfl
  case name =>
    rcases (has_iff id).mp has with old | rfl
    · rw [parent_eq old] at linked
      rw [name_eq old]
      exact entries.package_name old linked
    · rw [next]
      exact allowed
  case file =>
    have owner_path := path_eq (lists.has_owner has)
    exact (entries.file_path has).trans (congrArg (·.child (project.file id).label) owner_path.symm)
  case children =>
    rw [listed]
    rcases (has_iff id).mp has with old | rfl
    · rw [project.children_withPackage parent name old, entries.children old]
      split <;> simp
    · -- No old package has a parent as young as the new one.
      have orphans : project.packages.filter (fun package =>
          package.parent = some project.nextPackage) = [] := by
        refine List.filter_eq_nil_iff.mpr fun package member linked => ?_
        obtain ⟨child, old, rfl⟩ := (project.mem_packages_iff package).mp member
        exact project.not_hasPackage_next (tree.has_parent old (of_decide_eq_true linked))
      have not_parent : project.nextPackage ≠ parent :=
        fun same => project.not_hasPackage_next (same ▸ above)
      rw [next, orphans, if_neg not_parent]
      rfl
  case files =>
    rcases (has_iff id).mp has with old | rfl
    · rw [show ((project.withPackage parent name).package id).files = (project.package id).files
        from (congrArg Package.files (frame old) :)]
      exact entries.files old
    · have none_owned : project.files.filter (fun file =>
          file.package = project.nextPackage) = [] := by
        refine List.filter_eq_nil_iff.mpr fun file member owned => ?_
        obtain ⟨id, old, rfl⟩ := (project.mem_files_iff file).mp member
        exact project.not_hasPackage_next (of_decide_eq_true owned ▸ lists.has_owner old)
      rw [next]
      exact (congrArg (List.map (·.id)) none_owned).symm

theorem Entries.withFile (entries : Entries names project) (tree : PackageTree project)
    (lists : FileLists project) {owner : PackageId} (above : project.HasPackage owner)
    {name : String} (allowed : names name) (module : Option ParsedModule) :
    Entries names (project.withFile owner name module) := by
  have has_package_iff := project.hasPackage_withFile owner name module
  have has_iff := project.hasFile_withFile owner name module
  have next := project.file_withFile_next owner name module
  have frame {id : PackageId} (old : project.HasPackage id) :=
    project.package_withFile_frame owner name module old
  have path_eq {id : PackageId} (old : project.HasPackage id) :
      ((project.withFile owner name module).package id).path = (project.package id).path :=
    (congrArg Package.path (frame old) :)
  have parent_eq {id : PackageId} (old : project.HasPackage id) :
      ((project.withFile owner name module).package id).parent = (project.package id).parent :=
    (congrArg Package.parent (frame old) :)
  have name_eq {id : PackageId} (old : project.HasPackage id) :
      ((project.withFile owner name module).package id).name = (project.package id).name :=
    (congrArg Package.name (frame old) :)
  refine {
    package_path := fun {id top} has linked => ?path
    package_name := fun {id top} has linked => ?name
    file_path := fun {id} has => ?file
    file_name := fun {id} has => ?label
    children := fun {id} has => ?children
    files := fun {id} has => ?files }
  case path =>
    have old := (has_package_iff id).mp has
    rw [parent_eq old] at linked
    rw [path_eq old, name_eq old, path_eq (tree.has_parent old linked)]
    exact entries.package_path old linked
  case name =>
    have old := (has_package_iff id).mp has
    rw [parent_eq old] at linked
    rw [name_eq old]
    exact entries.package_name old linked
  case file =>
    rcases (has_iff id).mp has with old | rfl
    · rw [project.file_withFile owner name module old, path_eq (lists.has_owner old)]
      exact entries.file_path old
    · rw [next]
      exact (congrArg (·.child name) (path_eq above)).symm
  case label =>
    rcases (has_iff id).mp has with old | rfl
    · rw [project.file_withFile owner name module old]
      exact entries.file_name old
    · rw [next]
      exact allowed
  case children =>
    have old := (has_package_iff id).mp has
    rw [show ((project.withFile owner name module).package id).children =
      (project.package id).children from (congrArg Package.children (frame old) :),
      entries.children old]
    refine (map_filter_modify ?_ ?_ owner.index project.packages).symm
    · intro package; rfl
    · intro package; rfl
  case files =>
    have old := (has_package_iff id).mp has
    rw [project.files_withFile owner name module old, entries.files old]
    simp only [Project.withFile, List.filter_append, List.map_append]
    by_cases same : owner = id
    · simp [freshFile, same]
    · simp [freshFile, same, Ne.symm same]

theorem Reachable.entries (reachable : Reachable names project) : Entries names project := by
  induction reachable with
  | new directory => exact entries_new directory
  | @addPackage project parent name before above allowed ih =>
    have wellFormed := before.wellFormed
    rcases project.addPackage_cases parent name with ⟨_, -, added⟩ | ⟨-, added⟩ <;> rw [added]
    · exact ih
    · exact ih.withPackage wellFormed.tree wellFormed.files above allowed
  | @addFile project owner name module before above allowed ih =>
    have wellFormed := before.wellFormed
    rcases project.addFile_cases owner name module with ⟨_, -, added⟩ | ⟨-, added⟩ <;> rw [added]
    · exact ih
    · exact ih.withFile wellFormed.tree wellFormed.files above allowed module
  | addDependency _ _ _ ih =>
    unfold Project.addDependency
    split
    next => exact ih
    next => exact { ih with }
  | rescope _ _ ih => exact { ih with }
  | declare policy _ ih => exact { ih with }

end PackageAtlas.Project
