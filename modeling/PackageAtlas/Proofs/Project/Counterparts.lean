import PackageAtlas.Proofs.Project.Operations
import PackageAtlas.Proofs.View.Folding

/-!
# Projects with the same content

Two projects with the same logical paths, for packages as for files, differ only in how their
elements are numbered, as long as the names are single components. What is read off the packages
and files of one is read off their counterparts in the other one.
-/
namespace PackageAtlas.Project

/-- Whether two projects have the same packages, files and dependencies by logical path, and views
of the same package. Their root directories need only be called alike. -/
structure SameContent (a b : Project) : Prop where
  root_name : a.rootDirectory.fileName? = b.rootDirectory.fileName?
  packages (relative : String) :
    relative ∈ a.packages.map (·.relative) ↔ relative ∈ b.packages.map (·.relative)
  files (relative : String) :
    relative ∈ a.files.map (·.relative) ↔ relative ∈ b.files.map (·.relative)
  edges (relation : FileRelation) :
    relation ∈ a.edges.map a.relation ↔ relation ∈ b.edges.map b.relation
  scope : (a.package a.scope).relative = (b.package b.scope).relative

/-- Whether the packages and files of one project become those of another under new numbers. -/
structure Renumbers (a b : Project) (package : PackageId → PackageId) (file : FileId → FileId) :
    Prop where
  has_package {id : PackageId} : a.HasPackage id → b.HasPackage (package id)
  has_file {id : FileId} : a.HasFile id → b.HasFile (file id)
  package_inj {x y : PackageId} :
    a.HasPackage x → a.HasPackage y → package x = package y → x = y
  file_inj {x y : FileId} : a.HasFile x → a.HasFile y → file x = file y → x = y
  exists_package {other : PackageId} :
    b.HasPackage other → ∃ id, a.HasPackage id ∧ package id = other
  exists_file {other : FileId} : b.HasFile other → ∃ id, a.HasFile id ∧ file id = other
  relative {id : PackageId} :
    a.HasPackage id → (b.package (package id)).relative = (a.package id).relative
  name {id : PackageId} : a.HasPackage id → (b.package (package id)).name = (a.package id).name
  parent {id : PackageId} :
    a.HasPackage id → (b.package (package id)).parent = (a.package id).parent.map package
  file_relative {id : FileId} :
    a.HasFile id → (b.file (file id)).relative = (a.file id).relative
  owner {id : FileId} : a.HasFile id → (b.file (file id)).package = package (a.file id).package
  edges {source target : FileId} :
    a.HasFile source → a.HasFile target →
      ((file source, file target) ∈ b.edges ↔ (source, target) ∈ a.edges)
  scope : b.scope = package a.scope

/-! ### Counterparts -/

/-- The package of `b` with the same logical path. -/
def counterpart (a b : Project) (id : PackageId) : PackageId :=
  (b.packageWithRelative? (a.package id).relative).getD root

def fileCounterpart (a b : Project) (id : FileId) : FileId :=
  (b.fileWithRelative? (a.file id).relative).getD default

variable {a b : Project}

theorem Reachable.placed {project : Project} (reachable : Reachable SingleName project) :
    LogicallyPlaced project :=
  (reachable.mono fun _ single => single.relativeName).logicallyPlaced

/-- Only the root has an empty logical path, since no name is empty. -/
theorem Reachable.relative_eq_empty_iff {project : Project}
    (reachable : Reachable SingleName project) {id : PackageId} (has : project.HasPackage id) :
    (project.package id).relative = "" ↔ id = root := by
  constructor
  · intro empty
    cases linked : (project.package id).parent with
    | none => exact (reachable.wellFormed.tree.parent_eq_none_iff has).mp linked
    | some parent =>
      have nonempty := (reachable.entries.package_name has linked).ne_empty
      rw [reachable.stepwise.package has linked, LogicalPath.child] at empty
      split at empty
      next => exact absurd empty nonempty
      next => simp at empty
  · rintro rfl
    exact reachable.stepwise.root_relative

/-- A logical path leads to the counterpart of the package that has it. -/
theorem Reachable.counterpart_eq (reachable : Reachable SingleName b) {id other : PackageId}
    (has_other : b.HasPackage other)
    (relative : (b.package other).relative = (a.package id).relative) :
    a.counterpart b id = other := by
  have found := (packageWithRelative?_eq_some_iff reachable.placed reachable.wellFormed.tree).mpr
    ⟨has_other, relative⟩
  rw [counterpart, found, Option.getD_some]

theorem Reachable.fileCounterpart_eq (reachable : Reachable SingleName b) {id other : FileId}
    (has_other : b.HasFile other) (relative : (b.file other).relative = (a.file id).relative) :
    a.fileCounterpart b id = other := by
  have found := (fileWithRelative?_eq_some_iff reachable.placed reachable.wellFormed.files).mpr
    ⟨has_other, relative⟩
  rw [fileCounterpart, found, Option.getD_some]

/-- Packages with one logical path have one name, and hang from packages with one logical path. -/
theorem Reachable.parents_alike (reachable_a : Reachable SingleName a)
    (reachable_b : Reachable SingleName b) {id parent other above : PackageId}
    (has : a.HasPackage id) (linked : (a.package id).parent = some parent)
    (has_other : b.HasPackage other) (other_linked : (b.package other).parent = some above)
    (relative : (b.package other).relative = (a.package id).relative) :
    (b.package above).relative = (a.package parent).relative ∧
      (b.package other).name = (a.package id).name := by
  rw [reachable_a.stepwise.package has linked, reachable_b.stepwise.package has_other other_linked]
    at relative
  exact SingleName.eq_of_child (reachable_b.entries.package_name has_other other_linked)
    (reachable_a.entries.package_name has linked) relative

/-- Files with one logical path are in packages with one logical path. -/
theorem Reachable.owners_alike (reachable_a : Reachable SingleName a)
    (reachable_b : Reachable SingleName b) {id other : FileId} (has : a.HasFile id)
    (has_other : b.HasFile other) (relative : (b.file other).relative = (a.file id).relative) :
    (b.package (b.file other).package).relative = (a.package (a.file id).package).relative := by
  rw [reachable_a.stepwise.file has, reachable_b.stepwise.file has_other] at relative
  exact (SingleName.eq_of_child (reachable_b.entries.file_name has_other)
    (reachable_a.entries.file_name has) relative).1

/-- Whether a package has a parent can be read off its logical path. -/
theorem Reachable.parent_eq_none_iff (reachable_a : Reachable SingleName a)
    (reachable_b : Reachable SingleName b) {id other : PackageId} (has : a.HasPackage id)
    (has_other : b.HasPackage other)
    (relative : (b.package other).relative = (a.package id).relative) :
    (b.package other).parent = none ↔ (a.package id).parent = none := by
  rw [reachable_b.wellFormed.tree.parent_eq_none_iff has_other,
    reachable_a.wellFormed.tree.parent_eq_none_iff has,
    ← reachable_b.relative_eq_empty_iff has_other, ← reachable_a.relative_eq_empty_iff has,
    relative]

/-- What a package hangs from is the counterpart of what any package with its logical path does. -/
theorem Reachable.parent_counterpart (reachable_a : Reachable SingleName a)
    (reachable_b : Reachable SingleName b) {id other : PackageId} (has : a.HasPackage id)
    (has_other : b.HasPackage other)
    (relative : (b.package other).relative = (a.package id).relative) :
    (b.package other).parent = (a.package id).parent.map (a.counterpart b) := by
  have none_iff := reachable_a.parent_eq_none_iff reachable_b has has_other relative
  cases linked : (a.package id).parent with
  | none => exact none_iff.mpr linked
  | some parent =>
    cases other_linked : (b.package other).parent with
    | none =>
      rw [none_iff.mp other_linked] at linked
      cases linked
    | some above =>
      have alike :=
        (reachable_a.parents_alike reachable_b has linked has_other other_linked relative).1
      have has_above := reachable_b.wellFormed.tree.has_parent has_other other_linked
      rw [Option.map_some, reachable_b.counterpart_eq has_above alike]

/-- Packages with one logical path have one name, if the root directories are called alike. -/
theorem Reachable.name_eq (reachable_a : Reachable SingleName a)
    (reachable_b : Reachable SingleName b)
    (root_name : a.rootDirectory.fileName? = b.rootDirectory.fileName?) {id other : PackageId}
    (has : a.HasPackage id) (has_other : b.HasPackage other)
    (relative : (b.package other).relative = (a.package id).relative) :
    (b.package other).name = (a.package id).name := by
  have none_iff := reachable_a.parent_eq_none_iff reachable_b has has_other relative
  cases linked : (a.package id).parent with
  | none =>
    have top := (reachable_a.wellFormed.tree.parent_eq_none_iff has).mp linked
    have other_top :=
      (reachable_b.wellFormed.tree.parent_eq_none_iff has_other).mp (none_iff.mpr linked)
    rw [other_top, top, reachable_a.stepwise.root_name, reachable_b.stepwise.root_name, root_name]
  | some parent =>
    cases other_linked : (b.package other).parent with
    | none =>
      rw [none_iff.mp other_linked] at linked
      cases linked
    | some above =>
      exact (reachable_a.parents_alike reachable_b has linked has_other other_linked relative).2

theorem SameContent.counterpart (same : SameContent a b) (reachable : Reachable SingleName b)
    {id : PackageId} (has : a.HasPackage id) :
    b.HasPackage (a.counterpart b id) ∧
      (b.package (a.counterpart b id)).relative = (a.package id).relative := by
  have listed : (a.package id).relative ∈ a.packages.map (·.relative) :=
    List.mem_map_of_mem ((a.mem_packages_iff _).mpr ⟨id, has, rfl⟩)
  obtain ⟨package, member, same_relative⟩ := List.mem_map.mp ((same.packages _).mp listed)
  obtain ⟨other, has_other, rfl⟩ := (b.mem_packages_iff package).mp member
  rw [reachable.counterpart_eq has_other same_relative]
  exact ⟨has_other, same_relative⟩

theorem SameContent.fileCounterpart (same : SameContent a b) (reachable : Reachable SingleName b)
    {id : FileId} (has : a.HasFile id) :
    b.HasFile (a.fileCounterpart b id) ∧
      (b.file (a.fileCounterpart b id)).relative = (a.file id).relative := by
  have listed : (a.file id).relative ∈ a.files.map (·.relative) :=
    List.mem_map_of_mem ((a.mem_files_iff _).mpr ⟨id, has, rfl⟩)
  obtain ⟨file, member, same_relative⟩ := List.mem_map.mp ((same.files _).mp listed)
  obtain ⟨other, has_other, rfl⟩ := (b.mem_files_iff file).mp member
  rw [reachable.fileCounterpart_eq has_other same_relative]
  exact ⟨has_other, same_relative⟩

theorem SameContent.owner (same : SameContent a b) (reachable_a : Reachable SingleName a)
    (reachable_b : Reachable SingleName b) {id : FileId} (has : a.HasFile id) :
    (b.file (a.fileCounterpart b id)).package = a.counterpart b (a.file id).package := by
  obtain ⟨has_b, relative⟩ := same.fileCounterpart reachable_b has
  exact (reachable_b.counterpart_eq (reachable_b.wellFormed.files.has_owner has_b)
    (reachable_a.owners_alike reachable_b has has_b relative)).symm

theorem SameContent.mem_edges_iff (same : SameContent a b) (reachable_a : Reachable SingleName a)
    (reachable_b : Reachable SingleName b) {source target : FileId} (has_source : a.HasFile source)
    (has_target : a.HasFile target) :
    (a.fileCounterpart b source, a.fileCounterpart b target) ∈ b.edges ↔
      (source, target) ∈ a.edges := by
  have relation_eq : b.relation (a.fileCounterpart b source, a.fileCounterpart b target) =
      a.relation (source, target) := by
    rw [relation, relation, (same.fileCounterpart reachable_b has_source).2,
      (same.fileCounterpart reachable_b has_target).2]
  constructor
  · intro member
    obtain ⟨⟨first, second⟩, inside, same_relation⟩ := List.mem_map.mp
      ((same.edges _).mpr (List.mem_map_of_mem member))
    rw [relation_eq, relation, relation, FileRelation.mk.injEq] at same_relation
    -- Files with these logical paths are the two that the edge was looked up for.
    obtain ⟨has_first, has_second⟩ := reachable_a.wellFormed.has_files inside
    have placed := reachable_a.placed
    have lists := reachable_a.wellFormed.files
    rw [← placed.file_eq lists has_first has_source same_relation.1,
      ← placed.file_eq lists has_second has_target same_relation.2]
    exact inside
  · intro member
    obtain ⟨⟨first, second⟩, inside, same_relation⟩ := List.mem_map.mp
      ((same.edges _).mp (List.mem_map_of_mem member))
    rw [relation, relation, FileRelation.mk.injEq] at same_relation
    obtain ⟨has_first, has_second⟩ := reachable_b.wellFormed.has_files inside
    rw [reachable_b.fileCounterpart_eq has_first same_relation.1,
      reachable_b.fileCounterpart_eq has_second same_relation.2]
    exact inside

theorem SameContent.symm (same : SameContent a b) : SameContent b a where
  root_name := same.root_name.symm
  packages relative := (same.packages relative).symm
  files relative := (same.files relative).symm
  edges relation := (same.edges relation).symm
  scope := same.scope.symm

/-- Elements and their counterparts have all in common but their numbers. -/
theorem SameContent.renumbers (same : SameContent a b) (reachable_a : Reachable SingleName a)
    (reachable_b : Reachable SingleName b) :
    Renumbers a b (a.counterpart b) (a.fileCounterpart b) := by
  have tree_a := reachable_a.wellFormed.tree
  have tree_b := reachable_b.wellFormed.tree
  have lists_a := reachable_a.wellFormed.files
  have counterpart {id : PackageId} (has : a.HasPackage id) := same.counterpart reachable_b has
  have file {id : FileId} (has : a.HasFile id) := same.fileCounterpart reachable_b has
  refine {
    has_package := fun has => (counterpart has).1
    has_file := fun has => (file has).1
    package_inj := fun {x y} has_x has_y same_number => ?package_inj
    file_inj := fun {x y} has_x has_y same_number => ?file_inj
    exists_package := fun {other} has_other => ?exists_package
    exists_file := fun {other} has_other => ?exists_file
    relative := fun has => (counterpart has).2
    name := fun has =>
      reachable_a.name_eq reachable_b same.root_name has (counterpart has).1 (counterpart has).2
    parent := fun has =>
      reachable_a.parent_counterpart reachable_b has (counterpart has).1 (counterpart has).2
    file_relative := fun has => (file has).2
    owner := same.owner reachable_a reachable_b
    edges := same.mem_edges_iff reachable_a reachable_b
    scope := ?scope }
  case package_inj =>
    have relatives := (counterpart has_x).2
    rw [same_number, (counterpart has_y).2] at relatives
    exact reachable_a.placed.package_eq tree_a has_x has_y relatives.symm
  case file_inj =>
    have relatives := (file has_x).2
    rw [same_number, (file has_y).2] at relatives
    exact reachable_a.placed.file_eq lists_a has_x has_y relatives.symm
  case exists_package =>
    obtain ⟨has_back, relative⟩ := same.symm.counterpart reachable_a has_other
    exact ⟨_, has_back, reachable_b.counterpart_eq has_other relative.symm⟩
  case exists_file =>
    obtain ⟨has_back, relative⟩ := same.symm.fileCounterpart reachable_a has_other
    exact ⟨_, has_back, reachable_b.fileCounterpart_eq has_other relative.symm⟩
  case scope =>
    exact (reachable_b.counterpart_eq reachable_b.wellFormed.has_scope same.scope.symm).symm

end PackageAtlas.Project
