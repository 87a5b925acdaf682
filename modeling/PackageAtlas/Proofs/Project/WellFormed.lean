import PackageAtlas.Policy.Check
import PackageAtlas.Proofs.Project.Growth

/-!
# Well-formed projects

The packages of a project form a tree with the root package at its top, every file is listed by
its package, and dependencies run between files of the project. Every project that is built by
adding packages, files and dependencies is well formed, whatever the names.
-/
namespace PackageAtlas.Project

/-- Projects built by adding packages with some names, files and dependencies to a new project.
Views may start from any package, and any policies may be declared. -/
inductive Reachable (names : String → Prop) : Project → Prop
  | new (directory : Path) : Reachable names (Project.new directory)
  | addPackage {project : Project} {parent : PackageId} {name : String} :
      Reachable names project → project.HasPackage parent → names name →
      Reachable names (project.addPackage parent name).2
  | addFile {project : Project} {owner : PackageId} {name : String}
      {module : Option ParsedModule} :
      Reachable names project → project.HasPackage owner → names name →
      Reachable names (project.addFile owner name module).2
  | addDependency {project : Project} {source target : FileId} :
      Reachable names project → project.HasFile source → project.HasFile target →
      Reachable names (project.addDependency source target)
  | rescope {project : Project} {scope : PackageId} :
      Reachable names project → project.HasPackage scope →
      Reachable names { project with scope }
  | declare {project : Project} (policy : Policy) :
      Reachable names project → Reachable names (project.declare policy)

/-- The packages form a tree: parents are older than their children, and know them. -/
structure PackageTree (project : Project) : Prop where
  has_root : project.HasPackage root
  number {id : PackageId} : project.HasPackage id → (project.package id).id = id
  parent_eq_none_iff {id : PackageId} :
    project.HasPackage id → ((project.package id).parent = none ↔ id = root)
  parent_lt {id parent : PackageId} :
    project.HasPackage id → (project.package id).parent = some parent → parent.index < id.index
  depth_eq {id parent : PackageId} :
    project.HasPackage id → (project.package id).parent = some parent →
      (project.package id).depth = (project.package parent).depth + 1
  mem_children_iff {id child : PackageId} :
    project.HasPackage id →
      (child ∈ (project.package id).children ↔
        project.HasPackage child ∧ (project.package child).parent = some id)
  children_nodup {id : PackageId} :
    project.HasPackage id → (project.package id).children.Nodup
  eq_of_same {a b : PackageId} :
    project.HasPackage a → project.HasPackage b →
      (project.package a).path.Same (project.package b).path → a = b

/-- Every file is listed by its package, and only there. -/
structure FileLists (project : Project) : Prop where
  number {id : FileId} : project.HasFile id → (project.file id).id = id
  has_owner {id : FileId} : project.HasFile id → project.HasPackage (project.file id).package
  mem_files_iff {owner : PackageId} {id : FileId} :
    project.HasPackage owner →
      (id ∈ (project.package owner).files ↔
        project.HasFile id ∧ (project.file id).package = owner)
  files_nodup {owner : PackageId} :
    project.HasPackage owner → (project.package owner).files.Nodup
  eq_of_same {a b : FileId} :
    project.HasFile a → project.HasFile b →
      (project.file a).path.Same (project.file b).path → a = b

theorem PackageTree.has_parent {project : Project} (tree : PackageTree project)
    {id parent : PackageId} (has : project.HasPackage id)
    (linked : (project.package id).parent = some parent) : project.HasPackage parent :=
  Nat.lt_trans (tree.parent_lt has linked) has

structure WellFormed (project : Project) : Prop where
  tree : PackageTree project
  files : FileLists project
  edges_nodup : project.edges.Nodup
  has_files {edge : FileId × FileId} :
    edge ∈ project.edges → project.HasFile edge.1 ∧ project.HasFile edge.2
  has_scope : project.HasPackage project.scope

private theorem nodup_append_fresh {α : Type} {old : List α} {new : α} (nodup : old.Nodup)
    (fresh : new ∉ old) : (old ++ [new]).Nodup := by
  refine List.nodup_append.mpr ⟨nodup, by simp, fun a member b single same => ?_⟩
  rw [List.mem_singleton.mp single] at same
  exact fresh (same ▸ member)

/-! ### One more package -/

theorem PackageTree.withPackage {project : Project} (tree : PackageTree project)
    {parent : PackageId} (above : project.HasPackage parent) {name : String}
    (new : project.packageAt? ((project.package parent).path.child name) = none) :
    PackageTree (project.withPackage parent name) := by
  have has_iff := project.hasPackage_withPackage parent name
  have old_ne {id : PackageId} (old : project.HasPackage id) : id ≠ project.nextPackage :=
    fun same => project.not_hasPackage_next (same ▸ old)
  have frame {id : PackageId} (old : project.HasPackage id) :=
    project.package_withPackage_frame parent name old
  have parent_eq {id : PackageId} (old : project.HasPackage id) :
      ((project.withPackage parent name).package id).parent = (project.package id).parent :=
    (congrArg Package.parent (frame old) :)
  have depth_eq {id : PackageId} (old : project.HasPackage id) :
      ((project.withPackage parent name).package id).depth = (project.package id).depth :=
    (congrArg Package.depth (frame old) :)
  have path_eq {id : PackageId} (old : project.HasPackage id) :
      ((project.withPackage parent name).package id).path = (project.package id).path :=
    (congrArg Package.path (frame old) :)
  have next := project.package_withPackage_next parent name
  have elsewhere := (project.packageAt?_eq_none_iff _).mp new
  -- Each field asks for the old packages, which keep all but their children, and for the new one.
  refine {
    has_root := (has_iff root).mpr (Or.inl tree.has_root)
    number := fun {id} has => ?number
    parent_eq_none_iff := fun {id} has => ?parent_none
    parent_lt := fun {id top} has linked => ?parent_lt
    depth_eq := fun {id top} has linked => ?depth
    mem_children_iff := fun {id child} has => ?children
    children_nodup := fun {id} has => ?nodup
    eq_of_same := fun {a b} first second same => ?same }
  case number =>
    rcases (has_iff id).mp has with old | rfl
    · rw [congrArg Package.id (frame old), tree.number old]
    · rw [next]; rfl
  case parent_none =>
    rcases (has_iff id).mp has with old | rfl
    · rw [parent_eq old, tree.parent_eq_none_iff old]
    · rw [next]
      simp [freshPackage, (old_ne tree.has_root).symm]
  case parent_lt =>
    rcases (has_iff id).mp has with old | rfl
    · exact tree.parent_lt old (by rwa [← parent_eq old])
    · rw [next] at linked
      cases linked
      exact above
  case depth =>
    rcases (has_iff id).mp has with old | rfl
    · rw [parent_eq old] at linked
      rw [depth_eq old, depth_eq (tree.has_parent old linked), tree.depth_eq old linked]
    · rw [next] at linked
      cases linked
      rw [next, depth_eq above]
      rfl
  case children =>
    -- The links to a parent are the old ones and that of the new package.
    have child_iff : (project.withPackage parent name).HasPackage child ∧
        ((project.withPackage parent name).package child).parent = some id ↔
        (project.HasPackage child ∧ (project.package child).parent = some id) ∨
          child = project.nextPackage ∧ id = parent := by
      rw [has_iff child]
      constructor
      · rintro ⟨old | rfl, linked⟩
        · exact Or.inl ⟨old, by rwa [← parent_eq old]⟩
        · rw [next] at linked
          exact Or.inr ⟨rfl, (Option.some.inj linked).symm⟩
      · rintro (⟨old, linked⟩ | ⟨rfl, rfl⟩)
        · exact ⟨Or.inl old, by rwa [parent_eq old]⟩
        · exact ⟨Or.inr rfl, by rw [next]; rfl⟩
    rw [child_iff]
    rcases (has_iff id).mp has with old | rfl
    · rw [project.children_withPackage parent name old, ← tree.mem_children_iff old]
      split
      next h => simp [h]
      next h => simp [h]
    · -- No old package has a parent as young as the new one.
      have orphan : ¬ (project.HasPackage child ∧
          (project.package child).parent = some project.nextPackage) := by
        rintro ⟨old, linked⟩
        exact project.not_hasPackage_next (tree.has_parent old linked)
      rw [next]
      simp [freshPackage, orphan, (old_ne above).symm]
  case nodup =>
    rcases (has_iff id).mp has with old | rfl
    · have fresh : project.nextPackage ∉ (project.package id).children := fun member =>
        project.not_hasPackage_next ((tree.mem_children_iff old).mp member).1
      rw [project.children_withPackage parent name old]
      split
      next => exact nodup_append_fresh (tree.children_nodup old) fresh
      next => exact tree.children_nodup old
    · rw [next]
      exact List.nodup_nil
  case same =>
    -- The new package has a path that no old one has.
    rcases (has_iff a).mp first with old_a | rfl <;> rcases (has_iff b).mp second with old_b | rfl
    · rw [path_eq old_a, path_eq old_b] at same
      exact tree.eq_of_same old_a old_b same
    · rw [path_eq old_a, next] at same
      exact absurd same (elsewhere a old_a)
    · rw [path_eq old_b, next] at same
      exact absurd same.symm (elsewhere b old_b)
    · rfl

theorem FileLists.withPackage {project : Project} (lists : FileLists project)
    (parent : PackageId) (name : String) : FileLists (project.withPackage parent name) := by
  have has_iff := project.hasPackage_withPackage parent name
  have files_eq {id : PackageId} (old : project.HasPackage id) :
      ((project.withPackage parent name).package id).files = (project.package id).files :=
    (congrArg Package.files (project.package_withPackage_frame parent name old) :)
  have next := project.package_withPackage_next parent name
  refine {
    number := lists.number
    has_owner := fun has => (has_iff _).mpr (Or.inl (lists.has_owner has))
    mem_files_iff := fun {owner id} has => ?members
    files_nodup := fun {owner} has => ?nodup
    eq_of_same := lists.eq_of_same }
  case members =>
    rcases (has_iff owner).mp has with old | rfl
    · rw [files_eq old]
      exact lists.mem_files_iff old
    · -- No old file belongs to the new package.
      have orphan : ¬ (project.HasFile id ∧ (project.file id).package = project.nextPackage) := by
        rintro ⟨old, owned⟩
        exact project.not_hasPackage_next (owned ▸ lists.has_owner old)
      rw [next]
      exact ⟨fun member => absurd member (List.not_mem_nil), fun owned => absurd owned orphan⟩
  case nodup =>
    rcases (has_iff owner).mp has with old | rfl
    · rw [files_eq old]
      exact lists.files_nodup old
    · rw [next]
      exact List.nodup_nil

/-! ### One more file -/

theorem PackageTree.withFile {project : Project} (tree : PackageTree project)
    (owner : PackageId) (name : String) (module : Option ParsedModule) :
    PackageTree (project.withFile owner name module) := by
  have has_iff := project.hasPackage_withFile owner name module
  have frame {id : PackageId} (old : project.HasPackage id) :=
    project.package_withFile_frame owner name module old
  have parent_eq {id : PackageId} (old : project.HasPackage id) :
      ((project.withFile owner name module).package id).parent = (project.package id).parent :=
    (congrArg Package.parent (frame old) :)
  have depth_eq {id : PackageId} (old : project.HasPackage id) :
      ((project.withFile owner name module).package id).depth = (project.package id).depth :=
    (congrArg Package.depth (frame old) :)
  have path_eq {id : PackageId} (old : project.HasPackage id) :
      ((project.withFile owner name module).package id).path = (project.package id).path :=
    (congrArg Package.path (frame old) :)
  have children_eq {id : PackageId} (old : project.HasPackage id) :
      ((project.withFile owner name module).package id).children =
        (project.package id).children :=
    (congrArg Package.children (frame old) :)
  have id_eq {id : PackageId} (old : project.HasPackage id) :
      ((project.withFile owner name module).package id).id = (project.package id).id :=
    (congrArg Package.id (frame old) :)
  refine {
    has_root := (has_iff root).mpr tree.has_root
    number := fun has => ?number
    parent_eq_none_iff := fun has => ?parent_none
    parent_lt := fun has linked => ?parent_lt
    depth_eq := fun {id top} has linked => ?depth
    mem_children_iff := fun {id child} has => ?children
    children_nodup := fun has => ?nodup
    eq_of_same := fun first second same => ?same }
  -- Packages keep all but their files, so every field is the old one.
  all_goals try have old := (has_iff _).mp has
  case number => rw [id_eq old, tree.number old]
  case parent_none => rw [parent_eq old, tree.parent_eq_none_iff old]
  case parent_lt => exact tree.parent_lt old (by rwa [← parent_eq old])
  case depth =>
    rw [parent_eq old] at linked
    rw [depth_eq old, depth_eq (tree.has_parent old linked), tree.depth_eq old linked]
  case children =>
    rw [children_eq old, tree.mem_children_iff old, has_iff child]
    exact and_congr_right fun child_old => by rw [parent_eq child_old]
  case nodup =>
    rw [children_eq old]
    exact tree.children_nodup old
  case same =>
    have first_old := (has_iff _).mp first
    have second_old := (has_iff _).mp second
    rw [path_eq first_old, path_eq second_old] at same
    exact tree.eq_of_same first_old second_old same

theorem FileLists.withFile {project : Project} (lists : FileLists project)
    {owner : PackageId} (above : project.HasPackage owner) {name : String}
    (module : Option ParsedModule)
    (new : project.fileAt? ((project.package owner).path.child name) = none) :
    FileLists (project.withFile owner name module) := by
  have has_package_iff := project.hasPackage_withFile owner name module
  have has_iff := project.hasFile_withFile owner name module
  have old_eq {id : FileId} (old : project.HasFile id) :=
    project.file_withFile owner name module old
  have old_ne {id : FileId} (old : project.HasFile id) : id ≠ project.nextFile :=
    fun same => project.not_hasFile_next (same ▸ old)
  have next := project.file_withFile_next owner name module
  have elsewhere := (project.fileAt?_eq_none_iff _).mp new
  refine {
    number := fun {id} has => ?number
    has_owner := fun {id} has => ?owner
    mem_files_iff := fun {top id} has => ?members
    files_nodup := fun {top} has => ?nodup
    eq_of_same := fun {a b} first second same => ?same }
  case number =>
    rcases (has_iff id).mp has with old | rfl
    · rw [old_eq old, lists.number old]
    · rw [next]; rfl
  case owner =>
    rw [has_package_iff]
    rcases (has_iff id).mp has with old | rfl
    · rw [old_eq old]
      exact lists.has_owner old
    · rw [next]
      exact above
  case members =>
    have old_top := (has_package_iff top).mp has
    have owned_iff : (project.withFile owner name module).HasFile id ∧
        ((project.withFile owner name module).file id).package = top ↔
        (project.HasFile id ∧ (project.file id).package = top) ∨
          id = project.nextFile ∧ top = owner := by
      rw [has_iff id]
      constructor
      · rintro ⟨old | rfl, owned⟩
        · exact Or.inl ⟨old, by rwa [← old_eq old]⟩
        · rw [next] at owned
          exact Or.inr ⟨rfl, owned.symm⟩
      · rintro (⟨old, owned⟩ | ⟨rfl, rfl⟩)
        · exact ⟨Or.inl old, by rwa [old_eq old]⟩
        · exact ⟨Or.inr rfl, by rw [next]; rfl⟩
    rw [owned_iff, project.files_withFile owner name module old_top,
      ← lists.mem_files_iff old_top]
    split
    next h => simp [h]
    next h => simp [h]
  case nodup =>
    have old_top := (has_package_iff top).mp has
    have fresh : project.nextFile ∉ (project.package top).files := fun member =>
      project.not_hasFile_next ((lists.mem_files_iff old_top).mp member).1
    rw [project.files_withFile owner name module old_top]
    split
    next => exact nodup_append_fresh (lists.files_nodup old_top) fresh
    next => exact lists.files_nodup old_top
  case same =>
    -- The new file has a path that no old one has.
    rcases (has_iff a).mp first with old_a | rfl <;> rcases (has_iff b).mp second with old_b | rfl
    · rw [old_eq old_a, old_eq old_b] at same
      exact lists.eq_of_same old_a old_b same
    · rw [old_eq old_a, next] at same
      exact absurd same (elsewhere a old_a)
    · rw [old_eq old_b, next] at same
      exact absurd same.symm (elsewhere b old_b)
    · rfl

/-! ### Every project that can be built -/

theorem wellFormed_new (directory : Path) : WellFormed (Project.new directory) := by
  have has_root : (Project.new directory).HasPackage root := Nat.zero_lt_one
  have no_parent : ((Project.new directory).package root).parent = none := rfl
  refine {
    tree := {
      has_root
      number := fun has => by rw [eq_root_of_new has]; rfl
      parent_eq_none_iff := fun has => by simp [eq_root_of_new has, no_parent]
      parent_lt := fun has linked => by simp [eq_root_of_new has, no_parent] at linked
      depth_eq := fun has linked => by simp [eq_root_of_new has, no_parent] at linked
      mem_children_iff := fun {id child} has => ?children
      children_nodup := fun has => by rw [eq_root_of_new has]; exact List.nodup_nil
      eq_of_same := fun first second _ =>
        (eq_root_of_new first).trans (eq_root_of_new second).symm }
    files := {
      number := fun has => absurd has not_hasFile_new
      has_owner := fun has => absurd has not_hasFile_new
      mem_files_iff := fun has => by
        rw [eq_root_of_new has]
        exact ⟨fun member => absurd member List.not_mem_nil,
          fun owned => absurd owned.1 not_hasFile_new⟩
      files_nodup := fun has => by rw [eq_root_of_new has]; exact List.nodup_nil
      eq_of_same := fun has => absurd has not_hasFile_new }
    edges_nodup := List.nodup_nil
    has_files := fun member => absurd member List.not_mem_nil
    has_scope := has_root }
  case children =>
    have childless : ((Project.new directory).package root).children = [] := rfl
    rw [eq_root_of_new has, childless]
    refine ⟨fun member => absurd member List.not_mem_nil, fun ⟨has_child, linked⟩ => ?_⟩
    rw [eq_root_of_new has_child, no_parent] at linked
    cases linked

theorem WellFormed.addPackage {project : Project} (wellFormed : WellFormed project)
    {parent : PackageId} (above : project.HasPackage parent) (name : String) :
    WellFormed (project.addPackage parent name).2 := by
  rcases project.addPackage_cases parent name with ⟨existing, -, added⟩ | ⟨new, added⟩ <;>
    rw [added]
  · exact wellFormed
  · have has_iff := project.hasPackage_withPackage parent name
    exact {
      tree := wellFormed.tree.withPackage above new
      files := wellFormed.files.withPackage parent name
      edges_nodup := wellFormed.edges_nodup
      has_files := wellFormed.has_files
      has_scope := (has_iff _).mpr (Or.inl wellFormed.has_scope) }

theorem WellFormed.addFile {project : Project} (wellFormed : WellFormed project)
    {owner : PackageId} (above : project.HasPackage owner) (name : String)
    (module : Option ParsedModule) : WellFormed (project.addFile owner name module).2 := by
  rcases project.addFile_cases owner name module with ⟨existing, -, added⟩ | ⟨new, added⟩ <;>
    rw [added]
  · exact wellFormed
  · have has_iff := project.hasFile_withFile owner name module
    exact {
      tree := wellFormed.tree.withFile owner name module
      files := wellFormed.files.withFile above module new
      edges_nodup := wellFormed.edges_nodup
      has_files := fun member =>
        ⟨(has_iff _).mpr (Or.inl (wellFormed.has_files member).1),
          (has_iff _).mpr (Or.inl (wellFormed.has_files member).2)⟩
      has_scope := (project.hasPackage_withFile owner name module _).mpr wellFormed.has_scope }

theorem WellFormed.addDependency {project : Project} (wellFormed : WellFormed project)
    {source target : FileId} (has_source : project.HasFile source)
    (has_target : project.HasFile target) :
    WellFormed (project.addDependency source target) := by
  unfold Project.addDependency
  split
  next => exact wellFormed
  next fresh =>
    exact {
      tree := { wellFormed.tree with }
      files := { wellFormed.files with }
      edges_nodup := nodup_append_fresh wellFormed.edges_nodup fresh
      has_files := fun {edge} member => by
        rcases List.mem_append.mp member with old | new
        · exact wellFormed.has_files old
        · rw [List.mem_singleton.mp new]
          exact ⟨has_source, has_target⟩
      has_scope := wellFormed.has_scope }

/-- Building keeps a project well formed, step by step. -/
theorem Reachable.wellFormed {names : String → Prop} {project : Project}
    (reachable : Reachable names project) : WellFormed project := by
  induction reachable with
  | new directory => exact wellFormed_new directory
  | addPackage _ above _ ih => exact ih.addPackage above _
  | addFile _ above _ ih => exact ih.addFile above _ _
  | addDependency _ has_source has_target ih => exact ih.addDependency has_source has_target
  | rescope _ inside ih =>
    exact { ih with tree := { ih.tree with }, files := { ih.files with }, has_scope := inside }
  | declare policy _ ih => exact { ih with tree := { ih.tree with }, files := { ih.files with } }

end PackageAtlas.Project
