import PackageAtlas.Proofs.Project.Hierarchy
import PackageAtlas.View.Rollup

/-!
# Which shown package stands for a file

A shown package absorbs the files of hidden packages below it, down to the next shown packages.
Seen from a file, this is the first shown package on the way up. The walk down and the search
upwards agree for every tree and every choice of shown packages.
-/
namespace PackageAtlas.Project

variable {project : Project}

/-! ### The search upwards -/

theorem PackageTree.nearestShown?_of_parent (tree : PackageTree project) (shown : List PackageId)
    {id parent : PackageId} (has : project.HasPackage id)
    (linked : (project.package id).parent = some parent) :
    project.nearestShown? shown id =
      if id ∈ shown then some id else project.nearestShown? shown parent := by
  rw [nearestShown?, tree.chain_of_parent has linked, List.find?_cons]
  by_cases member : id ∈ shown <;> simp [member, nearestShown?]

theorem PackageTree.nearestShown?_root (tree : PackageTree project) (shown : List PackageId) :
    project.nearestShown? shown root = if root ∈ shown then some root else none := by
  rw [nearestShown?, tree.chain_root, List.find?_cons]
  by_cases member : root ∈ shown <;> simp [member]

theorem nearestShown?_of_mem {shown : List PackageId} {id : PackageId} (member : id ∈ shown) :
    project.nearestShown? shown id = some id := by
  simp [nearestShown?, chain, member]

theorem mem_of_nearestShown? {shown : List PackageId} {id nearest : PackageId}
    (found : project.nearestShown? shown id = some nearest) :
    nearest ∈ shown ∧ nearest ∈ project.chain id :=
  ⟨by simpa using List.find?_some found, List.mem_of_find?_eq_some found⟩

/-- Where fewer packages are shown, the search goes on from what it found before. -/
theorem PackageTree.nearestShown?_coarser (tree : PackageTree project)
    {fewer more : List PackageId} (included : ∀ id ∈ fewer, id ∈ more) {id : PackageId}
    (has : project.HasPackage id) :
    project.nearestShown? fewer id =
      (project.nearestShown? more id).bind (project.nearestShown? fewer) := by
  induction id, has using tree.induct_up with
  | top =>
    rw [tree.nearestShown?_root more]
    split
    next => rfl
    next hidden =>
      have hidden_too : root ∉ fewer := fun member => hidden (included root member)
      rw [tree.nearestShown?_root fewer, if_neg hidden_too]
      rfl
  | below id parent has has_parent linked ih =>
    rw [tree.nearestShown?_of_parent more has linked]
    split
    next => rfl
    next hidden =>
      have hidden_too : id ∉ fewer := fun member => hidden (included id member)
      rw [tree.nearestShown?_of_parent fewer has linked, if_neg hidden_too, ih]

/-- A shown package is around a package exactly if it is around the nearest shown one. -/
theorem PackageTree.mem_chain_nearest_iff (tree : PackageTree project) {shown : List PackageId}
    {top id nearest : PackageId} (has : project.HasPackage id) (member : top ∈ shown)
    (found : project.nearestShown? shown id = some nearest) :
    top ∈ project.chain nearest ↔ top ∈ project.chain id := by
  induction id, has using tree.induct_up with
  | top =>
    have same := (mem_of_nearestShown? found).2
    rw [tree.chain_root, List.mem_singleton] at same
    rw [same]
  | below id parent has has_parent linked ih =>
    rw [tree.nearestShown?_of_parent shown has linked] at found
    split at found
    next =>
      rw [Option.some.inj found]
    next hidden =>
      have other : top ≠ id := fun same => hidden (same ▸ member)
      rw [ih found, tree.mem_chain_iff has linked top]
      simp [other]

theorem exists_nearestShown? {shown : List PackageId} {top id : PackageId}
    (member : top ∈ shown) (under : top ∈ project.chain id) :
    ∃ nearest, project.nearestShown? shown id = some nearest := by
  apply Option.isSome_iff_exists.mp
  rw [nearestShown?, List.find?_isSome]
  exact ⟨top, under, by simpa using member⟩

/-! ### The walk down -/

/-- Whether the way up from a package reaches `top` through hidden packages only. -/
inductive LeadsTo (project : Project) (shown : List PackageId) (top : PackageId) :
    PackageId → Prop
  | here : LeadsTo project shown top top
  | up {id parent : PackageId} : project.HasPackage id → id ∉ shown →
      (project.package id).parent = some parent → LeadsTo project shown top parent →
      LeadsTo project shown top id

theorem LeadsTo.trans {shown : List PackageId} {top middle id : PackageId}
    (lower : LeadsTo project shown middle id) (upper : LeadsTo project shown top middle) :
    LeadsTo project shown top id := by
  induction lower with
  | here => exact upper
  | up has hidden linked _ ih => exact .up has hidden linked ih

theorem LeadsTo.mem_chain (tree : PackageTree project) {shown : List PackageId}
    {top id : PackageId} (leads : LeadsTo project shown top id) : top ∈ project.chain id := by
  induction leads with
  | here => exact mem_chain_self top
  | up has _ linked _ ih => exact (tree.mem_chain_iff has linked top).mpr (Or.inr ih)

/-- For a shown package, leading to it is having it as the nearest one. -/
theorem PackageTree.leadsTo_iff (tree : PackageTree project) {shown : List PackageId}
    {top id : PackageId} (member : top ∈ shown) (has : project.HasPackage id) :
    LeadsTo project shown top id ↔ project.nearestShown? shown id = some top := by
  constructor
  · intro leads
    induction leads with
    | here => exact nearestShown?_of_mem member
    | up below hidden linked _ ih =>
      rw [tree.nearestShown?_of_parent shown below linked, if_neg hidden]
      exact ih (tree.has_parent below linked)
  · intro found
    induction id, has using tree.induct_up with
    | top =>
      have same := (mem_of_nearestShown? found).2
      rw [tree.chain_root, List.mem_singleton] at same
      rw [same]
      exact .here
    | below id parent has has_parent linked ih =>
      rw [tree.nearestShown?_of_parent shown has linked] at found
      split at found
      next =>
        rw [Option.some.inj found]
        exact .here
      next hidden => exact .up has hidden linked (ih found)

/-! ### The files on the walk down -/

private theorem mem_hidden_iff (tree : PackageTree project) {shown : List PackageId}
    {id child : PackageId} (has : project.HasPackage id) :
    child ∈ (project.package id).children.filter (!shown.contains ·) ↔
      project.HasPackage child ∧ (project.package child).parent = some id ∧ child ∉ shown := by
  rw [List.mem_filter, tree.mem_children_iff has, and_assoc]
  simp

theorem PackageTree.absorbedFiles_eq (tree : PackageTree project) (shown : List PackageId)
    {id : PackageId} (has : project.HasPackage id) :
    project.absorbedFiles shown id = (project.package id).files ++
      ((project.package id).children.filter (!shown.contains ·)).reverse.flatMap
        (project.absorbedFiles shown) := by
  have turn (bound : Nat) (id : PackageId) : project.absorbedFilesWithin shown (bound + 1) id =
      (project.package id).files ++
        ((project.package id).children.filter (!shown.contains ·)).reverse.flatMap
          (project.absorbedFilesWithin shown bound) := rfl
  have only_children (id : PackageId) :
      ((project.package id).children.filter (!shown.contains ·)).reverse ⊆
        (project.package id).children :=
    List.reverse_subset.mpr List.filter_sublist.subset
  exact tree.within_length_eq only_children turn has

private theorem absorbedFiles_parent (wellFormed : WellFormed project) {shown : List PackageId}
    {id parent : PackageId} {file : FileId} (has : project.HasPackage id) (hidden : id ∉ shown)
    (linked : (project.package id).parent = some parent)
    (member : file ∈ project.absorbedFiles shown id) :
    file ∈ project.absorbedFiles shown parent := by
  have tree := wellFormed.tree
  have has_parent := tree.has_parent has linked
  have below := (mem_hidden_iff tree has_parent).mpr ⟨has, linked, hidden⟩
  rw [tree.absorbedFiles_eq shown has_parent, List.mem_append]
  exact Or.inr (List.mem_flatMap.mpr ⟨id, List.mem_reverse.mpr below, member⟩)

/-- A package absorbs the files of the packages that lead to it. -/
theorem WellFormed.mem_absorbedFiles_iff_leadsTo (wellFormed : WellFormed project)
    {shown : List PackageId} {top : PackageId} (has : project.HasPackage top) (file : FileId) :
    file ∈ project.absorbedFiles shown top ↔
      project.HasFile file ∧ LeadsTo project shown top (project.file file).package := by
  have tree := wellFormed.tree
  constructor
  · -- Downwards: an absorbed file is an own one, or one that a hidden child absorbs.
    intro member
    induction top, has using tree.induct_down with
    | above top has ih =>
      rw [tree.absorbedFiles_eq shown has, List.mem_append] at member
      rcases member with own | below
      · obtain ⟨has_file, owned⟩ := (wellFormed.files.mem_files_iff has).mp own
        exact ⟨has_file, owned ▸ .here⟩
      · obtain ⟨child, is_child, lower⟩ := List.mem_flatMap.mp below
        obtain ⟨has_child, linked, hidden⟩ :=
          (mem_hidden_iff tree has).mp (List.mem_reverse.mp is_child)
        obtain ⟨has_file, leads⟩ := ih child has_child linked lower
        exact ⟨has_file, leads.trans (.up has_child hidden linked .here)⟩
  · rintro ⟨has_file, leads⟩
    have has_owner := wellFormed.files.has_owner has_file
    have own : file ∈ project.absorbedFiles shown (project.file file).package := by
      rw [tree.absorbedFiles_eq shown has_owner, List.mem_append]
      exact Or.inl ((wellFormed.files.mem_files_iff has_owner).mpr ⟨has_file, rfl⟩)
    -- From the owner of the file, every step up keeps it absorbed.
    suffices climb : ∀ id, LeadsTo project shown top id →
        file ∈ project.absorbedFiles shown id → file ∈ project.absorbedFiles shown top from
      climb _ leads own
    intro id leads member
    induction leads with
    | here => exact member
    | up below hidden linked _ ih =>
      exact ih (absorbedFiles_parent wellFormed below hidden linked member)

/-- A shown package absorbs the files that it is the nearest shown package of. -/
theorem WellFormed.mem_absorbedFiles_iff (wellFormed : WellFormed project)
    {shown : List PackageId} {top : PackageId} (has : project.HasPackage top)
    (member : top ∈ shown) (file : FileId) :
    file ∈ project.absorbedFiles shown top ↔ project.HasFile file ∧
      project.nearestShown? shown (project.file file).package = some top := by
  rw [wellFormed.mem_absorbedFiles_iff_leadsTo has]
  apply and_congr_right
  intro has_file
  exact wellFormed.tree.leadsTo_iff member (wellFormed.files.has_owner has_file)

theorem WellFormed.absorbedFiles_nodup (wellFormed : WellFormed project) (shown : List PackageId)
    {top : PackageId} (has : project.HasPackage top) : (project.absorbedFiles shown top).Nodup := by
  have tree := wellFormed.tree
  induction top, has using tree.induct_down with
  | above top has ih =>
    have child_of {child : PackageId}
        (member : child ∈ ((project.package top).children.filter (!shown.contains ·)).reverse) :=
      (mem_hidden_iff tree has).mp (List.mem_reverse.mp member)
    have under {child : PackageId} {file : FileId} (has_child : project.HasPackage child)
        (absorbed : file ∈ project.absorbedFiles shown child) :
        project.HasFile file ∧ child ∈ project.chain (project.file file).package := by
      obtain ⟨has_file, leads⟩ :=
        (wellFormed.mem_absorbedFiles_iff_leadsTo has_child file).mp absorbed
      exact ⟨has_file, leads.mem_chain tree⟩
    rw [tree.absorbedFiles_eq shown has, List.nodup_append', List.nodup_flatMap]
    refine ⟨wellFormed.files.files_nodup has, ⟨?each, ?apart⟩, ?outside⟩
    case each =>
      intro child member
      obtain ⟨has_child, linked, -⟩ := child_of member
      exact ih child has_child linked
    case apart =>
      -- A file below two children would put one of them below the other.
      refine List.Pairwise.imp_of_mem ?_
        (List.nodup_reverse.mpr ((tree.children_nodup has).filter _))
      intro a b first second different file in_a in_b
      obtain ⟨has_a, linked_a, -⟩ := child_of first
      obtain ⟨has_b, linked_b, -⟩ := child_of second
      obtain ⟨has_file, under_a⟩ := under has_a in_a
      obtain ⟨-, under_b⟩ := under has_b in_b
      exact different (tree.children_apart has ((tree.mem_children_iff has).mpr ⟨has_a, linked_a⟩)
        ((tree.mem_children_iff has).mpr ⟨has_b, linked_b⟩)
        (wellFormed.files.has_owner has_file) under_a under_b)
    case outside =>
      -- An own file lies below no child, since the children are younger.
      intro file own below
      obtain ⟨child, is_child, lower⟩ := List.mem_flatMap.mp below
      obtain ⟨has_child, linked, -⟩ := child_of is_child
      obtain ⟨-, encloses⟩ := under has_child lower
      rw [((wellFormed.files.mem_files_iff has).mp own).2] at encloses
      have older := (tree.has_of_mem_chain has encloses).2
      have younger := tree.parent_lt has_child linked
      omega

end PackageAtlas.Project
