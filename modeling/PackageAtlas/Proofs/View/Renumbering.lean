import PackageAtlas.Proofs.Project.Counterparts
import PackageAtlas.Proofs.View.Changes
import PackageAtlas.Proofs.View.Recovery

/-!
# Views of renumbered projects

Numbers decide in which order a project is walked, but nothing of it is left in a view: packages,
dependencies and relations are sorted by logical path. So projects with the same content have the
same views, up to the numbers that tell what the packages of a view were made from.
-/
namespace PackageAtlas

/-! ### Views without numbers -/

/-- The package without the number of what it was made from. -/
def ViewPackage.unnumbered (package : ViewPackage) : ViewPackage :=
  { package with origin := Project.root }

namespace View

def unnumbered (view : View) : View where
  packages := view.packages.map ViewPackage.unnumbered
  ordered := List.pairwise_map.mpr view.ordered

theorem isAmbiguous_unnumbered (view : View) (package : ViewPackage) :
    view.unnumbered.isAmbiguous package.unnumbered = view.isAmbiguous package := by
  unfold isAmbiguous unnumbered
  rw [List.any_map]
  rfl

/-- Labels are made of paths and names, so numbers may be dropped before or after. -/
theorem unnumbered_applyLabels (view : View) (usePath : Bool) :
    (view.applyLabels usePath).unnumbered = view.unnumbered.applyLabels usePath := by
  apply eq_of_packages
  unfold applyLabels relabel
  simp only [unnumbered, List.map_map]
  apply List.map_congr_left
  intro package _
  have label_eq : view.unnumbered.briefLabel package.unnumbered = view.briefLabel package := by
    unfold briefLabel
    rw [isAmbiguous_unnumbered]
    rfl
  simp only [Function.comp_apply]
  rw [show (⟨view.packages.map ViewPackage.unnumbered, _⟩ : View) = view.unnumbered from rfl,
    label_eq]
  rfl

theorem table_unnumbered (view : View) (number : ViewDependency → Int) :
    view.unnumbered.table number = view.table number := by
  unfold table unnumbered
  rw [List.map_map]
  rfl

end View

namespace Project

variable {a b : Project} {package : PackageId → PackageId} {file : FileId → FileId}

/-! ### Walks -/

theorem Renumbers.package_root (renumbers : Renumbers a b package file)
    (tree_a : PackageTree a) (tree_b : PackageTree b) : package root = root := by
  have has_root := tree_a.has_root
  have no_parent := renumbers.parent has_root
  rw [(tree_a.parent_eq_none_iff has_root).mpr rfl] at no_parent
  exact (tree_b.parent_eq_none_iff (renumbers.has_package has_root)).mp no_parent

theorem Renumbers.chain (renumbers : Renumbers a b package file) (tree_a : PackageTree a)
    (tree_b : PackageTree b) {id : PackageId} (has : a.HasPackage id) :
    b.chain (package id) = (a.chain id).map package := by
  induction id, has using tree_a.induct_up with
  | top =>
    rw [renumbers.package_root tree_a tree_b, tree_a.chain_root, tree_b.chain_root,
      List.map_singleton, renumbers.package_root tree_a tree_b]
  | below id parent has has_parent linked ih =>
    have linked_b := renumbers.parent has
    rw [linked] at linked_b
    rw [tree_a.chain_of_parent has linked,
      tree_b.chain_of_parent (renumbers.has_package has) linked_b, ih, List.map_cons]

/-- Whether two lists name the same packages, each by the numbers of its own project. -/
def Corresponding (a : Project) (package : PackageId → PackageId) (here there : List PackageId) :
    Prop :=
  ∀ id, a.HasPackage id → (package id ∈ there ↔ id ∈ here)

theorem Renumbers.mem_map_iff (renumbers : Renumbers a b package file) {id : PackageId}
    (has : a.HasPackage id) {others : List PackageId} (inside : ∀ id ∈ others, a.HasPackage id) :
    package id ∈ others.map package ↔ id ∈ others := by
  rw [List.mem_map]
  constructor
  · rintro ⟨other, member, same⟩
    rwa [← renumbers.package_inj (inside other member) has same]
  · intro member
    exact ⟨id, member, rfl⟩

theorem Renumbers.subtree (renumbers : Renumbers a b package file) (tree_a : PackageTree a)
    (tree_b : PackageTree b) {top : PackageId} (has_top : a.HasPackage top) :
    Corresponding a package (a.subtree top) (b.subtree (package top)) := by
  intro id has
  rw [tree_a.mem_subtree_iff has_top, tree_b.mem_subtree_iff (renumbers.has_package has_top),
    renumbers.chain tree_a tree_b has, renumbers.mem_map_iff has_top fun other member =>
      (tree_a.has_of_mem_chain has member).1]
  simp [has, renumbers.has_package has]

/-! ### What a specification shows -/

theorem Renumbers.packageWithRelative? (renumbers : Renumbers a b package file)
    (reachable_a : Reachable SingleName a) (reachable_b : Reachable SingleName b)
    (relative : String) :
    b.packageWithRelative? relative = (a.packageWithRelative? relative).map package := by
  have found_a (id : PackageId) : a.packageWithRelative? relative = some id ↔
      a.HasPackage id ∧ (a.package id).relative = relative :=
    packageWithRelative?_eq_some_iff reachable_a.placed reachable_a.wellFormed.tree
  ext other
  rw [packageWithRelative?_eq_some_iff reachable_b.placed reachable_b.wellFormed.tree,
    Option.map_eq_some_iff]
  constructor
  · rintro ⟨has_other, same⟩
    obtain ⟨id, has, rfl⟩ := renumbers.exists_package has_other
    exact ⟨id, (found_a id).mpr ⟨has, (renumbers.relative has).symm.trans same⟩, rfl⟩
  · rintro ⟨id, found, rfl⟩
    obtain ⟨has, same⟩ := (found_a id).mp found
    exact ⟨renumbers.has_package has, (renumbers.relative has).trans same⟩

theorem Renumbers.toOption_findPackage (renumbers : Renumbers a b package file)
    (reachable_a : Reachable SingleName a) (reachable_b : Reachable SingleName b)
    (spelling : String) :
    (b.findPackage spelling).toOption = (a.findPackage spelling).toOption.map package := by
  have tree_a := reachable_a.wellFormed.tree
  have lookup := renumbers.packageWithRelative? reachable_a reachable_b
  have root_name : (b.package root).name = (a.package root).name := by
    have name := renumbers.name tree_a.has_root
    rwa [renumbers.package_root tree_a reachable_b.wellFormed.tree] at name
  have shortened (relative : String) : b.dropRootName? relative = a.dropRootName? relative := by
    rw [dropRootName?, dropRootName?, root_name]
  have bound (found : Option String) : found.bind b.packageWithRelative? =
      (found.bind a.packageWithRelative?).map package := by
    cases found with
    | none => rfl
    | some relative => exact lookup relative
  unfold findPackage
  dsimp only
  rw [lookup, shortened, bound]
  cases a.packageWithRelative? (LogicalPath.normalize spelling) with
  | some id => rfl
  | none => cases (a.dropRootName? _).bind a.packageWithRelative? <;> rfl

theorem Renumbers.anchor? (renumbers : Renumbers a b package file)
    (reachable_a : Reachable SingleName a) (reachable_b : Reachable SingleName b)
    (path : String) : b.anchor? path = (a.anchor? path).map package := by
  unfold Project.anchor?
  dsimp only
  split
  next => rw [renumbers.scope]; rfl
  next => exact renumbers.toOption_findPackage reachable_a reachable_b _

theorem hasPackage_of_anchor? {project : Project} (wellFormed : WellFormed project) {path : String}
    {anchor : PackageId} (found : project.anchor? path = some anchor) :
    project.HasPackage anchor := by
  unfold Project.anchor? at found
  dsimp only at found
  split at found
  next =>
    cases found
    exact wellFormed.has_scope
  next =>
    cases lookup : project.findPackage (LogicalPath.normalize
        (String.ofList (path.toList.filter (· ≠ '*')))) with
    | error unknown => rw [lookup] at found; cases found
    | ok id =>
      rw [lookup] at found
      cases found
      exact hasPackage_of_findPackage wellFormed.tree lookup

/-! ### The part of a project that is viewed -/

/-- Whether a package is in the scope of its project. -/
def InScope (project : Project) (id : PackageId) : Prop :=
  id ∈ project.subtree project.scope

def FileInScope (project : Project) (id : FileId) : Prop :=
  project.HasFile id ∧ project.InScope (project.file id).package

section

variable {project : Project}

theorem WellFormed.inScope_iff (wellFormed : WellFormed project) {id : PackageId} :
    project.InScope id ↔ project.HasPackage id ∧ project.scope ∈ project.chain id :=
  wellFormed.tree.mem_subtree_iff wellFormed.has_scope

theorem WellFormed.scope_inScope (wellFormed : WellFormed project) :
    project.InScope project.scope :=
  wellFormed.tree.mem_subtree_self wellFormed.has_scope

theorem WellFormed.has_of_inScope (wellFormed : WellFormed project) {id : PackageId}
    (inside : project.InScope id) : project.HasPackage id :=
  (wellFormed.inScope_iff.mp inside).1

/-- What lies below a package in the scope is in the scope. -/
theorem WellFormed.inScope_of_mem_chain (wellFormed : WellFormed project) {top id : PackageId}
    (inside : project.InScope top) (has : project.HasPackage id) (under : top ∈ project.chain id) :
    project.InScope id :=
  wellFormed.inScope_iff.mpr
    ⟨has, wellFormed.tree.mem_chain_trans has (wellFormed.inScope_iff.mp inside).2 under⟩

/-- From every package in the scope the parents lead to the scope itself. -/
theorem WellFormed.induct_scope (wellFormed : WellFormed project)
    {motive : ∀ id, project.InScope id → Prop} (top : motive project.scope wellFormed.scope_inScope)
    (below : ∀ id parent (inside : project.InScope id) (above : project.InScope parent),
      id ≠ project.scope → (project.package id).parent = some parent → motive parent above →
        motive id inside)
    (id : PackageId) (inside : project.InScope id) : motive id inside := by
  have tree := wellFormed.tree
  obtain ⟨has, under⟩ := wellFormed.inScope_iff.mp inside
  induction id, has using tree.induct_up with
  | top =>
    rw [tree.chain_root, List.mem_singleton] at under
    simpa only [under] using top
  | below id parent has has_parent linked ih =>
    by_cases at_scope : id = project.scope
    · simpa only [at_scope] using top
    · have higher := ((tree.mem_chain_iff has linked _).mp under).resolve_left (Ne.symm at_scope)
      have above := wellFormed.inScope_iff.mpr ⟨has_parent, higher⟩
      exact below id parent inside above at_scope linked (ih above higher)

/-- Nothing in the scope is around the scope. -/
theorem WellFormed.mem_chain_scope_iff (wellFormed : WellFormed project) {id : PackageId}
    (inside : project.InScope id) : id ∈ project.chain project.scope ↔ id = project.scope := by
  constructor
  · intro around
    obtain ⟨has, under⟩ := wellFormed.inScope_iff.mp inside
    have no_younger := (wellFormed.tree.has_of_mem_chain wellFormed.has_scope around).2
    have no_older := (wellFormed.tree.has_of_mem_chain has under).2
    have same_index := Nat.le_antisymm no_younger no_older
    cases id
    cases scope_eq : project.scope
    rw [scope_eq] at same_index
    exact congrArg PackageId.mk same_index
  · rintro rfl
    exact mem_chain_self _

variable {shown : List PackageId}

/-- The search upwards finds nothing from outside the scope, where nothing is shown. -/
theorem WellFormed.inScope_of_nearestShown? (wellFormed : WellFormed project)
    (within : ∀ id ∈ shown, project.InScope id) {id nearest : PackageId}
    (has : project.HasPackage id) (found : project.nearestShown? shown id = some nearest) :
    project.InScope id :=
  wellFormed.inScope_of_mem_chain (within nearest (mem_of_nearestShown? found).1) has
    (mem_of_nearestShown? found).2

theorem WellFormed.nearestShown?_scope (wellFormed : WellFormed project)
    (within : ∀ id ∈ shown, project.InScope id) :
    project.nearestShown? shown project.scope =
      if project.scope ∈ shown then some project.scope else none := by
  split
  next is_shown => exact nearestShown?_of_mem is_shown
  next hidden =>
    refine Option.eq_none_iff_forall_ne_some.mpr fun nearest found => hidden ?_
    obtain ⟨is_shown, around⟩ := mem_of_nearestShown? found
    rwa [← (wellFormed.mem_chain_scope_iff (within nearest is_shown)).mp around]

theorem WellFormed.fileInScope_of_standIn? (wellFormed : WellFormed project)
    (within : ∀ id ∈ shown, project.InScope id) {file : FileId} {nearest : PackageId}
    (has : project.HasFile file) (found : project.standIn? shown file = some nearest) :
    project.FileInScope file :=
  ⟨has, wellFormed.inScope_of_nearestShown? within (wellFormed.files.has_owner has) found⟩

/-- Dependencies that fold onto shown packages have both ends in the scope. -/
theorem WellFormed.inScope_of_mem_foldedEdges (wellFormed : WellFormed project)
    (within : ∀ id ∈ shown, project.InScope id) {source target : PackageId} {edge : FileId × FileId}
    (member : edge ∈ project.foldedEdges shown source target) :
    project.FileInScope edge.1 ∧ project.FileInScope edge.2 := by
  obtain ⟨inside, folds⟩ := List.mem_filter.mp member
  obtain ⟨has_source, has_target⟩ := wellFormed.has_files inside
  rw [decide_eq_true_iff] at folds
  exact ⟨wellFormed.fileInScope_of_standIn? within has_source folds.1,
    wellFormed.fileInScope_of_standIn? within has_target folds.2⟩

theorem mem_selectedBy_anchored {candidates : List PackageId} {path : String} {levels : Nat}
    {id : PackageId} :
    id ∈ project.selectedBy candidates (.anchored path levels) ↔
      ∃ anchor, project.anchor? path = some anchor ∧ anchor ∈ candidates ∧
        id ∈ project.expand anchor levels := by
  rw [selectedBy]
  cases project.anchor? path with
  | none => simp
  | some anchor => by_cases inside : anchor ∈ candidates <;> simp [inside]

end

/-- Whether the packages and files in the scope of one project become those in the scope of another
under new numbers. -/
structure ScopeRenumbers (a b : Project) (package : PackageId → PackageId)
    (file : FileId → FileId) : Prop where
  scope : b.scope = package a.scope
  has_package {id : PackageId} : a.InScope id → b.InScope (package id)
  has_file {id : FileId} : a.FileInScope id → b.FileInScope (file id)
  package_inj {x y : PackageId} : a.InScope x → a.InScope y → package x = package y → x = y
  file_inj {x y : FileId} : a.FileInScope x → a.FileInScope y → file x = file y → x = y
  exists_package {other : PackageId} : b.InScope other → ∃ id, a.InScope id ∧ package id = other
  exists_file {other : FileId} : b.FileInScope other → ∃ id, a.FileInScope id ∧ file id = other
  relative {id : PackageId} :
    a.InScope id → (b.package (package id)).relative = (a.package id).relative
  name {id : PackageId} : a.InScope id → (b.package (package id)).name = (a.package id).name
  parent {id : PackageId} :
    a.InScope id → id ≠ a.scope →
      (b.package (package id)).parent = (a.package id).parent.map package
  file_relative {id : FileId} :
    a.FileInScope id → (b.file (file id)).relative = (a.file id).relative
  owner {id : FileId} :
    a.FileInScope id → (b.file (file id)).package = package (a.file id).package
  edges {source target : FileId} :
    a.FileInScope source → a.FileInScope target →
      ((file source, file target) ∈ b.edges ↔ (source, target) ∈ a.edges)

/-- Whether two lists name the same packages of two scopes, each by its own numbers. -/
structure ScopeMatch (a b : Project) (package : PackageId → PackageId)
    (here there : List PackageId) : Prop where
  here_in_scope {id : PackageId} : id ∈ here → a.InScope id
  there_in_scope {id : PackageId} : id ∈ there → b.InScope id
  mem_iff {id : PackageId} : a.InScope id → (package id ∈ there ↔ id ∈ here)

/-- Whether an anchor in the scope of one project is the same in the other. -/
def AnchorsMatch (a b : Project) (package : PackageId → PackageId) (path : String) : Prop :=
  ∀ id, a.InScope id → (b.anchor? path = some (package id) ↔ a.anchor? path = some id)

theorem Renumbers.inScope_iff (renumbers : Renumbers a b package file) (wellFormed_a : WellFormed a)
    (wellFormed_b : WellFormed b) {id : PackageId} (has : a.HasPackage id) :
    b.InScope (package id) ↔ a.InScope id := by
  rw [InScope, renumbers.scope]
  exact renumbers.subtree wellFormed_a.tree wellFormed_b.tree wellFormed_a.has_scope id has

/-- What renumbers a project renumbers its scope. -/
theorem Renumbers.scopeRenumbers (renumbers : Renumbers a b package file)
    (wellFormed_a : WellFormed a) (wellFormed_b : WellFormed b) :
    ScopeRenumbers a b package file := by
  have inScope_iff {id : PackageId} (has : a.HasPackage id) :=
    renumbers.inScope_iff wellFormed_a wellFormed_b has
  have has {id : PackageId} (inside : a.InScope id) := wellFormed_a.has_of_inScope inside
  have owned {id : FileId} (has_file : a.HasFile id) :
      b.FileInScope (file id) ↔ a.FileInScope id := by
    rw [FileInScope, FileInScope, renumbers.owner has_file,
      inScope_iff (wellFormed_a.files.has_owner has_file)]
    exact and_congr_left fun _ => iff_of_true (renumbers.has_file has_file) has_file
  exact {
    scope := renumbers.scope
    has_package := fun inside => (inScope_iff (has inside)).mpr inside
    has_file := fun inside => (owned inside.1).mpr inside
    package_inj := fun inside other_inside => renumbers.package_inj (has inside) (has other_inside)
    file_inj := fun inside other_inside => renumbers.file_inj inside.1 other_inside.1
    exists_package := fun {other} inside => by
      obtain ⟨id, has_id, rfl⟩ := renumbers.exists_package (wellFormed_b.has_of_inScope inside)
      exact ⟨id, (inScope_iff has_id).mp inside, rfl⟩
    exists_file := fun {other} inside => by
      obtain ⟨id, has_id, rfl⟩ := renumbers.exists_file inside.1
      exact ⟨id, (owned has_id).mp inside, rfl⟩
    relative := fun inside => renumbers.relative (has inside)
    name := fun inside => renumbers.name (has inside)
    parent := fun inside _ => renumbers.parent (has inside)
    file_relative := fun inside => renumbers.file_relative inside.1
    owner := fun inside => renumbers.owner inside.1
    edges := fun inside other_inside => renumbers.edges inside.1 other_inside.1 }

theorem Renumbers.anchorsMatch (renumbers : Renumbers a b package file)
    (reachable_a : Reachable SingleName a) (reachable_b : Reachable SingleName b) (path : String) :
    AnchorsMatch a b package path := by
  intro id inside
  rw [renumbers.anchor? reachable_a reachable_b, Option.map_eq_some_iff]
  constructor
  · rintro ⟨anchor, found, same⟩
    have has_anchor := hasPackage_of_anchor? reachable_a.wellFormed found
    have has := reachable_a.wellFormed.has_of_inScope inside
    exact found.trans (congrArg some (renumbers.package_inj has_anchor has same))
  · intro found
    exact ⟨id, found, rfl⟩

theorem ScopeRenumbers.relation (renumbers : ScopeRenumbers a b package file)
    {source target : FileId} (source_inside : a.FileInScope source)
    (target_inside : a.FileInScope target) :
    b.relation (file source, file target) = a.relation (source, target) := by
  rw [Project.relation, Project.relation, renumbers.file_relative source_inside,
    renumbers.file_relative target_inside]

/-! ### Walks in the scope -/

variable {here there : List PackageId}

namespace ScopeRenumbers

section

variable (renumbers : ScopeRenumbers a b package file) (wellFormed_a : WellFormed a)
  (wellFormed_b : WellFormed b)

include renumbers wellFormed_a wellFormed_b

theorem mem_chain_iff {top id : PackageId} (top_inside : a.InScope top) (inside : a.InScope id) :
    package top ∈ b.chain (package id) ↔ top ∈ a.chain id := by
  have package_eq_iff {other : PackageId} (other_inside : a.InScope other) :
      package top = package other ↔ top = other :=
    ⟨renumbers.package_inj top_inside other_inside, congrArg package⟩
  -- Both chains are climbed in step up to the scopes, and what is around these is not in them.
  induction id, inside using wellFormed_a.induct_scope with
  | top =>
    have scope_inside := wellFormed_a.scope_inScope
    rw [wellFormed_a.mem_chain_scope_iff top_inside, ← package_eq_iff scope_inside,
      ← renumbers.scope, wellFormed_b.mem_chain_scope_iff (renumbers.has_package top_inside)]
  | below id parent inside above different linked ih =>
    have linked_b := renumbers.parent inside different
    rw [linked] at linked_b
    rw [wellFormed_a.tree.mem_chain_iff (wellFormed_a.has_of_inScope inside) linked,
      wellFormed_b.tree.mem_chain_iff
        (wellFormed_b.has_of_inScope (renumbers.has_package inside)) linked_b,
      package_eq_iff inside]
    exact or_congr_right ih

theorem mem_subtree_iff {top id : PackageId} (top_inside : a.InScope top)
    (inside : a.InScope id) :
    package id ∈ b.subtree (package top) ↔ id ∈ a.subtree top := by
  have has_top := wellFormed_a.has_of_inScope top_inside
  have has_top_b := wellFormed_b.has_of_inScope (renumbers.has_package top_inside)
  rw [wellFormed_a.tree.mem_subtree_iff has_top, wellFormed_b.tree.mem_subtree_iff has_top_b,
    renumbers.mem_chain_iff wellFormed_a wellFormed_b top_inside inside]
  exact and_congr_left fun _ =>
    iff_of_true (wellFormed_b.has_of_inScope (renumbers.has_package inside))
      (wellFormed_a.has_of_inScope inside)

/-- Seen from the scope, packages are as deep as their counterparts. -/
theorem depth {id : PackageId} (inside : a.InScope id) :
    (b.package (package id)).depth + (a.package a.scope).depth =
      (a.package id).depth + (b.package b.scope).depth := by
  induction id, inside using wellFormed_a.induct_scope with
  | top => rw [← renumbers.scope, Nat.add_comm]
  | below id parent inside above different linked ih =>
    have linked_b := renumbers.parent inside different
    rw [linked] at linked_b
    rw [wellFormed_a.tree.depth_eq (wellFormed_a.has_of_inScope inside) linked,
      wellFormed_b.tree.depth_eq
        (wellFormed_b.has_of_inScope (renumbers.has_package inside)) linked_b]
    omega

/-! ### What a specification shows -/

theorem mem_expand_iff {anchor id : PackageId} (anchor_inside : a.InScope anchor)
    (inside : a.InScope id) (levels : Nat) :
    package id ∈ b.expand (package anchor) levels ↔ id ∈ a.expand anchor levels := by
  have depth := renumbers.depth wellFormed_a wellFormed_b inside
  have anchor_depth := renumbers.depth wellFormed_a wellFormed_b anchor_inside
  have levels_eq : (b.package (package id)).depth - (b.package (package anchor)).depth =
      (a.package id).depth - (a.package anchor).depth := by omega
  rw [expand, expand, List.mem_filter, List.mem_filter, levels_eq,
    renumbers.mem_subtree_iff wellFormed_a wellFormed_b anchor_inside inside]

theorem mem_selectedBy_iff {selector : PackageSelector}
    (anchors : ∀ path levels, selector = .anchored path levels → AnchorsMatch a b package path)
    {id : PackageId} (inside : a.InScope id) :
    package id ∈ b.selectedBy (b.subtree b.scope) selector ↔
      id ∈ a.selectedBy (a.subtree a.scope) selector := by
  cases selector with
  | byPrefix text =>
    have candidate : package id ∈ b.subtree b.scope ↔ id ∈ a.subtree a.scope :=
      iff_of_true (renumbers.has_package inside) inside
    simp only [Project.selectedBy, List.mem_filter, candidate, renumbers.relative inside]
  | anchored path levels =>
    have anchor_iff := anchors path levels rfl
    rw [mem_selectedBy_anchored, mem_selectedBy_anchored]
    constructor
    · rintro ⟨_, found, other_inside, expanded⟩
      obtain ⟨anchor, anchor_inside, rfl⟩ := renumbers.exists_package other_inside
      exact ⟨anchor, (anchor_iff anchor anchor_inside).mp found, anchor_inside,
        (renumbers.mem_expand_iff wellFormed_a wellFormed_b anchor_inside inside levels).mp
          expanded⟩
    · rintro ⟨anchor, found, anchor_inside, expanded⟩
      exact ⟨package anchor, (anchor_iff anchor anchor_inside).mpr found,
        renumbers.has_package anchor_inside,
        (renumbers.mem_expand_iff wellFormed_a wellFormed_b anchor_inside inside levels).mpr
          expanded⟩

theorem shownPackages {spec : ViewSpec}
    (anchors : ∀ path levels, .anchored path levels ∈ spec.packages →
      AnchorsMatch a b package path) :
    ScopeMatch a b package (a.shownPackages spec) (b.shownPackages spec) where
  here_in_scope := List.mem_of_mem_filter
  there_in_scope := List.mem_of_mem_filter
  mem_iff {id} inside := by
    -- Without selectors the scope alone is selected, otherwise each selector picks counterparts.
    have selected : package id ∈ (if spec.packages.isEmpty then [b.scope]
          else spec.packages.flatMap (b.selectedBy (b.subtree b.scope))) ↔
        id ∈ (if spec.packages.isEmpty then [a.scope]
          else spec.packages.flatMap (a.selectedBy (a.subtree a.scope))) := by
      split
      next =>
        rw [List.mem_singleton, List.mem_singleton, renumbers.scope]
        exact ⟨renumbers.package_inj inside wellFormed_a.scope_inScope, congrArg package⟩
      next =>
        simp only [List.mem_flatMap]
        refine exists_congr fun selector => and_congr_right fun listed => ?_
        exact renumbers.mem_selectedBy_iff wellFormed_a wellFormed_b
          (fun path levels is_anchor => anchors path levels (is_anchor ▸ listed)) inside
    have candidate : package id ∈ b.subtree b.scope ↔ id ∈ a.subtree a.scope :=
      iff_of_true (renumbers.has_package inside) inside
    simp only [Project.shownPackages, List.mem_filter, Bool.and_eq_true, List.contains_iff_mem,
      selected, candidate, renumbers.relative inside]

/-! ### Dependencies -/

theorem nearestShown? (shown : ScopeMatch a b package here there) {id : PackageId}
    (inside : a.InScope id) :
    b.nearestShown? there (package id) = (a.nearestShown? here id).map package := by
  induction id, inside using wellFormed_a.induct_scope with
  | top =>
    have shown_iff := shown.mem_iff wellFormed_a.scope_inScope
    rw [← renumbers.scope] at shown_iff ⊢
    rw [wellFormed_a.nearestShown?_scope fun _ => shown.here_in_scope,
      wellFormed_b.nearestShown?_scope fun _ => shown.there_in_scope]
    simp only [shown_iff, apply_ite (Option.map package), Option.map_some, Option.map_none,
      ← renumbers.scope]
  | below id parent inside above different linked ih =>
    have linked_b := renumbers.parent inside different
    rw [linked] at linked_b
    rw [wellFormed_a.tree.nearestShown?_of_parent here (wellFormed_a.has_of_inScope inside) linked,
      wellFormed_b.tree.nearestShown?_of_parent there
        (wellFormed_b.has_of_inScope (renumbers.has_package inside)) linked_b, ih]
    simp only [shown.mem_iff inside, apply_ite (Option.map package), Option.map_some]

theorem standIn?_eq_some_iff (shown : ScopeMatch a b package here there) {id : PackageId}
    (inside : a.InScope id) {source : FileId} (source_inside : a.FileInScope source) :
    b.standIn? there (file source) = some (package id) ↔ a.standIn? here source = some id := by
  rw [standIn?, standIn?, renumbers.owner source_inside,
    renumbers.nearestShown? wellFormed_a wellFormed_b shown source_inside.2]
  constructor
  · intro found
    obtain ⟨nearest, found_a, same⟩ := Option.map_eq_some_iff.mp found
    have nearest_inside := shown.here_in_scope (mem_of_nearestShown? found_a).1
    rw [found_a, renumbers.package_inj nearest_inside inside same]
  · intro found
    rw [found]
    rfl

/-- Counterparts stand for the same dependencies between files. -/
theorem foldedEdges_perm (shown : ScopeMatch a b package here there) {source target : PackageId}
    (source_inside : a.InScope source) (target_inside : a.InScope target) :
    ((a.foldedEdges here source target).map a.relation).Perm
      ((b.foldedEdges there (package source) (package target)).map b.relation) := by
  let move (edge : FileId × FileId) : FileId × FileId := (file edge.1, file edge.2)
  have stand_in {id : PackageId} (inside : a.InScope id) {edge : FileId}
      (file_inside : a.FileInScope edge) :=
    renumbers.standIn?_eq_some_iff wellFormed_a wellFormed_b shown inside file_inside
  have ends {edge : FileId × FileId} (member : edge ∈ a.foldedEdges here source target) :=
    wellFormed_a.inScope_of_mem_foldedEdges (fun _ => shown.here_in_scope) member
  -- No dependency is listed twice on either side, so the same dependencies are enough.
  have moved : ((a.foldedEdges here source target).map move).Perm
      (b.foldedEdges there (package source) (package target)) := by
    refine (List.perm_ext_iff_of_nodup
      (List.Nodup.map_on ?apart (wellFormed_a.edges_nodup.filter _))
      (wellFormed_b.edges_nodup.filter _)).mpr fun edge => ⟨?forth, ?back⟩
    case apart =>
      intro first in_first second in_second same
      obtain ⟨first_source, first_target⟩ := ends in_first
      obtain ⟨second_source, second_target⟩ := ends in_second
      exact Prod.ext (renumbers.file_inj first_source second_source (congrArg Prod.fst same))
        (renumbers.file_inj first_target second_target (congrArg Prod.snd same))
    case forth =>
      rintro moved
      obtain ⟨⟨from_file, to_file⟩, member, rfl⟩ := List.mem_map.mp moved
      obtain ⟨from_inside, to_inside⟩ := ends member
      obtain ⟨inside, folds⟩ := List.mem_filter.mp member
      obtain ⟨starts, lands⟩ := decide_eq_true_iff.mp folds
      refine List.mem_filter.mpr
        ⟨(renumbers.edges from_inside to_inside).mpr inside, decide_eq_true ⟨?_, ?_⟩⟩
      · exact (stand_in source_inside from_inside).mpr starts
      · exact (stand_in target_inside to_inside).mpr lands
    case back =>
      intro member
      obtain ⟨first_inside, second_inside⟩ :=
        wellFormed_b.inScope_of_mem_foldedEdges (fun _ => shown.there_in_scope) member
      obtain ⟨inside, folds⟩ := List.mem_filter.mp member
      obtain ⟨starts, lands⟩ := decide_eq_true_iff.mp folds
      obtain ⟨first, second⟩ := edge
      obtain ⟨from_file, from_inside, rfl⟩ := renumbers.exists_file first_inside
      obtain ⟨to_file, to_inside, rfl⟩ := renumbers.exists_file second_inside
      refine List.mem_map.mpr ⟨(from_file, to_file), List.mem_filter.mpr
        ⟨(renumbers.edges from_inside to_inside).mp inside, decide_eq_true ⟨?_, ?_⟩⟩, rfl⟩
      · exact (stand_in source_inside from_inside).mp starts
      · exact (stand_in target_inside to_inside).mp lands
  refine List.Perm.trans (List.Perm.of_eq ?_) (moved.map b.relation)
  rw [List.map_map]
  apply List.map_congr_left
  intro edge member
  obtain ⟨from_inside, to_inside⟩ := ends member
  exact (renumbers.relation from_inside to_inside).symm

theorem summary (shown : ScopeMatch a b package here there) {id destination : PackageId}
    (member : id ∈ here) (destination_inside : a.InScope destination)
    (different : destination ≠ id) :
    b.summary there (package id) (package destination) = a.summary here id destination := by
  have inside := shown.here_in_scope member
  have different_b : package destination ≠ package id :=
    fun same => different (renumbers.package_inj destination_inside inside same)
  have carried_a :=
    wellFormed_a.crossings_perm (wellFormed_a.has_of_inScope inside) member different
  have carried_b := wellFormed_b.crossings_perm
    (wellFormed_b.has_of_inScope (renumbers.has_package inside))
    ((shown.mem_iff inside).mpr member) different_b
  have folded := renumbers.foldedEdges_perm wellFormed_a wellFormed_b shown inside
    destination_inside
  have carried := (carried_b.trans folded.symm).trans carried_a.symm
  rw [Project.summary, Project.summary, renumbers.relative inside,
    renumbers.relative destination_inside, carried.length_eq,
    FileRelation.mergeSort_eq_of_perm carried]

end

end ScopeRenumbers

/-- Counterparts carry the same dependencies. -/
theorem ScopeRenumbers.rolledUpDependencies (renumbers : ScopeRenumbers a b package file)
    (reachable_a : Reachable SingleName a) (reachable_b : Reachable SingleName b)
    (shown : ScopeMatch a b package here there) {id : PackageId} (member : id ∈ here) :
    b.rolledUpDependencies there (package id) = a.rolledUpDependencies here id := by
  have wellFormed_a := reachable_a.wellFormed
  have wellFormed_b := reachable_b.wellFormed
  have inside := shown.here_in_scope member
  have member_b := (shown.mem_iff inside).mpr member
  have folded {target : PackageId} (target_inside : a.InScope target) :
      b.foldedEdges there (package id) (package target) = [] ↔
        a.foldedEdges here id target = [] := by
    have perm := renumbers.foldedEdges_perm wellFormed_a wellFormed_b shown inside target_inside
    rw [← List.map_eq_nil_iff (f := b.relation), ← List.map_eq_nil_iff (f := a.relation)]
    exact ⟨fun nothing => by rwa [nothing, List.perm_nil] at perm,
      fun nothing => by rwa [nothing, List.nil_perm] at perm⟩
  refine eq_of_mem_iff (fun _ _ => String.lt_asymm)
    (reachable_b.placed.rolledUpDependencies_ascending wellFormed_b
      (fun _ shown_b => wellFormed_b.has_of_inScope (shown.there_in_scope shown_b)) member_b)
    (reachable_a.placed.rolledUpDependencies_ascending wellFormed_a
      (fun _ shown_a => wellFormed_a.has_of_inScope (shown.here_in_scope shown_a)) member)
    fun dependency => ?_
  rw [wellFormed_b.mem_rolledUpDependencies_iff
      (wellFormed_b.has_of_inScope (renumbers.has_package inside)) member_b,
    wellFormed_a.mem_rolledUpDependencies_iff (wellFormed_a.has_of_inScope inside) member]
  constructor
  · rintro ⟨reached, different, something, rfl⟩
    obtain ⟨target, target_inside, rfl⟩ :=
      renumbers.exists_package (shown.there_in_scope (mem_of_foldedEdges_ne_nil something))
    have different_a : target ≠ id := fun same => different (congrArg package same)
    exact ⟨target, different_a, mt (folded target_inside).mpr something,
      (renumbers.summary wellFormed_a wellFormed_b shown member target_inside different_a).symm⟩
  · rintro ⟨target, different, something, rfl⟩
    have target_inside := shown.here_in_scope (mem_of_foldedEdges_ne_nil something)
    exact ⟨package target,
      fun same => different (renumbers.package_inj target_inside inside same),
      mt (folded target_inside).mp something,
      renumbers.summary wellFormed_a wellFormed_b shown member target_inside different⟩

/-! ### Views -/

theorem ScopeRenumbers.rolledUpPackage (renumbers : ScopeRenumbers a b package file)
    (reachable_a : Reachable SingleName a) (reachable_b : Reachable SingleName b)
    (shown : ScopeMatch a b package here there) {id : PackageId} (member : id ∈ here) :
    (b.rolledUpPackage there (package id)).unnumbered =
      (a.rolledUpPackage here id).unnumbered := by
  have inside := shown.here_in_scope member
  have dotted : (b.package (package id)).dottedName = (a.package id).dottedName := by
    rw [Package.dottedName, Package.dottedName, renumbers.relative inside, renumbers.name inside]
  have carried := renumbers.rolledUpDependencies reachable_a reachable_b shown member
  simp only [Project.rolledUpPackage, ViewPackage.unnumbered, dotted, renumbers.relative inside,
    carried]

/-- A view shows what is in the scope, and nothing of how it is numbered. -/
theorem ScopeRenumbers.view (renumbers : ScopeRenumbers a b package file)
    (reachable_a : Reachable SingleName a) (reachable_b : Reachable SingleName b) {spec : ViewSpec}
    (anchors : ∀ path levels, .anchored path levels ∈ spec.packages →
      AnchorsMatch a b package path) :
    (b.view spec).unnumbered = (a.view spec).unnumbered := by
  have wellFormed_a := reachable_a.wellFormed
  have wellFormed_b := reachable_b.wellFormed
  have shown := renumbers.shownPackages wellFormed_a wellFormed_b anchors
  have rolled_up {id : PackageId} (member : id ∈ a.shownPackages spec) :=
    renumbers.rolledUpPackage reachable_a reachable_b shown member
  have drawn_a := View.ofList_perm (reachable_a.placed.rolledUp_paths_nodup wellFormed_a spec)
  have drawn_b := View.ofList_perm (reachable_b.placed.rolledUp_paths_nodup wellFormed_b spec)
  rw [Project.view, Project.view, View.unnumbered_applyLabels, View.unnumbered_applyLabels]
  congr 1
  -- Views are sorted by paths, so the same packages are enough.
  apply View.eq_of_packages
  refine eq_of_mem_iff (fun _ _ => String.lt_asymm) (View.unnumbered _).ordered
    (View.unnumbered _).ordered fun shape => ?_
  simp only [View.unnumbered, List.mem_map, drawn_a.mem_iff, drawn_b.mem_iff,
    exists_exists_and_eq_and]
  constructor
  · rintro ⟨other, member, rfl⟩
    obtain ⟨id, inside, rfl⟩ := renumbers.exists_package (shown.there_in_scope member)
    have member_a := (shown.mem_iff inside).mp member
    exact ⟨id, member_a, (rolled_up member_a).symm⟩
  · rintro ⟨id, member, rfl⟩
    exact ⟨package id, (shown.mem_iff (shown.here_in_scope member)).mpr member, rolled_up member⟩

theorem Renumbers.view (renumbers : Renumbers a b package file)
    (reachable_a : Reachable SingleName a) (reachable_b : Reachable SingleName b)
    (spec : ViewSpec) : (b.view spec).unnumbered = (a.view spec).unnumbered :=
  (renumbers.scopeRenumbers reachable_a.wellFormed reachable_b.wellFormed).view reachable_a
    reachable_b fun path _ _ => renumbers.anchorsMatch reachable_a reachable_b path

/-- Views depend on the content of a project alone: with the same content they are equal in all but
the numbers their packages were made from, and there is nothing to tell in their comparison. -/
theorem Reachable.view_of_sameContent (reachable_a : Reachable SingleName a)
    (reachable_b : Reachable SingleName b) (same : SameContent a b) (spec : ViewSpec) :
    (a.view spec).unnumbered = (b.view spec).unnumbered ∧
      ((a.view spec).diff (b.view spec)).hasChanges = false ∧
      ((a.view spec).diff (b.view spec)).changes = [] := by
  have views_eq := ((same.renumbers reachable_a reachable_b).view reachable_a reachable_b spec).symm
  have plain_a := reachable_a.placed.view_plain reachable_a.wellFormed spec
  have plain_b := reachable_b.placed.view_plain reachable_b.wellFormed spec
  have unchanged : ((a.view spec).diff (b.view spec)).hasChanges = false := by
    apply (plain_a.hasChanges_diff_eq_false_iff plain_b).mpr
    rw [← View.table_unnumbered, views_eq, View.table_unnumbered]
  exact ⟨views_eq, unchanged, View.hasChanges_eq_false_iff.mp unchanged⟩

/-- Calls for four packages with three files and two dependencies. -/
def innerFirst : List Operation :=
  [.addPackage root "a", .addPackage ⟨1⟩ "c", .addPackage ⟨2⟩ "d", .addPackage root "b",
    .addFile ⟨2⟩ "x.py" none, .addFile ⟨4⟩ "y.py" none, .addFile ⟨3⟩ "z.py" none,
    .addDependency ⟨0⟩ ⟨1⟩, .addDependency ⟨2⟩ ⟨1⟩, .changeScope "a"]

/-- Calls for the same content in another order. -/
def outerFirst : List Operation :=
  [.addPackage root "b", .addFile ⟨1⟩ "y.py" none, .addPackage root "a", .addPackage ⟨2⟩ "c",
    .changeScope "a", .addPackage ⟨3⟩ "d", .addFile ⟨4⟩ "z.py" none, .addDependency ⟨1⟩ ⟨0⟩,
    .addFile ⟨3⟩ "x.py" none, .addDependency ⟨2⟩ ⟨0⟩]

theorem reordered_view :
    let first := (Project.new ⟨"/p"⟩).run innerFirst
    let second := (Project.new ⟨"/q/p"⟩).run outerFirst
    first.packages.map (·.relative) ≠ second.packages.map (·.relative) ∧
      first.edges ≠ second.edges ∧
      (first.view sampleSpec).unnumbered = (second.view sampleSpec).unnumbered ∧
      ((first.view sampleSpec).diff (second.view sampleSpec)).hasChanges = false := by
  intro first second
  have reachable_first : Reachable SingleName first :=
    ((kept_new ⟨"/p"⟩).run (by decide +kernel) (by decide +kernel)).reachable
  have reachable_second : Reachable SingleName second :=
    ((kept_new ⟨"/q/p"⟩).run (by decide +kernel) (by decide +kernel)).reachable
  have packages : (first.packages.map (·.relative)).Perm (second.packages.map (·.relative)) := by
    decide +kernel
  have files : (first.files.map (·.relative)).Perm (second.files.map (·.relative)) := by
    decide +kernel
  have edges : (first.edges.map first.relation).Perm (second.edges.map second.relation) := by
    decide +kernel
  have same : SameContent first second := {
    root_name := by decide +kernel
    packages := fun _ => packages.mem_iff
    files := fun _ => files.mem_iff
    edges := fun _ => edges.mem_iff
    scope := by decide +kernel }
  obtain ⟨equal, unchanged, -⟩ :=
    reachable_first.view_of_sameContent reachable_second same sampleSpec
  exact ⟨by decide +kernel, by decide +kernel, equal, unchanged⟩

end Project

end PackageAtlas
