import Mathlib.Data.List.Nodup
import PackageAtlas.Proofs.Project.WellFormed

/-!
# Walks through the package tree

The walk up from a package and the walk down below it, freed of their bounds: each satisfies the
equation of an unbounded walk. A package lies below another in the one sense exactly if it does in
the other, and is met once on each walk.
-/
namespace PackageAtlas.Project

/-! ### Upwards -/

variable {project : Project}

/-- From every package the parents lead to the root. -/
theorem PackageTree.induct_up (tree : PackageTree project)
    {motive : ∀ id, project.HasPackage id → Prop} (top : motive root tree.has_root)
    (below : ∀ id parent (has : project.HasPackage id) (has_parent : project.HasPackage parent),
      (project.package id).parent = some parent → motive parent has_parent → motive id has)
    (id : PackageId) (has : project.HasPackage id) : motive id has := by
  induction h : id.index using Nat.strongRecOn generalizing id with
  | ind index ih =>
    cases linked : (project.package id).parent with
    | none =>
      obtain rfl := (tree.parent_eq_none_iff has).mp linked
      exact top
    | some parent =>
      have older := tree.parent_lt has linked
      have has_parent := tree.has_parent has linked
      have reached := ih parent.index (h ▸ older) parent has_parent rfl
      exact below id parent has has_parent linked reached

/-- From every package the children lead to packages without children. -/
theorem PackageTree.induct_down (tree : PackageTree project)
    {motive : ∀ id, project.HasPackage id → Prop}
    (above : ∀ id (has : project.HasPackage id),
      (∀ child (has_child : project.HasPackage child),
        (project.package child).parent = some id → motive child has_child) → motive id has)
    (id : PackageId) (has : project.HasPackage id) : motive id has := by
  -- Children are younger, so fewer packages are left behind them.
  induction h : project.packages.length - id.index using Nat.strongRecOn generalizing id with
  | ind distance ih =>
    apply above id has
    intro child has_child linked
    have younger := tree.parent_lt has_child linked
    have bound : id.index < project.packages.length := has
    exact ih (project.packages.length - child.index) (by omega) child has_child rfl

/-- A bound on the walk to the root does not matter once it is large enough. -/
theorem PackageTree.ancestorsWithin_eq (tree : PackageTree project) {id : PackageId}
    (has : project.HasPackage id) {bound other : Nat} (enough : id.index ≤ bound)
    (enough_too : id.index ≤ other) :
    project.ancestorsWithin bound id = project.ancestorsWithin other id := by
  induction bound generalizing id other with
  | zero =>
    have is_root : id = root := by
      obtain ⟨index⟩ := id
      exact congrArg PackageId.mk (Nat.le_zero.mp enough)
    have no_parent := (tree.parent_eq_none_iff has).mpr is_root
    cases other <;> simp [ancestorsWithin, no_parent]
  | succ bound ih =>
    cases linked : (project.package id).parent with
    | none => cases other <;> simp [ancestorsWithin, linked]
    | some parent =>
      have older := tree.parent_lt has linked
      obtain ⟨rest, rfl⟩ : ∃ rest, other = rest + 1 := ⟨other - 1, by omega⟩
      have same_rest : project.ancestorsWithin bound parent = project.ancestorsWithin rest parent :=
        ih (tree.has_parent has linked) (by omega) (by omega)
      simp only [ancestorsWithin, linked, same_rest]

theorem PackageTree.chain_root (tree : PackageTree project) : project.chain root = [root] := by
  have no_parent := (tree.parent_eq_none_iff tree.has_root).mpr rfl
  obtain ⟨count, length_eq⟩ := tree.has_root.exists_length
  simp [chain, ancestors, length_eq, ancestorsWithin, no_parent]

theorem PackageTree.chain_of_parent (tree : PackageTree project) {id parent : PackageId}
    (has : project.HasPackage id) (linked : (project.package id).parent = some parent) :
    project.chain id = id :: project.chain parent := by
  have older := tree.parent_lt has linked
  have has_parent := tree.has_parent has linked
  have bound : id.index < project.packages.length := has
  obtain ⟨count, length_eq⟩ := has.exists_length
  -- The walk from the parent has one step less, which is still enough.
  have walk : project.ancestorsWithin count parent = project.ancestors parent :=
    tree.ancestorsWithin_eq has_parent (by omega) (Nat.le_of_lt has_parent)
  rw [chain, ancestors, length_eq, ancestorsWithin, linked]
  simp only [walk, chain]

theorem mem_chain_self (id : PackageId) : id ∈ project.chain id :=
  List.mem_cons_self

theorem PackageTree.mem_chain_iff (tree : PackageTree project) {id parent : PackageId}
    (has : project.HasPackage id) (linked : (project.package id).parent = some parent)
    (top : PackageId) : top ∈ project.chain id ↔ top = id ∨ top ∈ project.chain parent := by
  rw [tree.chain_of_parent has linked, List.mem_cons]

/-- The chain of a package ends with the chain of every package on it. -/
theorem PackageTree.chain_suffix (tree : PackageTree project) {top id : PackageId}
    (has : project.HasPackage id) (member : top ∈ project.chain id) :
    project.chain top <:+ project.chain id := by
  induction id, has using tree.induct_up with
  | top =>
    rw [tree.chain_root, List.mem_singleton] at member
    subst member
    exact List.suffix_refl _
  | below id parent has has_parent linked ih =>
    rcases (tree.mem_chain_iff has linked top).mp member with rfl | higher
    · exact List.suffix_refl _
    · rw [tree.chain_of_parent has linked]
      exact (ih higher).trans (List.suffix_cons id _)

theorem PackageTree.mem_chain_trans (tree : PackageTree project) {a b c : PackageId}
    (has : project.HasPackage c) (upper : a ∈ project.chain b) (lower : b ∈ project.chain c) :
    a ∈ project.chain c :=
  (tree.chain_suffix has lower).subset upper

/-- Every package on a chain is there, and not younger than the first. -/
theorem PackageTree.has_of_mem_chain (tree : PackageTree project) {top id : PackageId}
    (has : project.HasPackage id) (member : top ∈ project.chain id) :
    project.HasPackage top ∧ top.index ≤ id.index := by
  induction id, has using tree.induct_up with
  | top =>
    rw [tree.chain_root, List.mem_singleton] at member
    subst member
    exact ⟨tree.has_root, Nat.le_refl _⟩
  | below id parent has has_parent linked ih =>
    have older := tree.parent_lt has linked
    rcases (tree.mem_chain_iff has linked top).mp member with rfl | higher
    · exact ⟨has, Nat.le_refl _⟩
    · exact ⟨(ih higher).1, Nat.le_trans (ih higher).2 (Nat.le_of_lt older)⟩

/-- Of two packages on one chain, one lies on the chain of the other. -/
theorem PackageTree.chain_linear (tree : PackageTree project) {a b id : PackageId}
    (has : project.HasPackage id) (first : a ∈ project.chain id) (second : b ∈ project.chain id) :
    a ∈ project.chain b ∨ b ∈ project.chain a := by
  have of_suffix {x y : PackageId} (suffix : project.chain x <:+ project.chain y) :
      x ∈ project.chain y := suffix.subset (mem_chain_self x)
  exact (List.suffix_or_suffix_of_suffix (tree.chain_suffix has first)
    (tree.chain_suffix has second)).imp of_suffix of_suffix

/-- Nothing lies below two children of one package. -/
theorem PackageTree.children_apart (tree : PackageTree project) {id a b below : PackageId}
    (has : project.HasPackage id) (first : a ∈ (project.package id).children)
    (second : b ∈ (project.package id).children) (has_below : project.HasPackage below)
    (under_a : a ∈ project.chain below) (under_b : b ∈ project.chain below) : a = b := by
  -- A child above another one would be above the common parent, and so older than it.
  have above_self {x y : PackageId} (x_child : x ∈ (project.package id).children)
      (y_child : y ∈ (project.package id).children) (encloses : x ∈ project.chain y) : x = y := by
    obtain ⟨has_x, x_linked⟩ := (tree.mem_children_iff has).mp x_child
    obtain ⟨has_y, y_linked⟩ := (tree.mem_children_iff has).mp y_child
    rcases (tree.mem_chain_iff has_y y_linked x).mp encloses with same | higher
    · exact same
    · have older := (tree.has_of_mem_chain has higher).2
      have younger := tree.parent_lt has_x x_linked
      omega
  rcases tree.chain_linear has_below under_a under_b with encloses | encloses
  · exact above_self first second encloses
  · exact (above_self second first encloses).symm

theorem PackageTree.root_mem_chain (tree : PackageTree project) {id : PackageId}
    (has : project.HasPackage id) : root ∈ project.chain id := by
  induction id, has using tree.induct_up with
  | top => exact mem_chain_self root
  | below id parent has _ linked ih => exact (tree.mem_chain_iff has linked root).mpr (Or.inr ih)

/-- Every step up the tree is one level. -/
theorem PackageTree.depth_of_getElem?_chain (tree : PackageTree project) {id top : PackageId}
    (has : project.HasPackage id) {steps : Nat} (reached : (project.chain id)[steps]? = some top) :
    (project.package id).depth = (project.package top).depth + steps := by
  induction id, has using tree.induct_up generalizing steps with
  | top =>
    rw [tree.chain_root, List.getElem?_singleton] at reached
    split at reached
    next none_taken => cases reached; rw [none_taken]; rfl
    next => cases reached
  | below id parent has _ linked ih =>
    -- The first step leads to the parent, the others are steps from there.
    rw [tree.chain_of_parent has linked] at reached
    cases steps with
    | zero => cases reached; rfl
    | succ steps => rw [tree.depth_eq has linked, ih reached, Nat.add_assoc]

theorem PackageTree.depth_le (tree : PackageTree project) {id top : PackageId}
    (has : project.HasPackage id) (under : top ∈ project.chain id) :
    (project.package top).depth ≤ (project.package id).depth := by
  obtain ⟨steps, reached⟩ := List.mem_iff_getElem?.mp under
  have depth_eq := tree.depth_of_getElem?_chain has reached
  omega

/-! ### Downwards -/

section Bounded

variable {β : Type} {within : Nat → PackageId → List β} {found : PackageId → List β}
  {next : PackageId → List PackageId}

/-- A bound on a walk down does not matter once it is large enough. -/
theorem PackageTree.within_eq (tree : PackageTree project)
    (only_children : ∀ id, next id ⊆ (project.package id).children)
    (turn : ∀ bound id, within (bound + 1) id = found id ++ (next id).flatMap (within bound))
    {id : PackageId} (has : project.HasPackage id) {bound other : Nat}
    (enough : project.packages.length ≤ id.index + bound)
    (enough_too : project.packages.length ≤ id.index + other) :
    within bound id = within other id := by
  have inside : id.index < project.packages.length := has
  induction bound generalizing id other with
  | zero => omega
  | succ bound ih =>
    obtain ⟨rest, rfl⟩ : ∃ rest, other = rest + 1 := ⟨other - 1, by omega⟩
    rw [turn, turn]
    congr 1
    apply List.flatMap_congr
    intro child member
    obtain ⟨has_child, linked⟩ := (tree.mem_children_iff has).mp (only_children id member)
    -- A child has a larger number, which makes up for the smaller bound.
    have younger := tree.parent_lt has_child linked
    exact ih has_child (by omega) (by omega) has_child

/-- Bounded by the number of packages, a walk down satisfies the equation of one without a bound. -/
theorem PackageTree.within_length_eq (tree : PackageTree project)
    (only_children : ∀ id, next id ⊆ (project.package id).children)
    (turn : ∀ bound id, within (bound + 1) id = found id ++ (next id).flatMap (within bound))
    {id : PackageId} (has : project.HasPackage id) :
    within project.packages.length id =
      found id ++ (next id).flatMap (within project.packages.length) := by
  have inside : id.index < project.packages.length := has
  obtain ⟨count, length_eq⟩ := has.exists_length
  rw [length_eq, turn]
  congr 1
  apply List.flatMap_congr
  intro child member
  obtain ⟨has_child, linked⟩ := (tree.mem_children_iff has).mp (only_children id member)
  have younger := tree.parent_lt has_child linked
  exact tree.within_eq only_children turn has_child (by omega) (by omega)

end Bounded

theorem PackageTree.subtree_eq (tree : PackageTree project) {id : PackageId}
    (has : project.HasPackage id) :
    project.subtree id = id :: (project.package id).children.flatMap project.subtree := by
  have turn (bound : Nat) (id : PackageId) : project.subtreeWithin (bound + 1) id =
      [id] ++ (project.package id).children.flatMap (project.subtreeWithin bound) := rfl
  exact tree.within_length_eq (fun _ => List.Subset.refl _) turn has

theorem PackageTree.mem_subtree_self (tree : PackageTree project) {id : PackageId}
    (has : project.HasPackage id) : id ∈ project.subtree id := by
  rw [tree.subtree_eq has]
  exact List.mem_cons_self

theorem PackageTree.mem_subtree_of_parent (tree : PackageTree project) {top id parent : PackageId}
    (has_top : project.HasPackage top) (has : project.HasPackage id)
    (linked : (project.package id).parent = some parent)
    (member : parent ∈ project.subtree top) : id ∈ project.subtree top := by
  induction top, has_top using tree.induct_down with
  | above top has_top ih =>
    rw [tree.subtree_eq has_top] at member ⊢
    apply List.mem_cons_of_mem
    rcases List.mem_cons.mp member with rfl | below
    · have is_child := (tree.mem_children_iff has_top).mpr ⟨has, linked⟩
      exact List.mem_flatMap.mpr ⟨id, is_child, tree.mem_subtree_self has⟩
    · obtain ⟨child, is_child, lower⟩ := List.mem_flatMap.mp below
      obtain ⟨has_child, child_linked⟩ := (tree.mem_children_iff has_top).mp is_child
      exact List.mem_flatMap.mpr ⟨child, is_child, ih child has_child child_linked lower⟩

/-- The packages of a subtree are those with its top on their chain. -/
theorem PackageTree.mem_subtree_iff (tree : PackageTree project) {top id : PackageId}
    (has_top : project.HasPackage top) :
    id ∈ project.subtree top ↔ project.HasPackage id ∧ top ∈ project.chain id := by
  constructor
  · intro member
    induction top, has_top using tree.induct_down with
    | above top has_top ih =>
      rw [tree.subtree_eq has_top] at member
      rcases List.mem_cons.mp member with rfl | below
      · exact ⟨has_top, mem_chain_self id⟩
      · obtain ⟨child, is_child, lower⟩ := List.mem_flatMap.mp below
        obtain ⟨has_child, linked⟩ := (tree.mem_children_iff has_top).mp is_child
        obtain ⟨has, under⟩ := ih child has_child linked lower
        have encloses : top ∈ project.chain child :=
          (tree.mem_chain_iff has_child linked top).mpr (Or.inr (mem_chain_self top))
        exact ⟨has, tree.mem_chain_trans has encloses under⟩
  · rintro ⟨has, under⟩
    induction id, has using tree.induct_up with
    | top =>
      rw [tree.chain_root, List.mem_singleton] at under
      rw [under]
      exact tree.mem_subtree_self tree.has_root
    | below id parent has has_parent linked ih =>
      rcases (tree.mem_chain_iff has linked top).mp under with rfl | higher
      · exact tree.mem_subtree_self has_top
      · exact tree.mem_subtree_of_parent has_top has linked (ih higher)

/-- The walk down meets every package once. -/
theorem PackageTree.subtree_nodup (tree : PackageTree project) {id : PackageId}
    (has : project.HasPackage id) : (project.subtree id).Nodup := by
  induction id, has using tree.induct_down with
  | above id has ih =>
    have child_of {child : PackageId} (member : child ∈ (project.package id).children) :=
      (tree.mem_children_iff has).mp member
    rw [tree.subtree_eq has, List.nodup_cons, List.nodup_flatMap]
    refine ⟨?outside, fun child member => ih child (child_of member).1 (child_of member).2, ?apart⟩
    case outside =>
      -- What lies below a child is younger than the package itself.
      intro member
      obtain ⟨child, is_child, lower⟩ := List.mem_flatMap.mp member
      obtain ⟨has_child, linked⟩ := child_of is_child
      have under := ((tree.mem_subtree_iff has_child).mp lower).2
      have older := (tree.has_of_mem_chain has under).2
      have younger := tree.parent_lt has_child linked
      omega
    case apart =>
      refine (tree.children_nodup has).imp_of_mem ?_
      intro a b first second different below under_a under_b
      obtain ⟨has_below, chain_a⟩ := (tree.mem_subtree_iff (child_of first).1).mp under_a
      obtain ⟨-, chain_b⟩ := (tree.mem_subtree_iff (child_of second).1).mp under_b
      exact different (tree.children_apart has first second has_below chain_a chain_b)

/-! ### Files below a package -/

theorem WellFormed.mem_filesInSubtree_iff (wellFormed : WellFormed project) {top : PackageId}
    (has_top : project.HasPackage top) (id : FileId) :
    id ∈ project.filesInSubtree top ↔
      project.HasFile id ∧ project.isInSubtree (project.file id).package top = true := by
  simp only [filesInSubtree, List.mem_flatMap, wellFormed.tree.mem_subtree_iff has_top,
    isInSubtree, List.contains_iff_mem]
  constructor
  · rintro ⟨owner, ⟨has, under⟩, member⟩
    obtain ⟨has_file, owned⟩ := (wellFormed.files.mem_files_iff has).mp member
    exact ⟨has_file, owned ▸ under⟩
  · rintro ⟨has_file, under⟩
    have has := wellFormed.files.has_owner has_file
    exact ⟨_, ⟨has, under⟩, (wellFormed.files.mem_files_iff has).mpr ⟨has_file, rfl⟩⟩

theorem FileLists.flatMap_files_nodup (lists : FileLists project) {packages : List PackageId}
    (inside : ∀ id ∈ packages, project.HasPackage id) (nodup : packages.Nodup) :
    (packages.flatMap fun id => (project.package id).files).Nodup := by
  refine List.nodup_flatMap.mpr ⟨fun id member => lists.files_nodup (inside id member), ?_⟩
  refine nodup.imp_of_mem ?_
  intro a b first second different file in_a in_b
  have of_a := ((lists.mem_files_iff (inside a first)).mp in_a).2
  have of_b := ((lists.mem_files_iff (inside b second)).mp in_b).2
  exact different (of_a.symm.trans of_b)

theorem WellFormed.filesInSubtree_nodup (wellFormed : WellFormed project) {top : PackageId}
    (has_top : project.HasPackage top) : (project.filesInSubtree top).Nodup :=
  wellFormed.files.flatMap_files_nodup
    (fun _ member => ((wellFormed.tree.mem_subtree_iff has_top).mp member).1)
    (wellFormed.tree.subtree_nodup has_top)

end PackageAtlas.Project
