import PackageAtlas.Proofs.View.Isolation

/-!
# Exact selection

Selectors and ignore patterns are texts that are held against logical paths, scopes and depths
belong to the package tree. What a specification shows is said here by parts of paths and by steps
up the tree. The path of a package begins with the paths of all packages around it, so whatever
ignores a package ignores everything below it as well.
-/
namespace PackageAtlas

/-! ### Ignore patterns -/

/-- Whether a pattern takes a path away: `*text*` by any part of it, any other text by its start. -/
inductive Ignored (path : String) : String → Prop
  | part {text : String} (within : (LogicalPath.normalize text).toList <:+: path.toList) :
      Ignored path ("*" ++ text ++ "*")
  | start {pattern : String} (unstarred : ∀ text, pattern ≠ "*" ++ text ++ "*")
      (leads : (LogicalPath.normalize pattern).toList <+: path.toList) : Ignored path pattern

theorem starred_iff {pattern text : String} :
    (Text.dropStart? "*" pattern).bind (Text.dropEnding? "*") = some text ↔
      pattern = "*" ++ text ++ "*" := by
  simp only [Option.bind_eq_some_iff, Text.dropStart?_eq_some_iff, Text.dropEnding?_eq_some_iff]
  constructor
  · rintro ⟨_, rfl, rfl⟩
    exact String.append_assoc.symm
  · rintro rfl
    exact ⟨text ++ "*", String.append_assoc, rfl⟩

theorem matchesPattern_iff {path pattern : String} :
    matchesPattern path pattern = true ↔ Ignored path pattern := by
  rw [matchesPattern]
  split
  next text starred =>
    rw [Text.contains_iff]
    refine ⟨fun within => starred_iff.mp starred ▸ .part within, fun ignored => ?_⟩
    cases ignored with
    | part within =>
      cases (starred_iff.mpr rfl).symm.trans starred
      exact within
    | start unstarred _ => exact absurd (starred_iff.mp starred) (unstarred text)
  next missing =>
    rw [Text.startsWith_iff]
    refine ⟨.start fun text starred => ?_, fun ignored => ?_⟩
    · cases missing.symm.trans (starred_iff.mpr starred)
    · cases ignored with
      | part within => cases missing.symm.trans (starred_iff.mpr rfl)
      | start _ leads => exact leads

theorem Ignored.of_prefix {path lower pattern : String} (ignored : Ignored path pattern)
    (continued : path.toList <+: lower.toList) : Ignored lower pattern := by
  cases ignored with
  | part within => exact .part (within.trans continued.isInfix)
  | start unstarred leads => exact .start unstarred (leads.trans continued)

theorem LogicalPath.prefix_child (parent name : String) :
    parent.toList <+: (child parent name).toList := by
  rw [child]
  split
  next empty =>
    rw [String.isEmpty_iff.mp empty]
    exact List.nil_prefix
  next =>
    rw [String.append_assoc, String.toList_append]
    exact List.prefix_append _ _

namespace Project

variable {names : String → Prop} {project : Project}

/-! ### Steps up the tree -/

/-- Paths grow by whole segments on the way down. -/
theorem Reachable.relative_prefix (reachable : Reachable names project) {id top : PackageId}
    (has : project.HasPackage id) (under : top ∈ project.chain id) :
    (project.package top).relative.toList <+: (project.package id).relative.toList := by
  have tree := reachable.wellFormed.tree
  induction id, has using tree.induct_up with
  | top =>
    rw [tree.chain_root, List.mem_singleton] at under
    subst under
    exact List.prefix_refl _
  | below id parent has _ linked ih =>
    rcases (tree.mem_chain_iff has linked top).mp under with rfl | higher
    · exact List.prefix_refl _
    · rw [reachable.stepwise.package has linked]
      exact (ih higher).trans (LogicalPath.prefix_child _ _)

theorem PackageTree.mem_expand_iff (tree : PackageTree project) {anchor id : PackageId}
    (has_anchor : project.HasPackage anchor) {levels : Nat} :
    id ∈ project.expand anchor levels ↔
      project.HasPackage id ∧ ∃ steps ≤ levels, (project.chain id)[steps]? = some anchor := by
  rw [expand, List.mem_filter, decide_eq_true_iff, tree.mem_subtree_iff has_anchor, and_assoc]
  refine and_congr_right fun has => ?_
  rw [List.mem_iff_getElem?]
  -- The number of steps is the difference in depth, which never falls below zero.
  constructor
  · rintro ⟨⟨steps, reached⟩, near⟩
    have depth_eq := tree.depth_of_getElem?_chain has reached
    exact ⟨steps, by omega, reached⟩
  · rintro ⟨steps, near, reached⟩
    have depth_eq := tree.depth_of_getElem?_chain has reached
    exact ⟨⟨steps, reached⟩, by omega⟩

/-! ### Selectors -/

/-- Whether a selector picks a package: one text by the start of its path, an anchor in the scope
that is reached by few enough steps up the tree. -/
def Selects (project : Project) (id : PackageId) : PackageSelector → Prop
  | .byPrefix text =>
    (LogicalPath.normalize text).toList <+: (project.package id).relative.toList
  | .anchored path levels =>
    ∃ anchor, project.IsAnchor path anchor ∧ project.InScope anchor ∧
      ∃ steps ≤ levels, (project.chain id)[steps]? = some anchor

theorem WellFormed.mem_selectedBy_iff (wellFormed : WellFormed project) {id : PackageId}
    (inside : project.InScope id) (selector : PackageSelector) :
    id ∈ project.selectedBy (project.subtree project.scope) selector ↔
      project.Selects id selector := by
  cases selector with
  | byPrefix text =>
    rw [selectedBy, List.mem_filter, Text.startsWith_iff]
    exact and_iff_right inside
  | anchored path levels =>
    rw [mem_selectedBy_anchored, Selects]
    refine exists_congr fun anchor => ?_
    rw [anchor?_eq_some_iff]
    refine and_congr_right fun _ => and_congr_right fun anchor_inside => ?_
    rw [wellFormed.tree.mem_expand_iff (wellFormed.has_of_inScope anchor_inside),
      and_iff_right (wellFormed.has_of_inScope inside)]

/-- Whether a specification shows a package. -/
structure Shows (project : Project) (spec : ViewSpec) (id : PackageId) : Prop where
  has : project.HasPackage id
  in_scope : project.scope ∈ project.chain id
  kept : ∀ pattern ∈ spec.ignorePackages, ¬ Ignored (project.package id).relative pattern
  selected : spec.packages = [] ∧ id = project.scope ∨
    ∃ selector ∈ spec.packages, project.Selects id selector

theorem WellFormed.mem_shownPackages_iff (wellFormed : WellFormed project) {spec : ViewSpec}
    {id : PackageId} : id ∈ project.shownPackages spec ↔ project.Shows spec id := by
  have selected (inside : project.InScope id) :
      id ∈ (if spec.packages.isEmpty then [project.scope]
          else spec.packages.flatMap
            (project.selectedBy (project.subtree project.scope))) ↔
        spec.packages = [] ∧ id = project.scope ∨
          ∃ selector ∈ spec.packages, project.Selects id selector := by
    -- Without selectors the scope alone is selected.
    cases listed : spec.packages with
    | nil => simp
    | cons first rest => simp [wellFormed.mem_selectedBy_iff inside]
  have kept : (!spec.ignorePackages.any (matchesPattern (project.package id).relative)) = true ↔
      ∀ pattern ∈ spec.ignorePackages, ¬ Ignored (project.package id).relative pattern := by
    simp [matchesPattern_iff, ← Bool.not_eq_true]
  rw [shownPackages, List.mem_filter, Bool.and_eq_true, List.contains_iff_mem, kept]
  constructor
  · rintro ⟨inside, is_selected, is_kept⟩
    obtain ⟨has, under⟩ := wellFormed.inScope_iff.mp inside
    exact ⟨has, under, is_kept, (selected inside).mp is_selected⟩
  · rintro ⟨has, under, is_kept, is_selected⟩
    have inside := wellFormed.inScope_iff.mpr ⟨has, under⟩
    exact ⟨inside, (selected inside).mpr is_selected, is_kept⟩

/-! ### What a view shows -/

theorem Reachable.view_shows_iff (reachable : Reachable RelativeName project) (spec : ViewSpec)
    (id : PackageId) :
    (∃ package ∈ (project.view spec).packages,
        package.origin = id ∧ package.path = (project.package id).relative) ↔
      project.Shows spec id := by
  have wellFormed := reachable.wellFormed
  have placed := reachable.logicallyPlaced
  rw [← wellFormed.mem_shownPackages_iff]
  constructor
  · rintro ⟨package, member, rfl, -⟩
    exact (placed.mem_view_packages wellFormed member).1
  · intro is_shown
    obtain ⟨package, found, origin_eq⟩ := placed.find?_view wellFormed is_shown
    obtain ⟨member, path_eq⟩ := ((project.view spec).find?_eq_some_iff _ _).mp found
    exact ⟨package, member, origin_eq, path_eq⟩

/-- A view shows the packages in the scope that some selector picks and no pattern ignores. A
pattern that ignores a package ignores all below it, so nothing is shown below an ignored package,
and no package lies higher than the packages around it. -/
theorem Reachable.selection_exact (reachable : Reachable RelativeName project) (spec : ViewSpec) :
    (∀ id, (∃ package ∈ (project.view spec).packages,
        package.origin = id ∧ package.path = (project.package id).relative) ↔
      project.Shows spec id) ∧
    (∀ id top pattern, project.HasPackage id → top ∈ project.chain id →
      Ignored (project.package top).relative pattern →
        Ignored (project.package id).relative pattern) ∧
    (∀ package ∈ (project.view spec).packages, ∀ top ∈ project.chain package.origin,
      ∀ pattern ∈ spec.ignorePackages, ¬ Ignored (project.package top).relative pattern) ∧
    ∀ anchor, project.HasPackage anchor → ∀ id ∈ project.subtree anchor,
      (project.package anchor).depth ≤ (project.package id).depth := by
  have wellFormed := reachable.wellFormed
  have below {id top : PackageId} {pattern : String} (has : project.HasPackage id)
      (under : top ∈ project.chain id) (ignored : Ignored (project.package top).relative pattern) :
      Ignored (project.package id).relative pattern :=
    ignored.of_prefix (reachable.relative_prefix has under)
  refine ⟨reachable.view_shows_iff spec, fun id top pattern => below, ?_, ?_⟩
  · intro package member top under pattern listed ignored
    obtain ⟨is_shown, -⟩ := reachable.logicallyPlaced.mem_view_packages wellFormed member
    have shows := wellFormed.mem_shownPackages_iff.mp is_shown
    exact shows.kept pattern listed (below shows.has under ignored)
  · intro anchor has_anchor id member
    obtain ⟨has, under⟩ := (wellFormed.tree.mem_subtree_iff has_anchor).mp member
    exact wellFormed.tree.depth_le has under

/-- Whatever is at most two levels below `a`, as well as `b`, but nothing with a `c` in its path. -/
def withoutC : ViewSpec :=
  ⟨[.anchored "a.*" 2, .byPrefix "b"], ["*c*"], none⟩

/-- The package `a/c/d` is near enough to `a`, but `a/c` is ignored and so it is ignored as well. -/
theorem sample_selection_exact :
    (∃ package ∈ (sample.view withoutC).packages,
      package.origin = ⟨1⟩ ∧ package.path = (sample.package ⟨1⟩).relative) ∧
    sample.Selects ⟨4⟩ (.anchored "a.*" 2) ∧
    ¬ ∃ package ∈ (sample.view withoutC).packages,
      package.origin = ⟨4⟩ ∧ package.path = (sample.package ⟨4⟩).relative := by
  have wellFormed := sample_reachable.wellFormed
  obtain ⟨shown_iff, below, -⟩ := sample_reachable.selection_exact withoutC
  have starred : Ignored (sample.package ⟨3⟩).relative "*c*" :=
    matchesPattern_iff.mp (by decide +kernel)
  have has : sample.HasPackage ⟨4⟩ := by decide +kernel
  have inside : sample.InScope ⟨4⟩ := wellFormed.inScope_iff.mpr ⟨has, by decide +kernel⟩
  refine ⟨(shown_iff ⟨1⟩).mpr (wellFormed.mem_shownPackages_iff.mp (by decide +kernel)), ?_, ?_⟩
  · exact (wellFormed.mem_selectedBy_iff inside _).mp (by decide +kernel)
  · intro is_shown
    have ignored := below ⟨4⟩ ⟨3⟩ "*c*" has (by decide +kernel) starred
    exact ((shown_iff ⟨4⟩).mp is_shown).kept "*c*" List.mem_cons_self ignored

end Project

end PackageAtlas
