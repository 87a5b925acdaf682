import PackageAtlas.Proofs.View.Between

/-!
# Coarser views

Where a view shows only packages that another one shows too, it tells less and nothing else: each
of its dependencies gathers dependencies of the more detailed view.
-/
namespace PackageAtlas.Project

variable {project : Project}

/-- What a view draws from one package to another tells of what folds onto the two, or there is
nothing to tell. -/
theorem LogicallyPlaced.dependency?_view (placed : LogicallyPlaced project)
    (wellFormed : WellFormed project) {spec : ViewSpec} {a b : PackageId}
    (a_shown : a ∈ project.shownPackages spec) (b_shown : b ∈ project.shownPackages spec)
    (different : a ≠ b) :
    match (project.view spec).dependency? (project.package a).relative
      (project.package b).relative with
    | none => project.foldedEdges (project.shownPackages spec) a b = []
    | some dependency =>
      project.Summarizes dependency (project.foldedEdges (project.shownPackages spec) a b) := by
  obtain ⟨package, found, rfl⟩ := placed.find?_view wellFormed a_shown
  have member := List.mem_of_find?_eq_some found
  have rollsUp := placed.rollsUp wellFormed member
  rw [View.dependency?, found, Option.bind_some, ViewPackage.dependency?]
  split
  next absent =>
    by_contra something
    obtain ⟨dependency, drawn, destination_eq⟩ := (rollsUp.exists_iff b_shown).mpr
      ⟨different, (foldedEdges_ne_nil_iff _ _).mp something⟩
    have elsewhere := List.find?_eq_none.mp absent dependency drawn
    exact elsewhere (decide_eq_true destination_eq)
  next dependency drawn =>
    have destination_eq := List.find?_some drawn
    rw [decide_eq_true_iff] at destination_eq
    exact rollsUp.summarizes b_shown (List.mem_of_find?_eq_some drawn) destination_eq

theorem LogicallyPlaced.count_view (placed : LogicallyPlaced project)
    (wellFormed : WellFormed project) {spec : ViewSpec} {a b : PackageId}
    (a_shown : a ∈ project.shownPackages spec) (b_shown : b ∈ project.shownPackages spec)
    (different : a ≠ b) :
    ((project.view spec).dependency? (project.package a).relative
      (project.package b).relative).elim 0 (·.count) =
      (project.foldedEdges (project.shownPackages spec) a b).length := by
  have told := placed.dependency?_view wellFormed a_shown b_shown different
  split at told
  next absent => rw [absent, told]; rfl
  next dependency drawn => rw [drawn]; exact told.count_eq

theorem LogicallyPlaced.relations_view (placed : LogicallyPlaced project)
    (wellFormed : WellFormed project) {spec : ViewSpec} {a b : PackageId}
    (a_shown : a ∈ project.shownPackages spec) (b_shown : b ∈ project.shownPackages spec)
    (different : a ≠ b) :
    ((project.view spec).dependency? (project.package a).relative
      (project.package b).relative).elim [] (·.relations) =
      ((project.foldedEdges (project.shownPackages spec) a b).map project.relation).mergeSort
        FileRelation.le := by
  have told := placed.dependency?_view wellFormed a_shown b_shown different
  split at told
  next absent => rw [absent, told, List.map_nil, List.mergeSort_nil]; rfl
  next dependency drawn =>
    rw [drawn, ← FileRelation.mergeSort_eq_of_perm told.relations_perm]
    exact (List.mergeSort_of_pairwise (told.ascending.imp FileRelation.le_of_before)).symm

/-- What folds onto two packages of a coarser view folds onto packages below these two in the more
detailed one. -/
theorem WellFormed.foldedEdges_coarser (wellFormed : WellFormed project)
    {fewer more : List PackageId} (included : ∀ id ∈ fewer, id ∈ more) {a b : PackageId}
    (different : a ≠ b) :
    project.edges.filter (project.foldsBetween more
      (project.nearestShown? fewer · = some a) (project.nearestShown? fewer · = some b)) =
      project.foldedEdges fewer a b := by
  rw [foldedEdges]
  apply List.filter_congr
  intro edge inside
  obtain ⟨has_source, has_target⟩ := wellFormed.has_files inside
  have from_eq := wellFormed.tree.nearestShown?_coarser included
    (wellFormed.files.has_owner has_source)
  have to_eq := wellFormed.tree.nearestShown?_coarser included
    (wellFormed.files.has_owner has_target)
  rw [Bool.eq_iff_iff, foldsBetween_iff, decide_eq_true_iff, standIn?, standIn?, standIn?, standIn?,
    from_eq, to_eq, Option.bind_eq_some_iff, Option.bind_eq_some_iff]
  constructor
  · rintro ⟨source, target, starts, lands, under_a, under_b, -⟩
    exact ⟨⟨source, starts, of_decide_eq_true under_a⟩, ⟨target, lands, of_decide_eq_true under_b⟩⟩
  · rintro ⟨⟨source, starts, under_a⟩, ⟨target, lands, under_b⟩⟩
    refine ⟨source, target, starts, lands, decide_eq_true under_a, decide_eq_true under_b, ?_⟩
    -- One package cannot lie below both `a` and `b` as its nearest.
    rintro rfl
    exact different (Option.some.inj (under_a.symm.trans under_b))

/-- Coarsening a view commutes with rolling up: what a coarser view draws from `a` to `b` counts
and lists just what the more detailed one draws from packages below `a` to packages below `b`. -/
theorem Reachable.view_coarser (reachable : Reachable RelativeName project)
    {coarse fine : ViewSpec}
    (included : ∀ id ∈ project.shownPackages coarse, id ∈ project.shownPackages fine)
    {a b : PackageId} (a_shown : a ∈ project.shownPackages coarse)
    (b_shown : b ∈ project.shownPackages coarse) (different : a ≠ b) :
    let drawn := (project.view coarse).dependency? (project.package a).relative
      (project.package b).relative
    let gathered := (project.view fine).dependenciesBetween
      (project.nearestShown? (project.shownPackages coarse) · = some a)
      (project.nearestShown? (project.shownPackages coarse) · = some b)
    drawn.elim 0 (·.count) = (gathered.map (·.count)).sum ∧
      drawn.elim [] (·.relations) =
        (gathered.flatMap (·.relations)).mergeSort FileRelation.le := by
  have placed := reachable.logicallyPlaced
  have wellFormed := reachable.wellFormed
  have folded_eq := wellFormed.foldedEdges_coarser included different
  intro drawn gathered
  constructor
  · -- Both sides count the dependencies between files that fold onto `a` and `b`.
    have counts := placed.sum_counts wellFormed fine
      (project.nearestShown? (project.shownPackages coarse) · = some a)
      (project.nearestShown? (project.shownPackages coarse) · = some b)
    rw [folded_eq] at counts
    exact (placed.count_view wellFormed a_shown b_shown different).trans counts.symm
  · -- Sorting forgets the order in which the detailed view lists them.
    have relations := placed.relationsBetween_perm wellFormed fine
      (project.nearestShown? (project.shownPackages coarse) · = some a)
      (project.nearestShown? (project.shownPackages coarse) · = some b)
    rw [folded_eq] at relations
    exact (placed.relations_view wellFormed a_shown b_shown different).trans
      (FileRelation.mergeSort_eq_of_perm relations).symm

/-- The view of `sample` that shows `a` and `b` only. -/
def sampleCoarse : ViewSpec :=
  ⟨[.anchored "a" 0, .anchored "b" 0], [], none⟩

/-- Two files below `a` of `sample` import from `b`. The coarser view counts and lists both at `a`,
and so does the detailed one at `a` and `a/c/d` together. -/
theorem sample_view_coarser :
    let drawn := (sample.view sampleCoarse).dependency? (sample.package ⟨1⟩).relative
      (sample.package ⟨2⟩).relative
    let gathered := (sample.view sampleSpec).dependenciesBetween
      (sample.nearestShown? (sample.shownPackages sampleCoarse) · = some ⟨1⟩)
      (sample.nearestShown? (sample.shownPackages sampleCoarse) · = some ⟨2⟩)
    let relations : List FileRelation := [⟨"a/c/d/z.py", "b/y.py"⟩, ⟨"a/c/x.py", "b/y.py"⟩]
    (∀ id ∈ sample.shownPackages sampleCoarse, id ∈ sample.shownPackages sampleSpec) ∧
      drawn.elim 0 (·.count) = 2 ∧ (gathered.map (·.count)).sum = 2 ∧
      drawn.elim [] (·.relations) = relations ∧
      (gathered.flatMap (·.relations)).mergeSort FileRelation.le = relations := by
  intro drawn gathered relations
  have included : ∀ id ∈ sample.shownPackages sampleCoarse,
      id ∈ sample.shownPackages sampleSpec := by
    decide +kernel
  have a_shown : ⟨1⟩ ∈ sample.shownPackages sampleCoarse := by decide +kernel
  have b_shown : ⟨2⟩ ∈ sample.shownPackages sampleCoarse := by decide +kernel
  have different : (⟨1⟩ : PackageId) ≠ ⟨2⟩ := by decide
  obtain ⟨counts, lists⟩ := sample_reachable.view_coarser included a_shown b_shown different
  have two_drawn : drawn.elim 0 (·.count) = 2 := by decide +kernel
  have listed : drawn.elim [] (·.relations) = relations := by
    have folded : (sample.foldedEdges (sample.shownPackages sampleCoarse) ⟨1⟩ ⟨2⟩).map
        sample.relation = relations.reverse := by
      decide +kernel
    have ascending : relations.Pairwise (FileRelation.le · ·) := by decide
    -- The kernel does not unfold sorting, but the relations are sorted in their reverse order.
    rw [sample_reachable.logicallyPlaced.relations_view sample_reachable.wellFormed a_shown b_shown
      different, folded, FileRelation.mergeSort_eq_of_perm relations.reverse_perm]
    exact List.mergeSort_of_pairwise ascending
  exact ⟨included, two_drawn, counts.symm.trans two_drawn, listed, lists.symm.trans listed⟩

end PackageAtlas.Project
