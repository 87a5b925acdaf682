import PackageAtlas.Proofs.View.Folding
import PackageAtlas.Proofs.View.Ordered

/-!
# Exact rollup

A view draws exactly the dependencies that the dependencies between files demand. Each stands for
the dependencies between files that fold onto its two ends, and all others draw nothing.
-/
namespace PackageAtlas.Project

variable {project : Project}

/-! ### Shown packages -/

theorem WellFormed.hasPackage_of_shown (wellFormed : WellFormed project) {spec : ViewSpec}
    {id : PackageId} (member : id ∈ project.shownPackages spec) : project.HasPackage id := by
  have candidate : id ∈ project.subtree project.scope := List.mem_of_mem_filter member
  exact ((wellFormed.tree.mem_subtree_iff wellFormed.has_scope).mp candidate).1

theorem WellFormed.shownPackages_nodup (wellFormed : WellFormed project) (spec : ViewSpec) :
    (project.shownPackages spec).Nodup :=
  (wellFormed.tree.subtree_nodup wellFormed.has_scope).filter _

/-- Different packages have different logical paths, so none takes the place of another. -/
theorem LogicallyPlaced.rolledUp_paths_nodup (placed : LogicallyPlaced project)
    (wellFormed : WellFormed project) (spec : ViewSpec) :
    (((project.shownPackages spec).map
      (project.rolledUpPackage (project.shownPackages spec))).map (·.path)).Nodup := by
  rw [List.map_map]
  refine List.Nodup.map_on ?_ (wellFormed.shownPackages_nodup spec)
  intro a in_a b in_b same
  exact placed.package_eq wellFormed.tree (wellFormed.hasPackage_of_shown in_a)
    (wellFormed.hasPackage_of_shown in_b) same

/-- A view has one package for each shown one. How it is labelled does not matter. -/
theorem LogicallyPlaced.view_packages_perm (placed : LogicallyPlaced project)
    (wellFormed : WellFormed project) (spec : ViewSpec) :
    ∃ label : PackageId → String, (project.view spec).packages.Perm
      ((project.shownPackages spec).map fun id =>
        { project.rolledUpPackage (project.shownPackages spec) id with label := label id }) := by
  let rolledUp := project.rolledUpPackage (project.shownPackages spec)
  let drawn := View.ofList ((project.shownPackages spec).map rolledUp)
  let label (package : ViewPackage) : String :=
    if spec.labelsByPath then package.name else drawn.briefLabel package
  have apart := placed.rolledUp_paths_nodup wellFormed spec
  have labelled := (View.ofList_perm apart).map fun package =>
    { package with label := label package }
  rw [List.map_map] at labelled
  exact ⟨fun id => label (rolledUp id), labelled⟩

theorem LogicallyPlaced.mem_view_packages (placed : LogicallyPlaced project)
    (wellFormed : WellFormed project) {spec : ViewSpec} {package : ViewPackage}
    (member : package ∈ (project.view spec).packages) :
    package.origin ∈ project.shownPackages spec ∧
      package.path = (project.package package.origin).relative ∧
      package.dependencies =
        project.rolledUpDependencies (project.shownPackages spec) package.origin := by
  obtain ⟨label, perm⟩ := placed.view_packages_perm wellFormed spec
  obtain ⟨id, is_shown, rfl⟩ := List.mem_map.mp (perm.mem_iff.mp member)
  exact ⟨is_shown, rfl, rfl⟩

theorem LogicallyPlaced.find?_view (placed : LogicallyPlaced project)
    (wellFormed : WellFormed project) {spec : ViewSpec} {id : PackageId}
    (is_shown : id ∈ project.shownPackages spec) :
    ∃ package, (project.view spec).find? (project.package id).relative = some package ∧
      package.origin = id := by
  obtain ⟨label, perm⟩ := placed.view_packages_perm wellFormed spec
  have member := perm.mem_iff.mpr (List.mem_map_of_mem is_shown)
  exact ⟨_, ((project.view spec).find?_eq_some_iff _ _).mpr ⟨member, rfl⟩, rfl⟩

/-! ### Dependencies of a shown package -/

theorem mem_of_foldedEdges_ne_nil {shown : List PackageId} {source target : PackageId}
    (something : project.foldedEdges shown source target ≠ []) : target ∈ shown := by
  obtain ⟨edge, member⟩ := List.exists_mem_of_ne_nil _ something
  have ends := (List.mem_filter.mp member).2
  rw [decide_eq_true_iff] at ends
  exact (mem_of_nearestShown? ends.2).1

/-- The dependencies of a package stand in the order of their destinations, each with its own. -/
theorem LogicallyPlaced.rolledUpDependencies_ascending (placed : LogicallyPlaced project)
    (wellFormed : WellFormed project) {shown : List PackageId}
    (inside : ∀ id ∈ shown, project.HasPackage id) {id : PackageId} (member : id ∈ shown) :
    (project.rolledUpDependencies shown id).Pairwise (·.destination < ·.destination) := by
  have has_reached {reached : PackageId} (found : reached ∈ project.reachedFrom shown id) :
      project.HasPackage reached := by
    have carried := ((wellFormed.mem_reachedFrom_iff (inside id member) member reached).mp found).2
    exact inside reached (mem_of_foldedEdges_ne_nil carried)
  have apart : (((project.reachedFrom shown id).map (project.summary shown id)).map
      (·.destination)).Nodup := by
    rw [List.map_map]
    refine List.Nodup.map_on ?_ (nodup_eraseDups _)
    intro a in_a b in_b same
    exact placed.package_eq wellFormed.tree (has_reached in_a) (has_reached in_b) same
  exact ascending_mergeSort apart

/-! ### Whole views -/

/-- Whether a package of a view carries what the dependencies between files demand. -/
structure RollsUp (project : Project) (shown : List PackageId) (package : ViewPackage) :
    Prop where
  ascending : package.dependencies.Pairwise (·.destination < ·.destination)
  ends {dependency : ViewDependency} :
    dependency ∈ package.dependencies →
      dependency.source = package.path ∧
        ∃ target ∈ shown, dependency.destination = (project.package target).relative
  exists_iff {target : PackageId} :
    target ∈ shown →
      ((∃ dependency ∈ package.dependencies,
          dependency.destination = (project.package target).relative) ↔
        package.origin ≠ target ∧ ∃ edge ∈ project.edges,
          project.standIn? shown edge.1 = some package.origin ∧
            project.standIn? shown edge.2 = some target)
  summarizes {target : PackageId} {dependency : ViewDependency} :
    target ∈ shown → dependency ∈ package.dependencies →
      dependency.destination = (project.package target).relative →
        project.Summarizes dependency (project.foldedEdges shown package.origin target)

theorem foldedEdges_ne_nil_iff {shown : List PackageId} (source target : PackageId) :
    project.foldedEdges shown source target ≠ [] ↔
      ∃ edge ∈ project.edges, project.standIn? shown edge.1 = some source ∧
        project.standIn? shown edge.2 = some target := by
  simp [foldedEdges, List.filter_eq_nil_iff]

theorem LogicallyPlaced.rollsUp (placed : LogicallyPlaced project)
    (wellFormed : WellFormed project) {spec : ViewSpec} {package : ViewPackage}
    (member : package ∈ (project.view spec).packages) :
    project.RollsUp (project.shownPackages spec) package := by
  obtain ⟨is_shown, path_eq, dependencies_eq⟩ := placed.mem_view_packages wellFormed member
  have inside {id : PackageId} (shown : id ∈ project.shownPackages spec) : project.HasPackage id :=
    wellFormed.hasPackage_of_shown shown
  have drawn_iff (dependency : ViewDependency) :=
    wellFormed.mem_rolledUpDependencies_iff (inside is_shown) is_shown dependency
  refine {
    ascending := ?ascending
    ends := fun {dependency} drawn => ?ends
    exists_iff := fun {target} target_shown => ?exists_iff
    summarizes := fun {target dependency} target_shown drawn destination_eq => ?summarizes }
  case ascending =>
    rw [dependencies_eq]
    exact placed.rolledUpDependencies_ascending wellFormed (fun _ => inside) is_shown
  case ends =>
    rw [dependencies_eq, drawn_iff] at drawn
    obtain ⟨target, -, something, rfl⟩ := drawn
    exact ⟨path_eq.symm, target, mem_of_foldedEdges_ne_nil something, rfl⟩
  case exists_iff =>
    rw [dependencies_eq, ← foldedEdges_ne_nil_iff]
    constructor
    · rintro ⟨dependency, drawn, destination_eq⟩
      obtain ⟨reached, different, something, rfl⟩ := (drawn_iff dependency).mp drawn
      -- The destination is only a path, which belongs to one package.
      have has_reached := inside (mem_of_foldedEdges_ne_nil something)
      obtain rfl :=
        placed.package_eq wellFormed.tree has_reached (inside target_shown) destination_eq
      exact ⟨Ne.symm different, something⟩
    · rintro ⟨different, something⟩
      exact ⟨_, (drawn_iff _).mpr ⟨target, Ne.symm different, something, rfl⟩, rfl⟩
  case summarizes =>
    rw [dependencies_eq, drawn_iff] at drawn
    obtain ⟨reached, different, something, rfl⟩ := drawn
    have has_reached := inside (mem_of_foldedEdges_ne_nil something)
    obtain rfl := placed.package_eq wellFormed.tree has_reached (inside target_shown) destination_eq
    exact placed.summarizes wellFormed (inside is_shown) is_shown different

/-- Exact rollup: a view has one package for each shown package, and each carries exactly what the
dependencies between files demand. -/
theorem Reachable.view_exact (reachable : Reachable RelativeName project) (spec : ViewSpec) :
    (∀ id ∈ project.shownPackages spec, ∃ package,
      (project.view spec).find? (project.package id).relative = some package ∧
        package.origin = id) ∧
    ∀ package ∈ (project.view spec).packages,
      package.origin ∈ project.shownPackages spec ∧
        package.path = (project.package package.origin).relative ∧
        project.RollsUp (project.shownPackages spec) package := by
  have placed := reachable.logicallyPlaced
  have wellFormed := reachable.wellFormed
  refine ⟨fun id is_shown => placed.find?_view wellFormed is_shown, fun package member => ?_⟩
  obtain ⟨is_shown, path_eq, -⟩ := placed.mem_view_packages wellFormed member
  exact ⟨is_shown, path_eq, placed.rollsUp wellFormed member⟩

/-- The package `a` of `sample` carries the import of the hidden `a/c` to `b`, and to `a/c/d`. -/
theorem sample_view_exact :
    sample.shownPackages sampleSpec = [⟨1⟩, ⟨4⟩, ⟨2⟩] ∧
      sample.foldedEdges [⟨1⟩, ⟨4⟩, ⟨2⟩] ⟨1⟩ ⟨2⟩ = [(⟨0⟩, ⟨1⟩)] ∧
      ∃ package, (sample.view sampleSpec).find? "a" = some package ∧
        sample.RollsUp (sample.shownPackages sampleSpec) package := by
  obtain ⟨found, exact_packages⟩ := sample_reachable.view_exact sampleSpec
  obtain ⟨package, found_at, -⟩ := found ⟨1⟩ (by decide +kernel)
  have member := List.mem_of_find?_eq_some found_at
  have path_eq : (sample.package ⟨1⟩).relative = "a" := by decide +kernel
  exact ⟨by decide +kernel, by decide +kernel, package, path_eq ▸ found_at,
    (exact_packages package member).2.2⟩

end PackageAtlas.Project
