import PackageAtlas.Proofs.View.Comparison
import PackageAtlas.Proofs.View.Rollup

/-!
# Views of projects are plain

What a project is drawn as carries no differences yet, so two such views can be compared.
-/
namespace PackageAtlas.Project

variable {project : Project}

theorem LogicallyPlaced.view_plain (placed : LogicallyPlaced project)
    (wellFormed : WellFormed project) (spec : ViewSpec) : (project.view spec).Plain := by
  obtain ⟨label, perm⟩ := placed.view_packages_perm wellFormed spec
  intro package member
  obtain ⟨id, is_shown, rfl⟩ := List.mem_map.mp (perm.mem_iff.mp member)
  have inside (other : PackageId) (shown : other ∈ project.shownPackages spec) :
      project.HasPackage other :=
    wellFormed.hasPackage_of_shown shown
  have summarized {dependency : ViewDependency}
      (drawn : dependency ∈ project.rolledUpDependencies (project.shownPackages spec) id) :
      ∃ reached, project.summary (project.shownPackages spec) id reached = dependency := by
    obtain ⟨reached, -, -, made⟩ :=
      (wellFormed.mem_rolledUpDependencies_iff (inside id is_shown) is_shown dependency).mp drawn
    exact ⟨reached, made⟩
  exact {
    source_eq drawn := by
      obtain ⟨reached, rfl⟩ := summarized drawn
      rfl
    ascending := placed.rolledUpDependencies_ascending wellFormed inside is_shown
    neutral := rfl
    unmarked drawn := by
      obtain ⟨reached, rfl⟩ := summarized drawn
      exact ⟨rfl, rfl⟩ }

theorem Reachable.view_plain (reachable : Reachable RelativeName project) (spec : ViewSpec) :
    (project.view spec).Plain :=
  reachable.logicallyPlaced.view_plain reachable.wellFormed spec

/-- The view of `sample` that shows the root, `a` and `b`. -/
def sampleAround : ViewSpec :=
  ⟨[.anchored "" 0, .anchored "a" 0, .anchored "b" 0], [], none⟩

end PackageAtlas.Project
