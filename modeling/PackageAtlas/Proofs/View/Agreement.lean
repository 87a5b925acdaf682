import PackageAtlas.Proofs.Policy.Check
import PackageAtlas.Proofs.View.Between

/-!
# Diagrams, counts and policies agree

The dependencies between two separate parts of a project are counted in three ways: on a view, by
going up from both ends of every dependency, and by walking the files of one part. All three count
the same.
-/
namespace PackageAtlas.Project

variable {project : Project}

/-- The shown package of a file lies in the same subtrees of shown packages as the file. -/
theorem PackageTree.exists_standIn_iff (tree : PackageTree project) {shown : List PackageId}
    {top : PackageId} (member : top ∈ shown) {file : FileId}
    (has : project.HasPackage (project.file file).package) :
    (∃ nearest, project.standIn? shown file = some nearest ∧
      project.isInSubtree nearest top = true) ↔
      project.isInSubtree (project.file file).package top = true := by
  simp only [isInSubtree, List.contains_iff_mem]
  constructor
  · rintro ⟨nearest, found, under⟩
    exact (tree.mem_chain_nearest_iff has member found).mp under
  · intro under
    obtain ⟨nearest, found⟩ := exists_nearestShown? member under
    exact ⟨nearest, found, (tree.mem_chain_nearest_iff has member found).mpr under⟩

/-- Between separate parts, dependencies of files fold onto shown packages of these parts. -/
theorem WellFormed.foldsBetween_parts (wellFormed : WellFormed project) {shown : List PackageId}
    (inside : ∀ id ∈ shown, project.HasPackage id) {a b : PackageId} (a_shown : a ∈ shown)
    (b_shown : b ∈ shown) (not_in_b : ¬ project.isInSubtree a b)
    (not_in_a : ¬ project.isInSubtree b a) {edge : FileId × FileId}
    (member : edge ∈ project.edges) :
    project.foldsBetween shown (project.isInSubtree · a) (project.isInSubtree · b) edge =
      (project.covers (.package a) edge.1 && project.covers (.package b) edge.2) := by
  obtain ⟨has_source, has_target⟩ := wellFormed.has_files member
  have from_iff :=
    wellFormed.tree.exists_standIn_iff a_shown (wellFormed.files.has_owner has_source)
  have to_iff :=
    wellFormed.tree.exists_standIn_iff b_shown (wellFormed.files.has_owner has_target)
  rw [Bool.eq_iff_iff, foldsBetween_iff, Bool.and_eq_true, covers, covers, ← from_iff, ← to_iff]
  constructor
  · rintro ⟨source, target, starts, lands, under_a, under_b, -⟩
    exact ⟨⟨source, starts, under_a⟩, ⟨target, lands, under_b⟩⟩
  · rintro ⟨⟨source, starts, under_a⟩, ⟨target, lands, under_b⟩⟩
    refine ⟨source, target, starts, lands, under_a, under_b, ?_⟩
    -- A package below both would put one of them below the other.
    rintro rfl
    have has := inside source (mem_of_nearestShown? starts).1
    simp only [isInSubtree, List.contains_iff_mem] at under_a under_b not_in_a not_in_b
    rcases wellFormed.tree.chain_linear has under_a under_b with encloses | encloses
    · exact not_in_a encloses
    · exact not_in_b encloses

theorem WellFormed.edgesBetween_length (wellFormed : WellFormed project) {a : PackageId}
    (has : project.HasPackage a) (b : PackageId) :
    (project.edgesBetween (.package a) (.package b)).length = project.dependencyCount a b := by
  have has_node : project.HasNode (.package a) := has
  rw [(wellFormed.edgesBetween_perm has_node (.package b)).length_eq, dependencyCount,
    List.countP_eq_length_filter]
  rfl

/-- For separate packages of a view, the counts drawn from the one part to the other add up to the
number of dependencies between files. So many violations has a policy that forbids them, and a
policy that demands one is broken exactly if there is none. -/
theorem Reachable.counts_agree (reachable : Reachable RelativeName project) {spec : ViewSpec}
    {a b : PackageId} (a_shown : a ∈ project.shownPackages spec)
    (b_shown : b ∈ project.shownPackages spec) (not_in_b : ¬ project.isInSubtree a b)
    (not_in_a : ¬ project.isInSubtree b a) :
    let drawn := (project.view spec).dependenciesBetween
      (project.isInSubtree · a) (project.isInSubtree · b)
    let forbidden : Policy := ⟨.cannotDependOn, .package a, .package b⟩
    let demanded : Policy := ⟨.mustDependOn, .package a, .package b⟩
    (drawn.map (·.count)).sum = project.dependencyCount a b ∧
    (∃ violations, (project.declare forbidden).violations = project.violations ++ violations ∧
      violations.length = project.dependencyCount a b) ∧
    ∃ violations, (project.declare demanded).violations = project.violations ++ violations ∧
      (violations ≠ [] ↔ project.dependencyCount a b = 0) := by
  have placed := reachable.logicallyPlaced
  have wellFormed := reachable.wellFormed
  have has_a := wellFormed.hasPackage_of_shown a_shown
  intro drawn forbidden demanded
  refine ⟨?view, ⟨_, project.violations_declare forbidden, ?forbidden⟩,
    ⟨_, project.violations_declare demanded, ?demanded⟩⟩
  case view =>
    -- The view counts by stand-ins, the project by the packages of the files themselves.
    have counts := placed.sum_counts wellFormed spec
      (project.isInSubtree · a) (project.isInSubtree · b)
    rw [dependencyCount, List.countP_eq_length_filter]
    refine counts.trans (congrArg List.length (List.filter_congr ?_))
    intro edge member
    exact wellFormed.foldsBetween_parts (fun _ => wellFormed.hasPackage_of_shown) a_shown b_shown
      not_in_b not_in_a member
  case forbidden =>
    rw [← wellFormed.edgesBetween_length has_a b]
    exact List.length_map _
  case demanded =>
    rw [← wellFormed.edgesBetween_length has_a b, List.length_eq_zero_iff]
    simp [check, demanded]

/-- In `sample`, the view that hides `a/c` counts its import of `b` for `a`, that of `a/c/d` for
itself. -/
theorem sample_counts_agree :
    (((sample.view sampleSpec).dependenciesBetween
      (sample.isInSubtree · ⟨1⟩) (sample.isInSubtree · ⟨2⟩)).map (·.count)).sum = 2 := by
  have a_shown : ⟨1⟩ ∈ sample.shownPackages sampleSpec := by decide +kernel
  have b_shown : ⟨2⟩ ∈ sample.shownPackages sampleSpec := by decide +kernel
  have agree :=
    sample_reachable.counts_agree a_shown b_shown (by decide +kernel) (by decide +kernel)
  exact agree.1.trans (by decide +kernel)

end PackageAtlas.Project
