import Mathlib.Algebra.GroupWithZero.Nat
import Mathlib.Data.List.Perm.Basic
import PackageAtlas.Proofs.View.Rollup

/-!
# Dependencies between parts of a view

What a view draws from some of its packages to some others, taken together, are the dependencies
between files that fold onto one of the former and one of the latter.
-/
namespace PackageAtlas

/-- The dependencies from some packages of a view to some others, each package picked by the one
it was made from. -/
def View.dependenciesBetween (view : View) (sources targets : PackageId → Bool) :
    List ViewDependency :=
  (view.packages.filter (sources ·.origin)).flatMap fun package =>
    package.dependencies.filter fun dependency =>
      (view.find? dependency.destination).any (targets ·.origin)

namespace Project

variable {project : Project} {shown : List PackageId}

/-- Whether a dependency between files folds onto two different shown packages of the given
kinds. -/
def foldsBetween (project : Project) (shown : List PackageId) (sources targets : PackageId → Bool)
    (edge : FileId × FileId) : Bool :=
  match project.standIn? shown edge.1, project.standIn? shown edge.2 with
  | some source, some target => sources source && targets target && source ≠ target
  | _, _ => false

theorem foldsBetween_iff (sources targets : PackageId → Bool) (edge : FileId × FileId) :
    project.foldsBetween shown sources targets edge = true ↔
      ∃ source target, project.standIn? shown edge.1 = some source ∧
        project.standIn? shown edge.2 = some target ∧
        sources source = true ∧ targets target = true ∧ source ≠ target := by
  unfold foldsBetween
  split
  next source target from_source to_target => simp [from_source, to_target, and_assoc]
  next other =>
    simp only [Bool.false_eq_true, false_iff]
    rintro ⟨source, target, from_source, to_target, -⟩
    exact other source target from_source to_target

/-- Of what starts at a shown package, exactly that reaches packages of some kind which lands on
one of the packages reached. -/
private theorem lands_iff (wellFormed : WellFormed project) {id : PackageId}
    (has : project.HasPackage id) (member : id ∈ shown) {sources : PackageId → Bool}
    (source : sources id = true) (targets : PackageId → Bool) {edge : FileId × FileId}
    (inside : edge ∈ project.edges) (starts : project.standIn? shown edge.1 = some id) :
    project.standIn? shown edge.2 ∈ ((project.reachedFrom shown id).filter targets).map some ↔
      project.foldsBetween shown sources targets edge = true := by
  rw [foldsBetween_iff, List.mem_map]
  constructor
  · rintro ⟨reached, kept, lands⟩
    obtain ⟨found, target⟩ := List.mem_filter.mp kept
    have different := ((wellFormed.mem_reachedFrom_iff has member reached).mp found).1
    exact ⟨id, reached, starts, lands.symm, source, target, Ne.symm different⟩
  · rintro ⟨_, reached, starts_too, lands, -, target, different⟩
    cases starts.symm.trans starts_too
    have something : project.foldedEdges shown id reached ≠ [] :=
      (foldedEdges_ne_nil_iff id reached).mpr ⟨edge, inside, starts, lands⟩
    have found := (wellFormed.mem_reachedFrom_iff has member reached).mpr
      ⟨Ne.symm different, something⟩
    exact ⟨reached, List.mem_filter.mpr ⟨found, target⟩, lands.symm⟩

private theorem carried_perm (wellFormed : WellFormed project) {id : PackageId}
    (has : project.HasPackage id) (member : id ∈ shown) {sources : PackageId → Bool}
    (source : sources id = true) (targets : PackageId → Bool) :
    (((project.reachedFrom shown id).filter targets).flatMap (project.foldedEdges shown id)).Perm
      ((project.edges.filter (project.foldsBetween shown sources targets)).filter
        (project.standIn? shown ·.1 = some id)) := by
  -- What starts at `id` is cut into groups by where it lands.
  let starting := project.edges.filter (project.standIn? shown ·.1 = some id)
  have folded_eq : project.foldedEdges shown id = fun reached =>
      starting.filter (project.standIn? shown ·.2 = some reached) := by
    funext reached
    rw [foldedEdges, List.filter_filter]
    simp only [Bool.decide_and, Bool.and_comm]
  have keys_nodup : (((project.reachedFrom shown id).filter targets).map some).Nodup :=
    List.Nodup.map (fun _ _ => Option.some.inj) ((nodup_eraseDups _).filter _)
  have groups : ((((project.reachedFrom shown id).filter targets).map some).flatMap fun key =>
      starting.filter (project.standIn? shown ·.2 = key)).Perm
        (starting.filter (project.foldsBetween shown sources targets)) := by
    apply flatMap_groups_perm _ keys_nodup
    intro edge kept
    obtain ⟨inside, starts⟩ := List.mem_filter.mp kept
    exact (lands_iff wellFormed has member source targets inside (of_decide_eq_true starts)).symm
  rw [List.flatMap_map] at groups
  rw [folded_eq]
  exact groups.trans (List.Perm.of_eq (List.filter_comm _ _ _))

private theorem carriedBetween_perm (wellFormed : WellFormed project)
    (inside : ∀ id ∈ shown, project.HasPackage id) (nodup : shown.Nodup)
    (sources targets : PackageId → Bool) :
    ((shown.filter sources).flatMap fun id =>
      ((project.reachedFrom shown id).filter targets).flatMap (project.foldedEdges shown id)).Perm
      (project.edges.filter (project.foldsBetween shown sources targets)) := by
  let folded := project.edges.filter (project.foldsBetween shown sources targets)
  have carried : ∀ id ∈ shown.filter sources,
      (((project.reachedFrom shown id).filter targets).flatMap
        (project.foldedEdges shown id)).Perm
        (folded.filter (project.standIn? shown ·.1 = some id)) := by
    intro id member
    obtain ⟨is_shown, source⟩ := List.mem_filter.mp member
    exact carried_perm wellFormed (inside id is_shown) is_shown source targets
  have keys_nodup : ((shown.filter sources).map some).Nodup :=
    List.Nodup.map (fun _ _ => Option.some.inj) (nodup.filter _)
  -- Whatever folds onto packages of these kinds starts at one of them.
  have groups : (((shown.filter sources).map some).flatMap fun key =>
      folded.filter (project.standIn? shown ·.1 = key)).Perm (folded.filter fun _ => true) := by
    apply flatMap_groups_perm _ keys_nodup
    intro edge member
    obtain ⟨source, target, starts, -, is_source, -⟩ :=
      (foldsBetween_iff sources targets edge).mp (List.mem_filter.mp member).2
    have source_shown := (mem_of_nearestShown? starts).1
    simp [starts, source_shown, is_source]
  rw [List.flatMap_map, List.filter_true] at groups
  exact (List.Perm.flatMap_left _ carried).trans groups

/-! ### Reading the dependencies off a view -/

private theorem any_destination (placed : LogicallyPlaced project)
    (wellFormed : WellFormed project) {spec : ViewSpec} {id reached : PackageId}
    (is_shown : reached ∈ project.shownPackages spec) (targets : PackageId → Bool) :
    ((project.view spec).find?
      (project.summary (project.shownPackages spec) id reached).destination).any
        (targets ·.origin) = targets reached := by
  obtain ⟨package, found, origin_eq⟩ := placed.find?_view wellFormed is_shown
  have found_at : (project.view spec).find?
      (project.summary (project.shownPackages spec) id reached).destination = some package := found
  rw [found_at, Option.any_some, origin_eq]

private theorem relations_perm (placed : LogicallyPlaced project)
    (wellFormed : WellFormed project) {spec : ViewSpec} {id : PackageId}
    (is_shown : id ∈ project.shownPackages spec) (targets : PackageId → Bool) :
    (((project.rolledUpDependencies (project.shownPackages spec) id).filter fun dependency =>
        ((project.view spec).find? dependency.destination).any (targets ·.origin)).flatMap
          (·.relations)).Perm
      ((((project.reachedFrom (project.shownPackages spec) id).filter targets).flatMap
        (project.foldedEdges (project.shownPackages spec) id)).map project.relation) := by
  have has := wellFormed.hasPackage_of_shown is_shown
  have reached_spec {reached : PackageId}
      (found : reached ∈ project.reachedFrom (project.shownPackages spec) id) :=
    (wellFormed.mem_reachedFrom_iff has is_shown reached).mp found
  refine ((((project.rolledUpDependencies_perm _ id).filter _).flatMap_right _)).trans ?_
  rw [List.filter_map, List.flatMap_map, List.map_flatMap]
  have kept : (project.reachedFrom (project.shownPackages spec) id).filter
      ((fun dependency : ViewDependency =>
        ((project.view spec).find? dependency.destination).any (targets ·.origin)) ∘
          project.summary (project.shownPackages spec) id) =
      (project.reachedFrom (project.shownPackages spec) id).filter targets := by
    apply List.filter_congr
    intro reached found
    exact any_destination placed wellFormed
      (mem_of_foldedEdges_ne_nil (reached_spec found).2) targets
  rw [kept]
  apply List.Perm.flatMap_left
  intro reached member
  have different := (reached_spec (List.mem_of_mem_filter member)).1
  exact (placed.summarizes wellFormed has is_shown different).relations_perm

theorem LogicallyPlaced.relationsBetween_perm (placed : LogicallyPlaced project)
    (wellFormed : WellFormed project) (spec : ViewSpec) (sources targets : PackageId → Bool) :
    (((project.view spec).dependenciesBetween sources targets).flatMap (·.relations)).Perm
      ((project.edges.filter (project.foldsBetween (project.shownPackages spec) sources
        targets)).map project.relation) := by
  obtain ⟨label, packages⟩ := placed.view_packages_perm wellFormed spec
  have carried := carriedBetween_perm wellFormed (fun _ => wellFormed.hasPackage_of_shown)
    (wellFormed.shownPackages_nodup spec) sources targets
  refine List.Perm.trans ?_ (carried.map project.relation)
  rw [View.dependenciesBetween, List.flatMap_assoc, List.map_flatMap]
  refine ((packages.filter _).flatMap_right _).trans ?_
  rw [List.filter_map, List.flatMap_map]
  apply List.Perm.flatMap_left
  intro id member
  exact relations_perm placed wellFormed (List.mem_of_mem_filter member) targets

theorem LogicallyPlaced.sum_counts (placed : LogicallyPlaced project)
    (wellFormed : WellFormed project) (spec : ViewSpec) (sources targets : PackageId → Bool) :
    (((project.view spec).dependenciesBetween sources targets).map (·.count)).sum =
      (project.edges.filter
        (project.foldsBetween (project.shownPackages spec) sources targets)).length := by
  have relations := placed.relationsBetween_perm wellFormed spec sources targets
  -- Every count is the number of relations it stands for.
  rw [← List.length_map project.relation, ← relations.length_eq, List.length_flatMap]
  apply congrArg List.sum
  apply List.map_congr_left
  intro dependency member
  obtain ⟨package, picked, drawn⟩ := List.mem_flatMap.mp member
  obtain ⟨is_shown, -, dependencies_eq⟩ :=
    placed.mem_view_packages wellFormed (List.mem_of_mem_filter picked)
  have has := wellFormed.hasPackage_of_shown is_shown
  rw [dependencies_eq] at drawn
  obtain ⟨reached, different, -, rfl⟩ :=
    (wellFormed.mem_rolledUpDependencies_iff has is_shown dependency).mp
      (List.mem_of_mem_filter drawn)
  exact (placed.summarizes wellFormed has is_shown different).count_eq_length

end Project

end PackageAtlas
