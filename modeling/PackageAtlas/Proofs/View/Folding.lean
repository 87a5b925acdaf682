import PackageAtlas.Proofs.Project.Edges
import PackageAtlas.Proofs.Project.LogicalPaths
import PackageAtlas.Proofs.View.Absorption
import PackageAtlas.Proofs.View.Relations

/-!
# Folding dependencies onto shown packages

The dependencies that a shown package carries to another one are exactly the dependencies between
files that the two stand for.
-/
namespace PackageAtlas.Project

variable {project : Project} {shown : List PackageId}

/-- The shown package that stands for a file: the first one on the way up from its package. -/
def standIn? (project : Project) (shown : List PackageId) (file : FileId) : Option PackageId :=
  project.nearestShown? shown (project.file file).package

/-- The dependencies between files that two packages stand for. -/
def foldedEdges (project : Project) (shown : List PackageId) (source target : PackageId) :
    List (FileId × FileId) :=
  project.edges.filter fun edge =>
    project.standIn? shown edge.1 = some source ∧ project.standIn? shown edge.2 = some target

/-- A dependency between files by the logical paths of the two. -/
def relation (project : Project) (edge : FileId × FileId) : FileRelation :=
  ⟨(project.file edge.1).relative, (project.file edge.2).relative⟩

/-! ### Crossings -/

/-- What one dependency between files adds to the crossings of a package. -/
def crossing? (project : Project) (shown : List PackageId) (id : PackageId)
    (edge : FileId × FileId) : Option (PackageId × FileRelation) :=
  match project.standIn? shown edge.2 with
  | none => none
  | some reached => if reached = id then none else some (reached, project.relation edge)

theorem crossings_eq (project : Project) (shown : List PackageId) (id : PackageId) :
    project.crossings shown id =
      (project.edgesFrom (project.absorbedFiles shown id)).filterMap
        (project.crossing? shown id) := by
  rw [edgesFrom, List.filterMap_flatMap]
  simp only [List.filterMap_map]
  rfl

private theorem crossings_to {id reached : PackageId} (different : reached ≠ id)
    (edges : List (FileId × FileId)) :
    ((edges.filterMap (project.crossing? shown id)).filter (·.1 = reached)).map (·.2) =
      (edges.filter (project.standIn? shown ·.2 = some reached)).map project.relation := by
  induction edges with
  | nil => rfl
  | cons edge rest ih =>
    by_cases reaches : project.standIn? shown edge.2 = some reached
    · have crossed : project.crossing? shown id edge = some (reached, project.relation edge) := by
        simp [crossing?, reaches, different]
      simp [crossed, reaches, ih]
    · rw [List.filter_cons_of_neg (by simpa using reaches), ← ih, List.filterMap_cons]
      cases found : project.standIn? shown edge.2 with
      | none => simp [crossing?, found]
      | some other =>
        have elsewhere : other ≠ reached := fun same => reaches (same ▸ found)
        -- The crossing is dropped when it stays inside `id`, and ends elsewhere otherwise.
        by_cases same : other = id <;> simp [crossing?, found, same, elsewhere]

/-- What one shown package carries to another. -/
theorem WellFormed.crossings_perm (wellFormed : WellFormed project) {id reached : PackageId}
    (has : project.HasPackage id) (member : id ∈ shown) (different : reached ≠ id) :
    (((project.crossings shown id).filter (·.1 = reached)).map (·.2)).Perm
      ((project.foldedEdges shown id reached).map project.relation) := by
  rw [crossings_eq, crossings_to different]
  apply List.Perm.map
  -- The files that `id` absorbs are those it stands for, so their dependencies are the folded ones.
  have absorbed := project.edgesFrom_perm (wellFormed.absorbedFiles_nodup shown has)
  refine (absorbed.filter _).trans (List.Perm.of_eq ?_)
  rw [List.filter_filter, foldedEdges]
  apply List.filter_congr
  intro edge inside
  have starts : edge.1 ∈ project.absorbedFiles shown id ↔
      project.standIn? shown edge.1 = some id :=
    (wellFormed.mem_absorbedFiles_iff has member edge.1).trans
      (and_iff_right (wellFormed.has_files inside).1)
  simp only [starts]
  rw [Bool.decide_and, Bool.and_comm]

theorem fst_ne_of_mem_crossings {id : PackageId} {crossing : PackageId × FileRelation}
    (member : crossing ∈ project.crossings shown id) : crossing.1 ≠ id := by
  rw [crossings_eq, List.mem_filterMap] at member
  obtain ⟨edge, -, crossed⟩ := member
  unfold crossing? at crossed
  split at crossed
  next => cases crossed
  next reached _ =>
    split at crossed
    next => cases crossed
    next different =>
      cases crossed
      exact different

/-- The packages that are reached from a shown package, each once. -/
def reachedFrom (project : Project) (shown : List PackageId) (id : PackageId) : List PackageId :=
  ((project.crossings shown id).map (·.1)).eraseDups

theorem WellFormed.mem_reachedFrom_iff (wellFormed : WellFormed project) {id : PackageId}
    (has : project.HasPackage id) (member : id ∈ shown) (reached : PackageId) :
    reached ∈ project.reachedFrom shown id ↔
      reached ≠ id ∧ project.foldedEdges shown id reached ≠ [] := by
  rw [reachedFrom, List.mem_eraseDups, List.mem_map]
  constructor
  · rintro ⟨crossing, crosses, rfl⟩
    have different := fst_ne_of_mem_crossings crosses
    refine ⟨different, fun nothing => ?_⟩
    have carried := wellFormed.crossings_perm has member different
    rw [nothing, List.map_nil, List.perm_nil, List.map_eq_nil_iff,
      List.filter_eq_nil_iff] at carried
    exact carried crossing crosses (by simp)
  · rintro ⟨different, something⟩
    have carried := wellFormed.crossings_perm has member different
    have some_crossing : (project.crossings shown id).filter (·.1 = reached) ≠ [] := by
      intro nothing
      rw [nothing, List.map_nil, List.nil_perm, List.map_eq_nil_iff] at carried
      exact something carried
    obtain ⟨crossing, kept⟩ := List.exists_mem_of_ne_nil _ some_crossing
    obtain ⟨crosses, reaches⟩ := List.mem_filter.mp kept
    exact ⟨crossing, crosses, by simpa using reaches⟩

/-! ### Dependencies -/

/-- The one dependency for all that `id` carries to `destination`. -/
def summary (project : Project) (shown : List PackageId) (id destination : PackageId) :
    ViewDependency :=
  let relations := ((project.crossings shown id).filter (·.1 = destination)).map (·.2)
  { source := (project.package id).relative
    destination := (project.package destination).relative
    count := relations.length
    relations := relations.mergeSort FileRelation.le
    state := .neutral
    mark := none }

theorem rolledUpDependencies_perm (project : Project) (shown : List PackageId) (id : PackageId) :
    (project.rolledUpDependencies shown id).Perm
      ((project.reachedFrom shown id).map (project.summary shown id)) :=
  List.mergeSort_perm _ _

/-- Whether a dependency tells of some dependencies between files, of each once and in order. -/
structure Summarizes (project : Project) (dependency : ViewDependency)
    (edges : List (FileId × FileId)) : Prop where
  count_eq : dependency.count = edges.length
  relations_perm : dependency.relations.Perm (edges.map project.relation)
  ascending : dependency.relations.Pairwise FileRelation.Before

theorem Summarizes.count_eq_length {dependency : ViewDependency}
    {edges : List (FileId × FileId)} (summarizes : project.Summarizes dependency edges) :
    dependency.count = dependency.relations.length := by
  rw [summarizes.count_eq, summarizes.relations_perm.length_eq, List.length_map]

theorem LogicallyPlaced.relations_nodup (placed : LogicallyPlaced project)
    (wellFormed : WellFormed project) (pick : FileId × FileId → Bool) :
    ((project.edges.filter pick).map project.relation).Nodup := by
  refine List.Nodup.map_on ?_ (wellFormed.edges_nodup.filter _)
  intro a in_a b in_b same
  obtain ⟨source_a, target_a⟩ := wellFormed.has_files (List.mem_of_mem_filter in_a)
  obtain ⟨source_b, target_b⟩ := wellFormed.has_files (List.mem_of_mem_filter in_b)
  have sources :=
    placed.file_eq wellFormed.files source_a source_b (congrArg FileRelation.source same)
  have targets :=
    placed.file_eq wellFormed.files target_a target_b (congrArg FileRelation.target same)
  exact Prod.ext sources targets

theorem LogicallyPlaced.summarizes (placed : LogicallyPlaced project)
    (wellFormed : WellFormed project) {id destination : PackageId} (has : project.HasPackage id)
    (member : id ∈ shown) (different : destination ≠ id) :
    project.Summarizes (project.summary shown id destination)
      (project.foldedEdges shown id destination) := by
  have carried := wellFormed.crossings_perm has member different
  refine {
    count_eq := carried.length_eq.trans (List.length_map _)
    relations_perm := (List.mergeSort_perm _ _).trans carried
    ascending := ?_ }
  have apart := placed.relations_nodup wellFormed fun edge =>
    project.standIn? shown edge.1 = some id ∧ project.standIn? shown edge.2 = some destination
  exact FileRelation.mergeSort_ascending (carried.nodup_iff.mpr apart)

/-- A dependency is drawn from each shown package to every other that it carries something to. -/
theorem WellFormed.mem_rolledUpDependencies_iff (wellFormed : WellFormed project) {id : PackageId}
    (has : project.HasPackage id) (member : id ∈ shown) (dependency : ViewDependency) :
    dependency ∈ project.rolledUpDependencies shown id ↔
      ∃ reached, reached ≠ id ∧ project.foldedEdges shown id reached ≠ [] ∧
        project.summary shown id reached = dependency := by
  rw [(project.rolledUpDependencies_perm shown id).mem_iff, List.mem_map]
  simp only [wellFormed.mem_reachedFrom_iff has member, and_assoc]

end PackageAtlas.Project
