import PackageAtlas.Proofs.Project.Contents
import PackageAtlas.Proofs.Project.Edges

/-!
# Dependencies of a directory

The targets of all files are turned into dependencies, file by file. In the end a file depends on
the other files that its own targets lead to, in the order of their first mention.
-/
namespace PackageAtlas.Project

variable {project : Project}

/-! ### Recording dependencies -/

theorem files_addDependency (source target : FileId) :
    (project.addDependency source target).files = project.files := by
  unfold Project.addDependency
  split <;> rfl

theorem mem_dependencies_iff {source target : FileId} :
    target ∈ project.dependencies source ↔ (source, target) ∈ project.edges := by
  simp only [dependencies, List.mem_filterMap]
  constructor
  · rintro ⟨⟨first, second⟩, member, ends⟩
    split at ends
    next starts =>
      cases ends
      cases starts
      exact member
    next => cases ends
  · intro member
    exact ⟨_, member, if_pos rfl⟩

theorem dependencies_addDependency (source target other : FileId) :
    (project.addDependency source target).dependencies other =
      if other = source ∧ target ∉ project.dependencies source then
        project.dependencies source ++ [target]
      else project.dependencies other := by
  unfold Project.addDependency
  split
  next known => rw [if_neg fun both => both.2 (mem_dependencies_iff.mpr known)]
  next fresh =>
    rw [← mem_dependencies_iff] at fresh
    rw [dependencies, List.filterMap_append]
    by_cases same : other = source
    · rw [if_pos ⟨same, fresh⟩, same]
      simp [dependencies]
    · rw [if_neg fun both => same both.1]
      simp [dependencies, Ne.symm same]

/-- All of the given dependencies, added in turn. -/
def addDependencies (project : Project) (edges : List (FileId × FileId)) : Project :=
  edges.foldl (fun project (source, target) => project.addDependency source target) project

theorem files_addDependencies (edges : List (FileId × FileId)) :
    (project.addDependencies edges).files = project.files := by
  induction edges generalizing project with
  | nil => rfl
  | cons edge rest ih => exact ih.trans (files_addDependency edge.1 edge.2)

/-- Each dependency stays where it was mentioned first. -/
theorem dependencies_addDependencies (none_yet : project.edges = [])
    (edges : List (FileId × FileId)) (source : FileId) :
    (project.addDependencies edges).dependencies source =
      ((edges.filter (·.1 = source)).map (·.2)).eraseDups := by
  -- From the end, since it is the last dependency that may be known already.
  induction edges using List.reverseRecOn with
  | nil => rw [addDependencies, List.foldl_nil, dependencies, none_yet]; rfl
  | append_singleton before last ih =>
    obtain ⟨first, second⟩ := last
    rw [addDependencies, List.foldl_append, List.foldl_cons, List.foldl_nil]
    change ((project.addDependencies before).addDependency first second).dependencies source = _
    rw [dependencies_addDependency, List.filter_append, List.map_append]
    by_cases same : source = first
    · subst same
      rw [ih, List.filter_cons_of_pos (by simp), List.filter_nil, List.map_singleton,
        eraseDups_concat]
      by_cases known : second ∈ (before.filter (·.1 = source)).map (·.2)
      · rw [if_neg fun both => both.2 (List.mem_eraseDups.mpr known), if_pos known]
      · rw [if_pos ⟨rfl, fun member => known (List.mem_eraseDups.mp member)⟩, if_neg known]
    · rw [if_neg fun both => same both.1, ih, List.filter_cons_of_neg (by simp [Ne.symm same]),
        List.filter_nil, List.map_nil, List.append_nil]

theorem edges_addDependencies (none_yet : project.edges = []) (edges : List (FileId × FileId)) :
    (project.addDependencies edges).edges = edges.eraseDups := by
  induction edges using List.reverseRecOn with
  | nil => exact none_yet
  | append_singleton before last ih =>
    rw [addDependencies, List.foldl_append, List.foldl_cons, List.foldl_nil]
    change ((project.addDependencies before).addDependency last.1 last.2).edges = _
    have known_iff : last ∈ (project.addDependencies before).edges ↔ last ∈ before := by
      rw [ih, List.mem_eraseDups]
    rw [Project.addDependency, eraseDups_concat]
    by_cases known : last ∈ before
    · rw [if_pos (known_iff.mpr known), if_pos known, ih]
    · rw [if_neg (mt known_iff.mp known), if_neg known, ← ih]

variable {tree : FileTree} {places : List Location} {found : List FoundFile}

theorem Filled.addDependency (filled : Filled tree project places found) {source target : FileId}
    (has_source : project.HasFile source) (has_target : project.HasFile target) :
    Filled tree (project.addDependency source target) places found := by
  have reachable := filled.reachable.addDependency has_source has_target
  unfold Project.addDependency at reachable ⊢
  split
  next => exact filled
  next fresh =>
    rw [if_neg fresh] at reachable
    exact {
      reachable := reachable
      paths := filled.paths
      plain := filled.plain
      located := filled.located
      files := filled.files }

theorem Filled.hasFile_iff (filled : Filled tree project places found) {id : FileId} :
    project.HasFile id ↔ id.index < found.length := by
  have same := congrArg List.length filled.files
  rw [List.length_map] at same
  rw [HasFile, same]

theorem Filled.addDependencies (filled : Filled tree project places found)
    {edges : List (FileId × FileId)}
    (inside : ∀ edge ∈ edges, project.HasFile edge.1 ∧ project.HasFile edge.2) :
    Filled tree (project.addDependencies edges) places found := by
  induction edges generalizing project with
  | nil => exact filled
  | cons edge rest ih =>
    obtain ⟨⟨has_source, has_target⟩, rest_inside⟩ := List.forall_mem_cons.mp inside
    have onward := filled.addDependency has_source has_target
    refine ih onward fun other member => ?_
    rw [onward.hasFile_iff, onward.hasFile_iff, ← filled.hasFile_iff, ← filled.hasFile_iff]
    exact rest_inside other member

/-! ### Targets of files -/

/-- The files that targets lead to, other than the file that has them. -/
def reachedBy (project : Project) (file : FileId) (targets : List ImportTarget) : List FileId :=
  (targets.filterMap fun target => project.fileAt? target.path).filter (· ≠ file)

theorem addTargets_eq (file : FileId) (targets : List ImportTarget) :
    project.addTargets file targets =
      project.addDependencies ((project.reachedBy file targets).map fun target =>
        (file, target)) := by
  -- Dependencies do not change where paths lead, so later targets lead where they led at first.
  have general (other : Project) (same : other.files = project.files) :
      other.addTargets file targets =
        other.addDependencies ((project.reachedBy file targets).map fun target =>
          (file, target)) := by
    induction targets generalizing other with
    | nil => rfl
    | cons target rest ih =>
      have lead : other.fileAt? target.path = project.fileAt? target.path := by
        rw [fileAt?, fileAt?, same]
      rw [addTargets, List.foldl_cons]
      unfold reachedBy at ih ⊢
      cases reached : project.fileAt? target.path with
      | none =>
        rw [List.filterMap_cons, lead, reached]
        exact ih other same
      | some destination =>
        rw [List.filterMap_cons, lead, reached]
        dsimp only
        by_cases itself : destination = file
        · rw [if_pos itself, List.filter_cons_of_neg (by simp [itself])]
          exact ih other same
        · rw [if_neg itself, List.filter_cons_of_pos (by simp [itself])]
          exact ih _ ((files_addDependency file destination).trans same)
  exact general project rfl

/-- All targets of all files, added in turn. -/
def withTargets (project : Project) (targets : List (FileId × List ImportTarget)) : Project :=
  targets.foldl (fun project (file, targets) => project.addTargets file targets) project

theorem withTargets_eq (targets : List (FileId × List ImportTarget)) :
    project.withTargets targets =
      project.addDependencies (targets.flatMap fun entry =>
        (project.reachedBy entry.1 entry.2).map fun target => (entry.1, target)) := by
  have general (other : Project) (same : other.files = project.files) :
      other.withTargets targets =
        other.addDependencies (targets.flatMap fun entry =>
          (project.reachedBy entry.1 entry.2).map fun target => (entry.1, target)) := by
    induction targets generalizing other with
    | nil => rfl
    | cons entry rest ih =>
      have reached_eq : other.reachedBy entry.1 entry.2 = project.reachedBy entry.1 entry.2 := by
        simp only [reachedBy, fileAt?, same]
      rw [withTargets, List.foldl_cons, List.flatMap_cons, addDependencies, List.foldl_append]
      dsimp only
      rw [addTargets_eq, reached_eq]
      exact ih _ ((files_addDependencies _).trans same)
  exact general project rfl

theorem files_withTargets (targets : List (FileId × List ImportTarget)) :
    (project.withTargets targets).files = project.files := by
  rw [withTargets_eq, files_addDependencies]

/-- A file depends on what its own targets lead to. -/
theorem dependencies_withTargets (none_yet : project.edges = [])
    {targets : List (FileId × List ImportTarget)} (distinct : (targets.map (·.1)).Nodup)
    {entry : FileId × List ImportTarget} (member : entry ∈ targets) :
    (project.withTargets targets).dependencies entry.1 =
      (project.reachedBy entry.1 entry.2).eraseDups := by
  rw [withTargets_eq, dependencies_addDependencies none_yet]
  rw [filter_flatMap_of_key Prod.fst Prod.fst (fun file edge inside => ?_) distinct member]
  · rw [List.map_map]
    exact congrArg List.eraseDups (List.map_id _)
  · obtain ⟨_, -, rfl⟩ := List.mem_map.mp inside
    rfl

/-- The dependencies of the files stand in the order of the files. -/
theorem edges_withTargets (none_yet : project.edges = [])
    {targets : List (FileId × List ImportTarget)} (distinct : (targets.map (·.1)).Nodup) :
    (project.withTargets targets).edges =
      (project.withTargets targets).edgesFrom (targets.map (·.1)) := by
  have own_edges (entry : FileId × List ImportTarget) :
      ∀ edge ∈ (project.reachedBy entry.1 entry.2).map fun target => (entry.1, target),
        edge.1 = entry.1 := by
    intro edge inside
    obtain ⟨_, -, rfl⟩ := List.mem_map.mp inside
    rfl
  have edges_eq : (project.withTargets targets).edges = targets.flatMap fun entry =>
      ((project.reachedBy entry.1 entry.2).map fun target => (entry.1, target)).eraseDups := by
    rw [withTargets_eq, edges_addDependencies none_yet]
    exact eraseDups_flatMap_of_key Prod.fst Prod.fst own_edges distinct
  rw [edges_eq, edgesFrom, List.flatMap_map]
  refine List.flatMap_congr fun entry member => ?_
  rw [dependencies_withTargets none_yet distinct member]
  exact eraseDups_map fun a _ b _ same => (Prod.mk.inj same).2

theorem Filled.withTargets (filled : Filled tree project places found)
    {targets : List (FileId × List ImportTarget)}
    (inside : ∀ entry ∈ targets, project.HasFile entry.1) :
    Filled tree (project.withTargets targets) places found := by
  rw [withTargets_eq]
  refine filled.addDependencies fun edge member => ?_
  obtain ⟨entry, among, reached⟩ := List.mem_flatMap.mp member
  obtain ⟨target, inner, rfl⟩ := List.mem_map.mp reached
  obtain ⟨_, -, at_target⟩ := List.mem_filterMap.mp (List.mem_filter.mp inner).1
  refine ⟨inside entry among, ?_⟩
  exact ((fileAt?_eq_some_iff filled.reachable.wellFormed.files).mp at_target).1

end PackageAtlas.Project
