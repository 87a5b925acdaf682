import PackageAtlas.Proofs.Grouping
import PackageAtlas.Proofs.Project.Hierarchy

/-!
# Dependencies file by file

Walking the dependencies of some files, one file after the other, meets every dependency that
starts at one of them once.
-/
namespace PackageAtlas.Project

/-- The dependencies of some files in turn, each with the file it starts at. -/
def edgesFrom (project : Project) (files : List FileId) : List (FileId × FileId) :=
  files.flatMap fun source => (project.dependencies source).map fun target => (source, target)

theorem map_dependencies (project : Project) (source : FileId) :
    ((project.dependencies source).map fun target => (source, target)) =
      project.edges.filter (·.1 = source) := by
  rw [dependencies]
  induction project.edges with
  | nil => rfl
  | cons edge rest ih =>
    obtain ⟨first, second⟩ := edge
    by_cases starts : first = source
    · subst starts
      simp [← ih]
    · simp [starts, ih]

theorem edgesFrom_perm (project : Project) {files : List FileId} (nodup : files.Nodup) :
    (project.edgesFrom files).Perm (project.edges.filter (·.1 ∈ files)) := by
  simp only [edgesFrom, map_dependencies]
  exact flatMap_groups_perm (·.1) nodup project.edges fun _ _ => decide_eq_true_iff

end PackageAtlas.Project
