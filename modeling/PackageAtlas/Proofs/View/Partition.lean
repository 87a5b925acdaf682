import PackageAtlas.Proofs.Project.LogicalPaths
import PackageAtlas.Proofs.Project.Walks
import PackageAtlas.Proofs.View.Absorption

/-!
# Files shared out among shown packages

Every file below a shown package is absorbed by exactly one shown package, the nearest around it,
and by that once. The loop that collects the files of a shown package comes to its end for every
choice of shown packages.
-/
namespace PackageAtlas.Project

variable {project : Project} {shown : List PackageId}

/-- The loop that pushes the hidden children of a package collects the files that it absorbs. -/
theorem PackageTree.walks_absorbedFiles (tree : PackageTree project) (shown : List PackageId)
    {top : PackageId} (has : project.HasPackage top) :
    Walks (fun id => (project.package id).children.filter (!shown.contains ·))
      (fun id => (project.package id).files) [top] (project.absorbedFiles shown top) :=
  tree.walks (fun _ => List.filter_sublist.subset) (fun _ has => tree.absorbedFiles_eq shown has)
    has

/-- The search upwards fails where no package on the way is shown. -/
theorem nearestShown?_eq_none_iff {id : PackageId} :
    project.nearestShown? shown id = none ↔ ∀ around ∈ project.chain id, around ∉ shown := by
  simp [nearestShown?, List.find?_eq_none]

/-- Whether the files of a project are shared out among shown packages by who is nearest. -/
structure FilesSharedOut (project : Project) (shown : List PackageId) : Prop where
  /-- The loop over a stack ends, with the files that the package absorbs. -/
  ends {top : PackageId} (has : project.HasPackage top) (files : List FileId) :
    Walks (fun id => (project.package id).children.filter (!shown.contains ·))
        (fun id => (project.package id).files) [top] files ↔
      files = project.absorbedFiles shown top
  nodup {top : PackageId} (member : top ∈ shown) : (project.absorbedFiles shown top).Nodup
  disjoint {a b : PackageId} (first : a ∈ shown) (second : b ∈ shown) (different : a ≠ b) :
    (project.absorbedFiles shown a).Disjoint (project.absorbedFiles shown b)
  mem_iff {top : PackageId} (member : top ∈ shown) (file : FileId) :
    file ∈ project.absorbedFiles shown top ↔ project.HasFile file ∧
      project.nearestShown? shown (project.file file).package = some top
  /-- Nobody absorbs a file exactly if it lies below no shown package. -/
  left_out_iff {file : FileId} (has : project.HasFile file) :
    (∀ top ∈ shown, file ∉ project.absorbedFiles shown top) ↔
      ∀ around ∈ project.chain (project.file file).package, around ∉ shown

/-- Shown packages share out the files of a project, whichever packages are shown. -/
theorem Reachable.files_shared_out {names : String → Prop} (reachable : Reachable names project)
    (inside : ∀ id ∈ shown, project.HasPackage id) : project.FilesSharedOut shown := by
  have wellFormed := reachable.wellFormed
  have absorbs_iff {top : PackageId} (member : top ∈ shown) (file : FileId) :=
    wellFormed.mem_absorbedFiles_iff (inside top member) member file
  refine {
    ends := fun {top} has files => ?ends
    nodup := fun member => wellFormed.absorbedFiles_nodup shown (inside _ member)
    disjoint := fun {a b} first second different file in_a in_b => ?disjoint
    mem_iff := absorbs_iff
    left_out_iff := fun {file} has => ?left_out }
  case ends =>
    have walks := wellFormed.tree.walks_absorbedFiles shown has
    constructor
    · exact fun walks_too => walks_too.unique walks
    · rintro rfl
      exact walks
  case disjoint =>
    -- Only one package is the nearest.
    have nearest_a := ((absorbs_iff first file).mp in_a).2
    have nearest_b := ((absorbs_iff second file).mp in_b).2
    exact different (Option.some.inj (nearest_a.symm.trans nearest_b))
  case left_out =>
    rw [← nearestShown?_eq_none_iff]
    constructor
    · -- Otherwise one of the shown packages around the file is the nearest, and absorbs it.
      intro nobody
      by_contra something
      obtain ⟨nearest, found⟩ := Option.ne_none_iff_exists'.mp something
      have member := (mem_of_nearestShown? found).1
      exact nobody nearest member ((absorbs_iff member file).mpr ⟨has, found⟩)
    · intro nothing top member absorbed
      rw [((absorbs_iff member file).mp absorbed).2] at nothing
      cases nothing

/-- With `a`, `b` and `a/c/d` shown, `a` absorbs the file of `a/c`, and nobody that of the root. -/
theorem sample_files_shared_out :
    sample.FilesSharedOut [⟨1⟩, ⟨4⟩, ⟨2⟩] ∧
      (∀ id ∈ ([⟨1⟩, ⟨4⟩, ⟨2⟩] : List PackageId), sample.HasPackage id) ∧
      sample.absorbedFiles [⟨1⟩, ⟨4⟩, ⟨2⟩] ⟨1⟩ = [⟨0⟩] ∧
      sample.absorbedFiles [⟨1⟩, ⟨4⟩, ⟨2⟩] ⟨4⟩ = [⟨2⟩] ∧
      sample.absorbedFiles [⟨1⟩, ⟨4⟩, ⟨2⟩] ⟨2⟩ = [⟨1⟩] ∧
      sample.HasFile ⟨3⟩ ∧ (sample.file ⟨3⟩).package = root := by
  have inside : ∀ id ∈ ([⟨1⟩, ⟨4⟩, ⟨2⟩] : List PackageId), sample.HasPackage id := by
    decide +kernel
  exact ⟨sample_reachable.files_shared_out inside, inside, by decide +kernel⟩

end PackageAtlas.Project
