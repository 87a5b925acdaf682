import Mathlib.Data.List.DropRight
import PackageAtlas.Proofs.View.Renumbering

/-!
# Views see their scope only

What lies outside the scope of a project has no part in its views: packages are picked among those
in the scope, no dependency is carried by or to anything else, and the search upwards from a file
outside finds nothing. An anchor alone is looked up in the whole project, and one that is not led by
the name of the root package means the same package whatever else there is.
-/
namespace PackageAtlas

/-! ### Normalized paths -/

namespace Text

theorem toList_trim (c : Char) (text : String) :
    (trim c text).toList = (text.toList.dropWhile (· == c)).rdropWhile (· == c) :=
  String.toList_ofList

/-- Cutting characters off the end leaves the start of a list alone. -/
theorem dropWhile_rdropWhile {α : Type} (void : α → Bool) (chars : List α) :
    ((chars.dropWhile void).rdropWhile void).dropWhile void =
      (chars.dropWhile void).rdropWhile void := by
  cases kept : (chars.dropWhile void).rdropWhile void with
  | nil => rfl
  | cons first rest =>
    apply List.dropWhile_cons_of_neg
    obtain ⟨behind, whole⟩ := List.rdropWhile_prefix void (l := chars.dropWhile void)
    rw [kept, List.cons_append] at whole
    have head := List.head?_dropWhile_not void chars
    rw [← whole] at head
    simpa using head

theorem trim_trim (c : Char) (text : String) : trim c (trim c text) = trim c text := by
  apply String.toList_inj.mp
  rw [toList_trim, toList_trim, dropWhile_rdropWhile, List.rdropWhile_idempotent]

end Text

theorem LogicalPath.dot_not_mem_normalize (spelling : String) :
    '.' ∉ (normalize spelling).toList := by
  intro dot
  have inside : '.' ∈ (Text.replace '.' '/' spelling).toList := by
    rw [normalize, Text.toList_trim] at dot
    exact (List.dropWhile_sublist _).mem ((List.rdropWhile_prefix _ _).sublist.mem dot)
  rw [Text.replace, String.toList_ofList] at inside
  obtain ⟨c, -, replaced⟩ := List.mem_map.mp inside
  split at replaced
  next => exact absurd replaced (by decide)
  next different => exact different replaced

theorem LogicalPath.normalize_normalize (spelling : String) :
    normalize (normalize spelling) = normalize spelling := by
  rw [normalize, Text.replace_of_not_mem (dot_not_mem_normalize spelling), normalize,
    Text.trim_trim]

/-! ### Anchors -/

/-- The path that an anchor is looked up by: as it is spelled, but for stars. -/
def anchorPath (path : String) : String :=
  LogicalPath.normalize (String.ofList (path.toList.filter (· ≠ '*')))

/-- Whether a path begins with a name, as a segment of its own. -/
def LedBy (name path : String) : Prop :=
  path = name ∨ ∃ rest, path = name ++ "/" ++ rest

/-- Whether no anchor of a specification is led by a name. -/
def ViewSpec.Clear (spec : ViewSpec) (name : String) : Prop :=
  ∀ path levels, .anchored path levels ∈ spec.packages → ¬ LedBy name (anchorPath path)

namespace Project

variable {project a b : Project}

theorem dropRootName?_eq_some_iff {relative rest : String} :
    project.dropRootName? relative = some rest ↔
      if relative = (project.package root).name then rest = ""
      else relative = (project.package root).name ++ "/" ++ rest := by
  rw [dropRootName?]
  split
  next => rw [Option.some.injEq, eq_comm]
  next =>
    simp only [Option.bind_eq_some_iff, Text.dropStart?_eq_some_iff]
    rw [String.append_assoc]
    constructor
    · rintro ⟨_, name_dropped, rfl⟩
      exact name_dropped
    · exact fun led => ⟨_, led, rfl⟩

theorem dropRootName?_eq_none_iff {relative : String} :
    project.dropRootName? relative = none ↔ ¬ LedBy (project.package root).name relative := by
  simp only [Option.eq_none_iff_forall_ne_some, ne_eq, dropRootName?_eq_some_iff, LedBy]
  by_cases same : relative = (project.package root).name <;> simp [same]

theorem findPackage_normalize {spelling : String} {id : PackageId} :
    project.findPackage (LogicalPath.normalize spelling) = .ok id ↔
      project.findPackage spelling = .ok id := by
  rw [findPackage_eq_ok_iff, findPackage_eq_ok_iff, LogicalPath.normalize_normalize]

/-- Whether a package is the anchor at a path: the scope if the path is empty without its stars, and
otherwise the package of this name. -/
def IsAnchor (project : Project) (path : String) (anchor : PackageId) : Prop :=
  if anchorPath path = "" then anchor = project.scope
  else project.findPackage (anchorPath path) = .ok anchor

theorem anchor?_eq_some_iff {path : String} {anchor : PackageId} :
    project.anchor? path = some anchor ↔ project.IsAnchor path anchor := by
  have anchor_eq : project.anchor? path =
      if (anchorPath path).isEmpty then some project.scope
      else (project.findPackage (anchorPath path)).toOption := rfl
  rw [anchor_eq, IsAnchor]
  by_cases empty : anchorPath path = ""
  · rw [if_pos (String.isEmpty_iff.mpr empty), if_pos empty, Option.some.injEq, eq_comm]
  · rw [if_neg (mt String.isEmpty_iff.mp empty), if_neg empty]
    cases project.findPackage (anchorPath path) <;> simp [Except.toOption]

/-- An anchor that the root's name does not lead is the package with its path, or the scope. -/
theorem Reachable.anchor?_eq_some_iff (reachable : Reachable SingleName project) {path : String}
    (clear : ¬ LedBy (project.package root).name (anchorPath path)) {id : PackageId} :
    project.anchor? path = some id ↔
      if anchorPath path = "" then id = project.scope
      else project.HasPackage id ∧ (project.package id).relative = anchorPath path := by
  have normal : LogicalPath.normalize (anchorPath path) = anchorPath path :=
    LogicalPath.normalize_normalize _
  rw [Project.anchor?_eq_some_iff, IsAnchor, findPackage_eq_ok_iff, normal,
    dropRootName?_eq_none_iff.mpr clear,
    ← packageWithRelative?_eq_some_iff reachable.placed reachable.wellFormed.tree]
  -- There is no name of the root to take off.
  simp

theorem ScopeRenumbers.anchorsMatch {package : PackageId → PackageId} {file : FileId → FileId}
    (renumbers : ScopeRenumbers a b package file) (reachable_a : Reachable SingleName a)
    (reachable_b : Reachable SingleName b) {path : String}
    (clear_a : ¬ LedBy (a.package root).name (anchorPath path))
    (clear_b : ¬ LedBy (b.package root).name (anchorPath path)) :
    AnchorsMatch a b package path := by
  intro id inside
  rw [reachable_a.anchor?_eq_some_iff clear_a, reachable_b.anchor?_eq_some_iff clear_b]
  split
  next =>
    rw [renumbers.scope]
    exact ⟨renumbers.package_inj inside reachable_a.wellFormed.scope_inScope, congrArg package⟩
  next =>
    rw [renumbers.relative inside]
    exact and_congr_left fun _ =>
      iff_of_true (reachable_b.wellFormed.has_of_inScope (renumbers.has_package inside))
        (reachable_a.wellFormed.has_of_inScope inside)

/-! ### Scopes with the same content -/

/-- The dependencies between files in the scope. -/
def edgesInScope (project : Project) : List (FileId × FileId) :=
  let files := project.filesInSubtree project.scope
  project.edges.filter fun edge => edge.1 ∈ files && edge.2 ∈ files

/-- Whether two projects have scopes at one logical path with the same packages, files and
dependencies in them, whatever there is outside. Their root directories are called alike. -/
structure SameScope (a b : Project) : Prop where
  root_name : a.rootDirectory.fileName? = b.rootDirectory.fileName?
  scope : (a.package a.scope).relative = (b.package b.scope).relative
  packages (relative : String) :
    relative ∈ (a.subtree a.scope).map (fun id => (a.package id).relative) ↔
      relative ∈ (b.subtree b.scope).map fun id => (b.package id).relative
  files (relative : String) :
    relative ∈ (a.filesInSubtree a.scope).map (fun id => (a.file id).relative) ↔
      relative ∈ (b.filesInSubtree b.scope).map fun id => (b.file id).relative
  edges (relation : FileRelation) :
    relation ∈ a.edgesInScope.map a.relation ↔ relation ∈ b.edgesInScope.map b.relation

theorem SameScope.symm (same : SameScope a b) : SameScope b a where
  root_name := same.root_name.symm
  scope := same.scope.symm
  packages relative := (same.packages relative).symm
  files relative := (same.files relative).symm
  edges relation := (same.edges relation).symm

theorem WellFormed.fileInScope_iff (wellFormed : WellFormed project) {id : FileId} :
    project.FileInScope id ↔ id ∈ project.filesInSubtree project.scope := by
  rw [wellFormed.mem_filesInSubtree_iff wellFormed.has_scope, FileInScope, isInSubtree,
    List.contains_iff_mem]
  refine and_congr_right fun has => ?_
  rw [wellFormed.inScope_iff]
  exact and_iff_right (wellFormed.files.has_owner has)

theorem WellFormed.mem_edgesInScope_iff (wellFormed : WellFormed project)
    {edge : FileId × FileId} :
    edge ∈ project.edgesInScope ↔
      edge ∈ project.edges ∧ project.FileInScope edge.1 ∧ project.FileInScope edge.2 := by
  rw [edgesInScope, List.mem_filter, Bool.and_eq_true, decide_eq_true_iff, decide_eq_true_iff,
    wellFormed.fileInScope_iff, wellFormed.fileInScope_iff]

theorem SameScope.counterpart (same : SameScope a b) (reachable : Reachable SingleName b)
    {id : PackageId} (inside : a.InScope id) :
    b.InScope (a.counterpart b id) ∧
      (b.package (a.counterpart b id)).relative = (a.package id).relative := by
  obtain ⟨other, other_inside, relative⟩ :=
    List.mem_map.mp ((same.packages _).mp (List.mem_map_of_mem inside))
  rw [reachable.counterpart_eq (reachable.wellFormed.has_of_inScope other_inside) relative]
  exact ⟨other_inside, relative⟩

theorem SameScope.fileCounterpart (same : SameScope a b) (wellFormed_a : WellFormed a)
    (reachable : Reachable SingleName b) {id : FileId} (inside : a.FileInScope id) :
    b.FileInScope (a.fileCounterpart b id) ∧
      (b.file (a.fileCounterpart b id)).relative = (a.file id).relative := by
  obtain ⟨other, other_listed, relative⟩ := List.mem_map.mp
    ((same.files _).mp (List.mem_map_of_mem (wellFormed_a.fileInScope_iff.mp inside)))
  have other_inside := reachable.wellFormed.fileInScope_iff.mpr other_listed
  rw [reachable.fileCounterpart_eq other_inside.1 relative]
  exact ⟨other_inside, relative⟩

/-- A dependency in one scope is there between the counterparts in the other scope as well. -/
theorem SameScope.edge_counterpart (same : SameScope a b) (wellFormed_a : WellFormed a)
    (reachable : Reachable SingleName b) {source target : FileId}
    (source_inside : a.FileInScope source) (target_inside : a.FileInScope target)
    (member : (source, target) ∈ a.edges) :
    (a.fileCounterpart b source, a.fileCounterpart b target) ∈ b.edges := by
  have listed := wellFormed_a.mem_edgesInScope_iff.mpr ⟨member, source_inside, target_inside⟩
  obtain ⟨⟨first, second⟩, other_listed, same_relation⟩ := List.mem_map.mp
    ((same.edges _).mp (List.mem_map_of_mem listed))
  obtain ⟨other_member, first_inside, second_inside⟩ :=
    reachable.wellFormed.mem_edgesInScope_iff.mp other_listed
  rw [relation, relation, FileRelation.mk.injEq] at same_relation
  rwa [reachable.fileCounterpart_eq first_inside.1 same_relation.1,
    reachable.fileCounterpart_eq second_inside.1 same_relation.2]

/-- Elements in the scope and their counterparts have all in common but their numbers. -/
theorem SameScope.renumbers (same : SameScope a b) (reachable_a : Reachable SingleName a)
    (reachable_b : Reachable SingleName b) :
    ScopeRenumbers a b (a.counterpart b) (a.fileCounterpart b) := by
  have wellFormed_a := reachable_a.wellFormed
  have wellFormed_b := reachable_b.wellFormed
  have counterpart {id : PackageId} (inside : a.InScope id) := same.counterpart reachable_b inside
  have file {id : FileId} (inside : a.FileInScope id) :=
    same.fileCounterpart wellFormed_a reachable_b inside
  have has {id : PackageId} (inside : a.InScope id) := wellFormed_a.has_of_inScope inside
  have has_b {id : PackageId} (inside : b.InScope id) := wellFormed_b.has_of_inScope inside
  -- Logical paths tell the elements of a project apart, so everything follows from equal paths.
  refine {
    scope := (reachable_b.counterpart_eq wellFormed_b.has_scope same.scope.symm).symm
    has_package := fun inside => (counterpart inside).1
    has_file := fun inside => (file inside).1
    package_inj := fun {x y} x_inside y_inside same_number => ?package_inj
    file_inj := fun {x y} x_inside y_inside same_number => ?file_inj
    exists_package := fun {other} other_inside => ?exists_package
    exists_file := fun {other} other_inside => ?exists_file
    relative := fun inside => (counterpart inside).2
    name := fun inside => reachable_a.name_eq reachable_b same.root_name (has inside)
      (has_b (counterpart inside).1) (counterpart inside).2
    parent := fun inside _ => reachable_a.parent_counterpart reachable_b (has inside)
      (has_b (counterpart inside).1) (counterpart inside).2
    file_relative := fun inside => (file inside).2
    owner := fun {id} inside => ?owner
    edges := fun {source target} source_inside target_inside => ⟨fun member => ?back, fun member =>
      same.edge_counterpart wellFormed_a reachable_b source_inside target_inside member⟩ }
  case package_inj =>
    have relatives := (counterpart x_inside).2
    rw [same_number, (counterpart y_inside).2] at relatives
    exact reachable_a.placed.package_eq wellFormed_a.tree (has x_inside) (has y_inside)
      relatives.symm
  case file_inj =>
    have relatives := (file x_inside).2
    rw [same_number, (file y_inside).2] at relatives
    exact reachable_a.placed.file_eq wellFormed_a.files x_inside.1 y_inside.1 relatives.symm
  case exists_package =>
    obtain ⟨back_inside, relative⟩ := same.symm.counterpart reachable_a other_inside
    exact ⟨_, back_inside, reachable_b.counterpart_eq (has_b other_inside) relative.symm⟩
  case exists_file =>
    obtain ⟨back_inside, relative⟩ :=
      same.symm.fileCounterpart wellFormed_b reachable_a other_inside
    exact ⟨_, back_inside, reachable_b.fileCounterpart_eq other_inside.1 relative.symm⟩
  case owner =>
    obtain ⟨other_inside, relative⟩ := file inside
    exact (reachable_b.counterpart_eq (wellFormed_b.files.has_owner other_inside.1)
      (reachable_a.owners_alike reachable_b inside.1 other_inside.1 relative)).symm
  case back =>
    -- The counterpart of a counterpart is the file itself.
    have inside := same.symm.edge_counterpart wellFormed_b reachable_a (file source_inside).1
      (file target_inside).1 member
    rwa [reachable_a.fileCounterpart_eq source_inside.1 (file source_inside).2.symm,
      reachable_a.fileCounterpart_eq target_inside.1 (file target_inside).2.symm] at inside

/-! ### Isolation -/

/-- What is outside the scope makes no difference to a view, be it packages, files or dependencies,
and nothing of it is shown. -/
theorem Reachable.view_isolated (reachable_a : Reachable SingleName a)
    (reachable_b : Reachable SingleName b) (same : SameScope a b) {spec : ViewSpec}
    (clear : spec.Clear (a.package root).name) :
    (a.view spec).unnumbered = (b.view spec).unnumbered ∧
      ∀ package ∈ (a.view spec).packages,
        package.origin ∈ a.subtree a.scope ∧
          package.path = (a.package package.origin).relative := by
  have renumbers := same.renumbers reachable_a reachable_b
  have root_name : (b.package root).name = (a.package root).name := by
    rw [reachable_a.stepwise.root_name, reachable_b.stepwise.root_name, same.root_name]
  constructor
  · refine (renumbers.view reachable_a reachable_b fun path levels listed => ?_).symm
    have not_led := clear path levels listed
    exact renumbers.anchorsMatch reachable_a reachable_b not_led (root_name ▸ not_led)
  · intro package member
    obtain ⟨is_shown, path_eq, -⟩ :=
      reachable_a.placed.mem_view_packages reachable_a.wellFormed member
    exact ⟨List.mem_of_mem_filter is_shown, path_eq⟩

/-- Calls for a package `a`, a package `c` in it and one dependency from a file of `a` to one of
`c`. -/
def alone : List Operation :=
  [.addPackage root "a", .addPackage ⟨1⟩ "c", .addFile ⟨1⟩ "x.py" none, .addFile ⟨2⟩ "y.py" none,
    .addDependency ⟨0⟩ ⟨1⟩, .changeScope "a"]

/-- Calls for the same, with another package and dependencies that cross the border of `a`. -/
def surrounded : List Operation :=
  [.addPackage root "b", .addFile root "r.py" none, .addFile ⟨1⟩ "z.py" none,
    .addPackage root "a", .addFile ⟨2⟩ "x.py" none, .addPackage ⟨2⟩ "c", .addFile ⟨3⟩ "y.py" none,
    .addDependency ⟨2⟩ ⟨1⟩, .addDependency ⟨2⟩ ⟨3⟩, .addDependency ⟨0⟩ ⟨3⟩,
    .addDependency ⟨1⟩ ⟨0⟩, .changeScope "a"]

/-- A specification with the anchor `b`, which is outside the scope. -/
def aroundB : ViewSpec :=
  ⟨[.anchored "a.*" 1, .anchored "b" 3, .byPrefix ""], [], none⟩

theorem surrounded_view :
    let first := (Project.new ⟨"/p"⟩).run alone
    let second := (Project.new ⟨"/p"⟩).run surrounded
    SameScope first second ∧ aroundB.Clear (first.package root).name ∧
      first.edges.length < second.edges.length ∧
      (first.view aroundB).unnumbered = (second.view aroundB).unnumbered := by
  intro first second
  have reachable_first : Reachable SingleName first :=
    ((kept_new ⟨"/p"⟩).run (by decide +kernel) (by decide +kernel)).reachable
  have reachable_second : Reachable SingleName second :=
    ((kept_new ⟨"/p"⟩).run (by decide +kernel) (by decide +kernel)).reachable
  have packages : (first.subtree first.scope).map (fun id => (first.package id).relative) =
      (second.subtree second.scope).map fun id => (second.package id).relative := by
    decide +kernel
  have files : (first.filesInSubtree first.scope).map (fun id => (first.file id).relative) =
      (second.filesInSubtree second.scope).map fun id => (second.file id).relative := by
    decide +kernel
  have edges : first.edgesInScope.map first.relation = second.edgesInScope.map second.relation := by
    decide +kernel
  have same : SameScope first second := {
    root_name := rfl
    scope := by decide +kernel
    packages := fun _ => by rw [packages]
    files := fun _ => by rw [files]
    edges := fun _ => by rw [edges] }
  have unled : ∀ path ∈ ["a.*", "b"], first.dropRootName? (anchorPath path) = none := by
    decide +kernel
  have clear : aroundB.Clear (first.package root).name := by
    intro path levels listed
    refine dropRootName?_eq_none_iff.mp (unled path ?_)
    simp only [aroundB, List.mem_cons, PackageSelector.anchored.injEq, reduceCtorEq,
      List.not_mem_nil, or_false] at listed
    rcases listed with ⟨rfl, -⟩ | ⟨rfl, -⟩
    · exact List.mem_cons_self
    · exact List.mem_cons_of_mem _ List.mem_cons_self
  have isolated := reachable_first.view_isolated reachable_second same clear
  exact ⟨same, clear, by decide +kernel, isolated.1⟩

end Project

end PackageAtlas
