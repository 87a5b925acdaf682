import PackageAtlas.Proofs.Project.ModuleFiles
import PackageAtlas.Proofs.View.Labels
import PackageAtlas.Proofs.View.Validation

/-!
# What shown names mean

Views and messages show a package by its dotted path, and the root package by the name of its
directory. Such a name means the package again unless a dot is part of a directory name. Paths come
before the root's own name, so the root hides behind a package that is called like it.
-/
namespace PackageAtlas

/-! ### Dotted paths -/

namespace LogicalPath

theorem normalize_name {name : String} (plain : PlainName name) (dotless : '.' ∉ name.toList) :
    normalize name = name := by
  have whole : WholeParts [name] := by
    intro part member
    rw [List.mem_singleton.mp member]
    refine ⟨?_, dotless, plain.no_slash⟩
    rintro rfl
    exact absurd plain.not_void (by decide)
  simpa only [Text.join_singleton] using normalize_join whole

theorem normalize_dotted {way : Location} (plain : way.Plain)
    (dotless : '.' ∉ (Text.join '/' way).toList) :
    normalize (dotted (Text.join '/' way)) = Text.join '/' way := by
  by_cases empty : way = []
  · rw [empty]
    decide
  · have cut : Text.split '/' (Text.join '/' way) = way :=
      Text.split_join empty fun name member => (plain name member).no_slash
    have whole : WholeParts way := by
      intro name member
      refine ⟨?_, fun dot => ?_, (plain name member).no_slash⟩
      · rintro rfl
        exact absurd (plain "" member).not_void (by decide)
      · rw [← cut] at member
        exact dotless (Text.mem_of_mem_split member dot)
    rw [dotted, Text.replace_eq_join, cut, normalize_join whole]

end LogicalPath

namespace Project

variable {project : Project}

/-- Whatever a spelling means has a path without dots, since these are read as separators. -/
theorem dot_not_mem_of_findPackage (tree : PackageTree project) {spelling : String}
    {id : PackageId} (found : project.findPackage spelling = .ok id) :
    '.' ∉ (project.package id).relative.toList := by
  have dotless := LogicalPath.dot_not_mem_normalize spelling
  rcases findPackage_eq_ok_iff.mp found with direct | ⟨-, rest, dropped, shortened⟩
  · rwa [(packageWithRelative?_has tree direct).2]
  · rw [(packageWithRelative?_has tree shortened).2]
    rw [dropRootName?_eq_some_iff] at dropped
    -- What is left without the root's name is empty or the end of the path.
    split at dropped
    next =>
      rw [dropped]
      exact List.not_mem_nil
    next =>
      intro dot
      rw [dropped, String.toList_append] at dotless
      exact dotless (List.mem_append_right _ dot)

/-- The name of a package below the root means the package exactly if no directory on the way to it
has a dot in its name. -/
theorem Reachable.findPackage_dotted_iff (reachable : Reachable PlainName project) {top : Location}
    (top_plain : top.Plain) (at_top : project.rootDirectory = top.path) {id : PackageId}
    (has : project.HasPackage id) :
    project.findPackage (LogicalPath.dotted (project.package id).relative) = .ok id ↔
      '.' ∉ (project.package id).relative.toList := by
  have tree := reachable.wellFormed.tree
  have single : Reachable SingleName project := reachable.mono fun _ plain => plain.single
  obtain ⟨way, lies⟩ := reachable.exists_packageWay top_plain at_top has
  refine ⟨dot_not_mem_of_findPackage tree, fun dotless => findPackage_eq_ok_iff.mpr (Or.inl ?_)⟩
  rw [packageWithRelative?_eq_some_iff single.placed tree, lies.relative_eq]
  rw [lies.relative_eq] at dotless
  exact ⟨has, (LogicalPath.normalize_dotted lies.plain dotless).symm⟩

/-! ### The name of the root -/

theorem Reachable.plain_rootName {names : String → Prop} (reachable : Reachable names project)
    {top : Location} (top_plain : top.Plain) (at_top : project.rootDirectory = top.path) :
    PlainName (project.package root).name := by
  rw [reachable.stepwise.root_name, at_top]
  rcases List.eq_nil_or_concat' top with rfl | ⟨before, name, rfl⟩
  · rw [Location.fileName?_root]
    exact ⟨by decide, by decide, by decide⟩
  · rw [Location.fileName?_path top_plain]
    exact (Location.plain_concat.mp top_plain).2

/-- The name of the root means a package directly below it that is called alike, and otherwise the
root. -/
theorem Reachable.findPackage_rootName (reachable : Reachable SingleName project) {name : String}
    (name_eq : (project.package root).name = name) (plain : PlainName name)
    (dotless : '.' ∉ name.toList) :
    (∀ other, project.HasPackage other → (project.package other).relative = name →
      project.findPackage name = .ok other) ∧
    ((∀ other, project.HasPackage other → (project.package other).relative ≠ name) →
      project.findPackage name = .ok root) := by
  have tree := reachable.wellFormed.tree
  have known_iff (relative : String) (id : PackageId) :
      project.packageWithRelative? relative = some id ↔
        project.HasPackage id ∧ (project.package id).relative = relative :=
    packageWithRelative?_eq_some_iff reachable.placed tree
  simp only [findPackage_eq_ok_iff, LogicalPath.normalize_name plain dotless]
  constructor
  · intro other has same
    exact Or.inl ((known_iff name other).mpr ⟨has, same⟩)
  · intro unlike
    have unknown : project.packageWithRelative? name = none := by
      refine Option.eq_none_iff_forall_ne_some.mpr fun other known => ?_
      obtain ⟨has, same⟩ := (known_iff name other).mp known
      exact unlike other has same
    have dropped : project.dropRootName? name = some "" := by
      rw [dropRootName?_eq_some_iff, if_pos name_eq.symm]
    exact Or.inr ⟨unknown, "", dropped,
      (known_iff "" root).mpr ⟨tree.has_root, reachable.stepwise.root_relative⟩⟩

/-! ### Where names are used -/

theorem nodeName_root (reachable : Reachable SingleName project) :
    project.nodeName (.package root) = (project.package root).name := by
  rw [nodeName, Package.dottedName, reachable.stepwise.root_relative]
  rfl

theorem nodeName_of_ne_root (reachable : Reachable SingleName project) {id : PackageId}
    (has : project.HasPackage id) (below : id ≠ root) :
    project.nodeName (.package id) = LogicalPath.dotted (project.package id).relative := by
  have nonempty := mt (reachable.relative_eq_empty_iff has).mp below
  rw [nodeName, Package.dottedName, if_neg (by simpa using nonempty)]

/-- Whether a name stands for a package wherever names are read: in a policy, as a scope, and as an
anchor below any scope if it is more than separators and has no stars. -/
structure StandsFor (project : Project) (name : String) (id : PackageId) : Prop where
  node : project.findNode (.package name) = .ok (.package id)
  scope : project.changeScope name = .ok (id, { project with scope := id })
  anchor (scope : PackageId) :
    '*' ∉ name.toList → LogicalPath.normalize name ≠ "" →
      { project with scope }.anchor? name = some id

theorem standsFor_of_findPackage {name : String} {id : PackageId}
    (found : project.findPackage name = .ok id) : project.StandsFor name id where
  node := by rw [findNode, found]; rfl
  scope := by rw [changeScope, found]; rfl
  anchor scope starless nonempty := by
    rw [anchor?_eq_some_iff, IsAnchor, anchorPath_of_starless starless, if_neg nonempty,
      findPackage_normalize]
    exact found

theorem LogicallyPlaced.view_names (placed : LogicallyPlaced project)
    (wellFormed : WellFormed project) {spec : ViewSpec} {package : ViewPackage}
    (member : package ∈ (project.view spec).packages) :
    package.name = project.nodeName (.package package.origin) := by
  obtain ⟨label, perm⟩ := placed.view_packages_perm wellFormed spec
  obtain ⟨id, -, rfl⟩ := List.mem_map.mp (perm.mem_iff.mp member)
  rfl

/-! ### Built projects -/

/-- In every built project, views show the same names as messages, whatever their scope. The name of
a package below the root means this package exactly if its path has no dot. A name of the root that
has none means the package that has this very path, if there is one, and else the root. What a name
means it stands for everywhere. -/
theorem build_findPackage_iff {tree : FileTree} {searchPaths : List Path} {pythonVersion : Nat}
    {analyzer : Analyzer} (sound : tree.Sound) (used : Used tree searchPaths pythonVersion analyzer)
    {directory : Path} {place : FileTree.Place} (located : tree.locate? directory = some place) :
    ∃ project, (build tree directory analyzer).1 = some project ∧
      (∀ scope, project.HasPackage scope → ∀ spec,
        ∀ package ∈ (({ project with scope } : Project).view spec).packages,
          package.name = project.nodeName (.package package.origin)) ∧
      (∀ id, project.HasPackage id → id ≠ root →
        (project.findPackage (project.nodeName (.package id)) = .ok id ↔
          '.' ∉ (project.package id).relative.toList)) ∧
      (∀ name, project.nodeName (.package root) = name → '.' ∉ name.toList →
        (∀ other, project.HasPackage other → (project.package other).relative = name →
          project.findPackage name = .ok other) ∧
        ((∀ other, project.HasPackage other → (project.package other).relative ≠ name) →
          project.findPackage name = .ok root)) ∧
      ∀ name id, project.findPackage name = .ok id → project.StandsFor name id := by
  obtain ⟨project, built, builtAt⟩ := exists_builtAt sound used located
  have reachable := builtAt.filled.reachable
  have single : Reachable SingleName project := reachable.mono fun _ plain => plain.single
  refine ⟨project, built, ?views, ?below, ?root, fun _ _ => standsFor_of_findPackage⟩
  case views =>
    intro scope has_scope spec package member
    have moved := single.rescope has_scope
    exact moved.placed.view_names moved.wellFormed member
  case below =>
    intro id has below
    rw [nodeName_of_ne_root single has below]
    exact reachable.findPackage_dotted_iff builtAt.plain builtAt.rootDirectory_eq has
  case root =>
    intro name name_eq dotless
    rw [nodeName_root single] at name_eq
    have plain := reachable.plain_rootName builtAt.plain builtAt.rootDirectory_eq
    exact single.findPackage_rootName name_eq (name_eq ▸ plain) dotless

/-- The directory `shop` with one package in it. -/
def shopWith (name : String) : FileTree where
  root := .directory [("shop", .directory [
    (name, .directory [("__init__.py", .file (some ""))])])]
  here := []

theorem shopWith_api_names :
    ∃ project,
      (build (shopWith "api") ⟨"/shop"⟩ (Analyzer.new (shopWith "api") [] 12)).1 = some project ∧
      project.nodeName (.package ⟨1⟩) = "api" ∧ project.nodeName (.package root) = "shop" ∧
      project.StandsFor "api" ⟨1⟩ ∧ project.StandsFor "shop" root := by
  have sound : (shopWith "api").Sound := FileTree.sound_of_plainNames (by decide) (by decide)
  obtain ⟨place, located, -⟩ :
      ∃ place, (shopWith "api").locate? ⟨"/shop"⟩ = some place ∧ place.location = ["shop"] :=
    Option.map_eq_some_iff.mp (by decide +kernel)
  obtain ⟨project, built, -, below_iff, root_means, stands⟩ :=
    build_findPackage_iff sound (.new : Used _ [] 12 _) located
  obtain ⟨same, same_built, package_name, root_name, package_path, others⟩ :
      ∃ project,
        (build (shopWith "api") ⟨"/shop"⟩ (Analyzer.new (shopWith "api") [] 12)).1 =
          some project ∧
        project.nodeName (.package ⟨1⟩) = "api" ∧ project.nodeName (.package root) = "shop" ∧
        (project.HasPackage ⟨1⟩ ∧ (project.package ⟨1⟩).relative = "api") ∧
        ∀ package ∈ project.packages, package.relative ≠ "shop" :=
    ⟨_, rfl, by decide +kernel⟩
  cases built.symm.trans same_built
  have package_means := below_iff ⟨1⟩ package_path.1 (by decide)
  rw [package_name, package_path.2] at package_means
  refine ⟨project, built, package_name, root_name, stands _ _ (package_means.mpr (by decide)),
    stands _ _ ((root_means "shop" root_name (by decide)).2 fun other has => ?_)⟩
  exact others _ ((project.mem_packages_iff _).mpr ⟨other, has, rfl⟩)

/-- A package hides the root that is called like it, dots lead past a package with one in its name,
and anchors lose the stars of a name. -/
theorem shopWith_names_astray :
    (∃ project,
      (build (shopWith "shop") ⟨"/shop"⟩ (Analyzer.new (shopWith "shop") [] 12)).1 =
        some project ∧
      project.nodeName (.package root) = "shop" ∧ project.findPackage "shop" = .ok ⟨1⟩) ∧
    (∃ project,
      (build (shopWith "api.v1") ⟨"/shop"⟩ (Analyzer.new (shopWith "api.v1") [] 12)).1 =
        some project ∧
      project.nodeName (.package ⟨1⟩) = "api.v1" ∧
      project.findPackage "api.v1" = .error (.packageNotFound "api.v1")) ∧
    ∃ project,
      (build (shopWith "a*") ⟨"/shop"⟩ (Analyzer.new (shopWith "a*") [] 12)).1 = some project ∧
      project.nodeName (.package ⟨1⟩) = "a*" ∧ project.findPackage "a*" = .ok ⟨1⟩ ∧
      project.anchor? "a*" = none :=
  ⟨⟨_, rfl, by decide +kernel⟩, ⟨_, rfl, by decide +kernel⟩, ⟨_, rfl, by decide +kernel⟩⟩

end Project

end PackageAtlas
