import PackageAtlas.Proofs.Analyzer.Relocation
import PackageAtlas.Proofs.Project.Outline
import PackageAtlas.Proofs.Python.ImportNames

/-!
# Projects that differ in where they lie

Adding the same packages and files to two projects, each below a directory of its own, gives
projects that are the same but for their paths. Whether a path is there already is decided alike in
both, since the two directories take one location to one path each.
-/
namespace PackageAtlas

/-- A package without its path. The root is called as its directory, and has no name then. -/
def Package.placeless (package : Package) : Package :=
  { package with
    path := ⟨""⟩
    name := if package.parent.isNone then "" else package.name }

def SourceFile.placeless (file : SourceFile) : SourceFile :=
  { file with
    path := ⟨""⟩
    module := file.module.map fun module => { module with path := ⟨""⟩ } }

namespace Project

/-- A project without the directory that it lies in. -/
def placeless (project : Project) : Project :=
  { project with
    packages := project.packages.map Package.placeless
    files := project.files.map SourceFile.placeless }

end Project

/-! ### Packages and files -/

/-- Whether two packages are the same but for lying below one and the other directory. -/
structure Package.Relocated (first second : Location) (a b : Package) : Prop where
  path : FileTree.Relocated first second a.path b.path
  placeless : a.placeless = b.placeless

/-- Whether two files are the same but for lying below one and the other directory. -/
structure SourceFile.Relocated (first second : Location) (a b : SourceFile) : Prop where
  path : ∃ around : Location, Location.Plain (around ++ [a.label]) ∧
    a.path = Location.path (first ++ (around ++ [a.label])) ∧
    b.path = Location.path (second ++ (around ++ [a.label]))
  placeless : a.placeless = b.placeless

theorem SourceFile.Relocated.to_path {first second : Location} {a b : SourceFile}
    (same : SourceFile.Relocated first second a b) :
    FileTree.Relocated first second a.path b.path := by
  obtain ⟨around, plain, path_first, path_second⟩ := same.path
  exact ⟨_, plain, path_first, path_second⟩

/-- Whether a file is found in two packages alike. -/
structure FoundFile.Relocated (a b : FoundFile) : Prop where
  package : a.package = b.package
  name : a.name = b.name
  module : (a.module.map fun module => { module with path := ⟨""⟩ }) =
    b.module.map fun module => { module with path := ⟨""⟩ }

namespace Project

/-- Whether two projects are the same but for lying below one and the other directory. -/
structure Relocated (first second : Location) (p q : Project) : Prop where
  packages : List.Forall₂ (Package.Relocated first second) p.packages q.packages
  files : List.Forall₂ (SourceFile.Relocated first second) p.files q.files
  edges : p.edges = q.edges
  scope : p.scope = q.scope
  policies : p.policies = q.policies

variable {first second : Location} {p q : Project}

theorem Relocated.placeless_eq (relocated : Relocated first second p q) :
    p.placeless = q.placeless := by
  have packages : p.packages.map Package.placeless = q.packages.map Package.placeless := by
    rw [← List.forall₂_eq_eq_eq, List.forall₂_map_left_iff, List.forall₂_map_right_iff]
    exact relocated.packages.imp fun _ _ same => same.placeless
  have files : p.files.map SourceFile.placeless = q.files.map SourceFile.placeless := by
    rw [← List.forall₂_eq_eq_eq, List.forall₂_map_left_iff, List.forall₂_map_right_iff]
    exact relocated.files.imp fun _ _ same => same.placeless
  rw [placeless, placeless, packages, files, relocated.edges, relocated.scope, relocated.policies]

theorem Relocated.hasPackage (relocated : Relocated first second p q) {id : PackageId}
    (has : p.HasPackage id) : q.HasPackage id := by
  unfold HasPackage at has ⊢
  rwa [← relocated.packages.length_eq]

theorem Relocated.package (relocated : Relocated first second p q) {id : PackageId}
    (has : p.HasPackage id) : Package.Relocated first second (p.package id) (q.package id) := by
  have related := rel_getElem? relocated.packages id.index
  have has_second : id.index < q.packages.length := relocated.hasPackage has
  rw [List.getElem?_eq_getElem has, List.getElem?_eq_getElem has_second] at related
  rw [Project.package, Project.package, List.getElem?_eq_getElem has,
    List.getElem?_eq_getElem has_second]
  cases related with
  | some same => exact same

/-! ### Lookup by paths -/

/-- Two paths are the same exactly if they are in the other directory. -/
theorem same_relocated_iff (plain_first : first.Plain) (plain_second : second.Plain)
    {a b c d : Path} (one : FileTree.Relocated first second a b)
    (other : FileTree.Relocated first second c d) : a.Same c ↔ b.Same d := by
  obtain ⟨inner, plain, rfl, rfl⟩ := one
  obtain ⟨place, place_plain, rfl, rfl⟩ := other
  have same_iff {around : Location} (around_plain : around.Plain) :
      (Location.path (around ++ inner)).Same (Location.path (around ++ place)) ↔
        inner = place := by
    constructor
    · intro same
      have equal := Location.eq_of_same (Location.plain_append.mpr ⟨around_plain, plain⟩)
        (Location.plain_append.mpr ⟨around_plain, place_plain⟩) same
      exact List.append_cancel_left equal
    · rintro rfl
      rfl
  rw [same_iff plain_first, same_iff plain_second]

theorem Relocated.packageAt?_eq (relocated : Relocated first second p q)
    (plain_first : first.Plain) (plain_second : second.Plain) {a b : Path}
    (paths : FileTree.Relocated first second a b) : p.packageAt? a = q.packageAt? b := by
  have alike : ∀ m n, Package.Relocated first second m n →
      decide (m.path.Same a) = decide (n.path.Same b) := by
    intro m n same
    exact decide_eq_decide.mpr (same_relocated_iff plain_first plain_second same.path paths)
  rw [packageAt?, packageAt?]
  refine map_eq_of_rel ?_ (rel_find? alike relocated.packages)
  intro m n same
  exact (congrArg Package.id same.placeless :)

theorem Relocated.fileAt?_eq (relocated : Relocated first second p q)
    (plain_first : first.Plain) (plain_second : second.Plain) {a b : Path}
    (paths : FileTree.Relocated first second a b) : p.fileAt? a = q.fileAt? b := by
  have alike : ∀ m n, SourceFile.Relocated first second m n →
      decide (m.path.Same a) = decide (n.path.Same b) := by
    intro m n same
    exact decide_eq_decide.mpr (same_relocated_iff plain_first plain_second same.to_path paths)
  rw [fileAt?, fileAt?]
  refine map_eq_of_rel ?_ (rel_find? alike relocated.files)
  intro m n same
  exact (congrArg SourceFile.id same.placeless :)

/-! ### Growing in step -/

theorem relocated_new {inner : Location} (plain : inner.Plain) :
    Relocated first second (new (Location.path (first ++ inner)))
      (new (Location.path (second ++ inner))) where
  packages := .cons ⟨⟨inner, plain, rfl, rfl⟩, rfl⟩ .nil
  files := .nil
  edges := rfl
  scope := rfl
  policies := rfl

/-- A package that is called by a plain name is entered at one place in both projects. -/
theorem Relocated.path_child (relocated : Relocated first second p q)
    (plain_first : first.Plain) (plain_second : second.Plain) {id : PackageId}
    (has : p.HasPackage id) {name : String} (plain : PlainName name) :
    ∃ around : Location, Location.Plain (around ++ [name]) ∧
      (p.package id).path.child name = Location.path (first ++ (around ++ [name])) ∧
      (q.package id).path.child name = Location.path (second ++ (around ++ [name])) := by
  obtain ⟨around, around_plain, path_first, path_second⟩ := (relocated.package has).path
  refine ⟨around, Location.plain_concat.mpr ⟨around_plain, plain⟩, ?_, ?_⟩
  · rw [path_first, FileTree.child_path_append plain_first around_plain plain]
  · rw [path_second, FileTree.child_path_append plain_second around_plain plain]

theorem Relocated.addPackage (relocated : Relocated first second p q) (plain_first : first.Plain)
    (plain_second : second.Plain) {parent : PackageId} (has : p.HasPackage parent) {name : String}
    (plain : PlainName name) :
    Relocated first second (p.addPackage parent name).2 (q.addPackage parent name).2 := by
  obtain ⟨around, inner_plain, child_first, child_second⟩ :=
    relocated.path_child plain_first plain_second has plain
  have child_related : FileTree.Relocated first second ((p.package parent).path.child name)
      ((q.package parent).path.child name) := ⟨_, inner_plain, child_first, child_second⟩
  have same_lookup := relocated.packageAt?_eq plain_first plain_second child_related
  have above := (relocated.package has).placeless
  have same_next : p.nextPackage = q.nextPackage :=
    congrArg PackageId.mk relocated.packages.length_eq
  -- Either both projects have the path already, or neither has it.
  rcases p.addPackage_cases parent name with ⟨_, known, added⟩ | ⟨unknown, added⟩ <;>
    rcases q.addPackage_cases parent name with ⟨_, known_too, added_too⟩ | ⟨unknown_too, added_too⟩
  · rw [added, added_too]
    exact relocated
  · rw [same_lookup, unknown_too] at known
    cases known
  · rw [same_lookup, known_too] at unknown
    cases unknown
  · rw [added, added_too]
    have relative : (p.package parent).relative = (q.package parent).relative :=
      (congrArg Package.relative above :)
    have depth : (p.package parent).depth = (q.package parent).depth :=
      (congrArg Package.depth above :)
    have fresh : Package.Relocated first second (p.freshPackage parent name)
        (q.freshPackage parent name) := by
      refine ⟨child_related, ?_⟩
      unfold Package.placeless freshPackage
      rw [same_next, relative, depth]
    have linked := rel_modify (R := Package.Relocated first second)
      (f := fun package => { package with children := package.children ++ [p.nextPackage] })
      (g := fun package => { package with children := package.children ++ [q.nextPackage] })
      (fun m n same => ⟨same.path, by
        rw [same_next]
        exact congrArg (fun package : Package =>
          { package with children := package.children ++ [q.nextPackage] }) same.placeless⟩)
      relocated.packages parent.index
    exact { relocated with packages := List.rel_append linked (.cons fresh .nil) }

theorem Relocated.addFound (relocated : Relocated first second p q) (plain_first : first.Plain)
    (plain_second : second.Plain) {a b : FoundFile} (alike : FoundFile.Relocated a b)
    (has : p.HasPackage a.package) (plain : PlainName a.name) :
    Relocated first second (p.addFound a) (q.addFound b) := by
  obtain ⟨owner, name, module⟩ := a
  obtain ⟨owner_too, name_too, module_too⟩ := b
  obtain ⟨rfl, rfl, modules⟩ := alike
  obtain ⟨around, inner_plain, child_first, child_second⟩ :=
    relocated.path_child plain_first plain_second has plain
  have child_related : FileTree.Relocated first second ((p.package owner).path.child name)
      ((q.package owner).path.child name) := ⟨_, inner_plain, child_first, child_second⟩
  have same_lookup := relocated.fileAt?_eq plain_first plain_second child_related
  have above := (relocated.package has).placeless
  have same_next : p.nextFile = q.nextFile := congrArg FileId.mk relocated.files.length_eq
  rw [Project.addFound, Project.addFound]
  dsimp only at modules ⊢
  rcases p.addFile_cases owner name module with ⟨_, known, added⟩ | ⟨unknown, added⟩ <;>
    rcases q.addFile_cases owner name module_too with
      ⟨_, known_too, added_too⟩ | ⟨unknown_too, added_too⟩
  · rw [added, added_too]
    exact relocated
  · rw [same_lookup, unknown_too] at known
    cases known
  · rw [same_lookup, known_too] at unknown
    cases unknown
  · rw [added, added_too]
    have relative : (p.package owner).relative = (q.package owner).relative :=
      (congrArg Package.relative above :)
    have fresh : SourceFile.Relocated first second (p.freshFile owner name module)
        (q.freshFile owner name module_too) := by
      refine ⟨⟨around, inner_plain, child_first, child_second⟩, ?_⟩
      unfold SourceFile.placeless freshFile
      dsimp only
      rw [same_next, relative, modules]
    have linked := rel_modify (R := Package.Relocated first second)
      (f := fun package => { package with files := package.files ++ [p.nextFile] })
      (g := fun package => { package with files := package.files ++ [q.nextFile] })
      (fun m n same => ⟨same.path, by
        rw [same_next]
        exact congrArg (fun package : Package =>
          { package with files := package.files ++ [q.nextFile] }) same.placeless⟩)
      relocated.packages owner.index
    exact { relocated with
      packages := linked
      files := List.rel_append relocated.files (.cons fresh .nil) }

theorem Relocated.addPackageAt (relocated : Relocated first second p q) (packages : PackageTree p)
    (plain_first : first.Plain) (plain_second : second.Plain) {way : Location}
    (nonempty : way ≠ []) (plain : way.Plain) :
    Relocated first second (p.addPackageAt (first ++ way)) (q.addPackageAt (second ++ way)) := by
  obtain ⟨before, name, rfl⟩ := (List.eq_nil_or_concat' way).resolve_left nonempty
  obtain ⟨before_plain, name_plain⟩ := Location.plain_concat.mp plain
  have same_parent := relocated.packageAt?_eq plain_first plain_second
    ⟨before, before_plain, rfl, rfl⟩
  unfold Project.addPackageAt
  rw [← List.append_assoc, ← List.append_assoc, List.dropLast_concat, List.dropLast_concat,
    List.getLast?_concat, List.getLast?_concat, ← same_parent]
  cases known : p.packageAt? (Location.path (first ++ before)) with
  | none => exact relocated
  | some parent =>
    have has := ((packageAt?_eq_some_iff packages).mp known).1
    exact relocated.addPackage plain_first plain_second has name_plain

theorem Reachable.addPackageAt {project : Project} (reachable : Reachable PlainName project)
    {location : Location} (plain : location.Plain) :
    Reachable PlainName (project.addPackageAt location) := by
  unfold Project.addPackageAt
  split
  next parent name known last =>
    have has := ((packageAt?_eq_some_iff reachable.wellFormed.tree).mp known).1
    exact .addPackage reachable has (plain name (List.mem_of_getLast? last))
  next => exact reachable

theorem Relocated.foldl_addPackageAt (relocated : Relocated first second p q)
    (reachable : Reachable PlainName p) (plain_first : first.Plain) (plain_second : second.Plain)
    {ways : List Location} (clean : ∀ way ∈ ways, way ≠ [] ∧ way.Plain) :
    Relocated first second ((ways.map (first ++ ·)).foldl Project.addPackageAt p)
      ((ways.map (second ++ ·)).foldl Project.addPackageAt q) := by
  induction ways generalizing p q with
  | nil => exact relocated
  | cons way rest ih =>
    obtain ⟨⟨nonempty, plain⟩, rest_clean⟩ := List.forall_mem_cons.mp clean
    have step := relocated.addPackageAt reachable.wellFormed.tree plain_first plain_second
      nonempty plain
    exact ih step (reachable.addPackageAt (Location.plain_append.mpr ⟨plain_first, plain⟩))
      rest_clean

theorem Relocated.foldl_addFound (relocated : Relocated first second p q)
    (plain_first : first.Plain) (plain_second : second.Plain) {found others : List FoundFile}
    (alike : List.Forall₂ FoundFile.Relocated found others)
    (inside : ∀ new ∈ found, p.HasPackage new.package ∧ PlainName new.name) :
    Relocated first second (found.foldl Project.addFound p) (others.foldl Project.addFound q) := by
  induction alike generalizing p q with
  | nil => exact relocated
  | @cons new other _ _ here _ ih =>
    obtain ⟨⟨has, plain⟩, rest_inside⟩ := List.forall_mem_cons.mp inside
    refine ih (relocated.addFound plain_first plain_second here has plain) ?_
    intro later member
    obtain ⟨has_later, plain_later⟩ := rest_inside later member
    refine ⟨?_, plain_later⟩
    rw [Project.addFound]
    rcases p.addFile_cases new.package new.name new.module with ⟨_, -, added⟩ | ⟨-, added⟩
    · rwa [added]
    · rw [added]
      exact (p.hasPackage_withFile _ _ _ _).mpr has_later

/-! ### Packages and files of two copies -/

variable {tree : FileTree} {inner : Location} {origin other : Analyzer}

theorem relocated_ofDirectory (copies : tree.Copies first second) (sound : tree.Sound)
    (plain : inner.Plain) :
    Relocated first second (ofDirectory tree (first ++ inner))
      (ofDirectory tree (second ++ inner)) := by
  obtain ⟨ways, clean, in_first, in_second⟩ := copies.markedDirectories sound inner
  rw [ofDirectory, ofDirectory, in_first, in_second]
  exact (relocated_new plain).foldl_addPackageAt (.new _) (copies.plain_first sound)
    (copies.plain_second sound) clean

theorem Relocated.fileCandidates_eq (relocated : Relocated first second p q)
    (copies : tree.Copies first second) (sound : tree.Sound) :
    p.fileCandidates tree = q.fileCandidates tree := by
  refine flatMap_eq_of_rel ?_ relocated.packages
  intro a b same
  obtain ⟨around, plain, path_a, path_b⟩ := same.path
  have number : a.id = b.id := (congrArg Package.id same.placeless :)
  have shape := copies.shapes around
  have names := copies.fileNames_eq around
  rw [path_a, path_b, copies.locate?_first sound plain, copies.locate?_second sound plain, number]
  cases at_first : tree.node? (first ++ around) <;>
    cases at_second : tree.node? (second ++ around) <;> rw [at_first, at_second] at shape
  · rfl
  · cases shape
  · cases shape
  · rw [Option.map_some, Option.map_some]
    dsimp only
    rw [names]

theorem Relocated.foundFile? (relocated : Relocated first second p q)
    (copies : tree.Copies first second) (sound : tree.Sound) {id : PackageId}
    (has : p.HasPackage id) {name : String} (plain : PlainName name) :
    Option.Rel FoundFile.Relocated (p.foundFile? tree id name) (q.foundFile? tree id name) := by
  have plain_first := copies.plain_first sound
  have plain_second := copies.plain_second sound
  obtain ⟨around, inner_plain, child_first, child_second⟩ :=
    relocated.path_child plain_first plain_second has plain
  have all_first := Location.plain_append.mpr ⟨plain_first, inner_plain⟩
  have all_second := Location.plain_append.mpr ⟨plain_second, inner_plain⟩
  have same_extension : (Location.path (first ++ (around ++ [name]))).extension? =
      (Location.path (second ++ (around ++ [name]))).extension? := by
    simp only [← List.append_assoc] at all_first all_second ⊢
    rw [Path.extension?, Path.extension?, Location.fileName?_path all_first,
      Location.fileName?_path all_second]
  have same_module := copies.imports_readModule sound inner_plain
  unfold Project.foundFile?
  dsimp only
  rw [child_first, child_second, same_extension]
  generalize Analyzer.readModule tree (Location.path (first ++ (around ++ [name]))) = read
    at same_module
  generalize Analyzer.readModule tree (Location.path (second ++ (around ++ [name]))) = reread
    at same_module
  split
  next =>
    cases read <;> cases reread
    · exact .none
    · cases same_module
    · cases same_module
    · refine .some ⟨rfl, rfl, ?_⟩
      have same_imports := Option.some.inj same_module
      simpa using same_imports
  next => exact .some ⟨rfl, rfl, rfl⟩

theorem relocated_filesOfDirectory (copies : tree.Copies first second) (sound : tree.Sound)
    {node : FileTree.Node} (found : tree.node? (first ++ inner) = some node) :
    Relocated first second (filesOfDirectory tree (first ++ inner))
      (filesOfDirectory tree (second ++ inner)) := by
  have plain := (Location.plain_append.mp (sound.plain found)).2
  have relocated := relocated_ofDirectory copies sound plain
  have located : tree.locate? (Location.path (first ++ inner)) = some ⟨first ++ inner, node⟩ := by
    rw [copies.locate?_first sound plain, found, Option.map_some]
  have at_places := packagesAt_ofDirectory sound located
  have candidates : ∀ candidate ∈ (ofDirectory tree (first ++ inner)).fileCandidates tree,
      (ofDirectory tree (first ++ inner)).HasPackage candidate.1 ∧ PlainName candidate.2 := by
    rintro ⟨id, name⟩ member
    obtain ⟨place, here, named⟩ := at_places.mem_fileCandidates_iff.mp member
    obtain ⟨⟨text, at_file⟩, -⟩ := FileTree.mem_fileNames_iff.mp named
    exact ⟨(at_places.exists_package here).1, (Location.plain_concat.mp (sound.plain at_file)).2⟩
  have files : List.Forall₂ FoundFile.Relocated
      ((ofDirectory tree (first ++ inner)).foundFiles tree)
      ((ofDirectory tree (second ++ inner)).foundFiles tree) := by
    rw [foundFiles, foundFiles, ← relocated.fileCandidates_eq copies sound]
    refine rel_filterMap_self ?_
    rintro ⟨id, name⟩ member
    obtain ⟨has, name_plain⟩ := candidates _ member
    exact relocated.foundFile? copies sound has name_plain
  refine relocated.foldl_addFound (copies.plain_first sound) (copies.plain_second sound) files ?_
  intro new member
  obtain ⟨⟨id, name⟩, among, kept⟩ := List.mem_filterMap.mp member
  obtain ⟨rfl, rfl⟩ := Prod.mk.inj (key_of_foundFile? kept).symm
  exact candidates _ among

/-! ### Dependencies -/

/-- What the imports of one file lead to stands below one and the other directory. -/
theorem relocated_leads {a b : SourceFile} (same : SourceFile.Relocated first second a b)
    (copies : tree.Copies first second) (sound : tree.Sound)
    (analyzers : Analyzer.Relocated first second origin other)
    (slashless : ∀ module, a.module = some module →
      ∀ imported ∈ module.imports, imported.Slashless) :
    List.Forall₂ (FileTree.Relocated first second) (leads origin tree a)
      (leads other tree b) := by
  obtain ⟨⟨around, plain, path_a, path_b⟩, placeless⟩ := same
  have plain_around := (Location.plain_concat.mp plain).1
  have all_first := Location.plain_append.mpr ⟨copies.plain_first sound, plain⟩
  have all_second := Location.plain_append.mpr ⟨copies.plain_second sound, plain⟩
  have modules := congrArg SourceFile.module placeless
  rw [SourceFile.placeless, SourceFile.placeless] at modules
  dsimp only at modules
  rw [← List.append_assoc] at path_a path_b all_first all_second
  unfold Project.leads
  rw [path_a, path_b, Location.parent?_path all_first, Location.parent?_path all_second]
  cases in_first : a.module <;> cases in_second : b.module <;> rw [in_first, in_second] at modules
  case none.none => exact .nil
  case none.some => cases modules
  case some.none => cases modules
  case some.some module module_too =>
    have imports : module.imports = module_too.imports := by simpa using modules
    dsimp only
    have candidates : (module_too.imports.flatMap
        (·.candidates tree (Location.path (second ++ around)))) =
          module.imports.flatMap (·.candidates tree (Location.path (first ++ around))) := by
      rw [imports]
      exact List.flatMap_congr fun imported _ =>
        (copies.candidates_eq sound plain_around imported).symm
    have context_plain := (Location.plain_concat.mp all_first).1
    rw [candidates]
    refine rel_filterMap_self fun names tried => rel_findSome?_self fun name member => ?_
    obtain ⟨imported, among, candidate⟩ := List.mem_flatMap.mp tried
    have clean := slashless module in_first imported among
    exact analyzers.search copies sound plain_around
      (clean.candidates context_plain candidate member)

theorem Relocated.file (relocated : Relocated first second p q) {id : FileId}
    (has : p.HasFile id) : SourceFile.Relocated first second (p.file id) (q.file id) := by
  have related := rel_getElem? relocated.files id.index
  have has_second : id.index < q.files.length := relocated.files.length_eq ▸ has
  rw [List.getElem?_eq_getElem has, List.getElem?_eq_getElem has_second] at related
  rw [Project.file, Project.file, List.getElem?_eq_getElem has,
    List.getElem?_eq_getElem has_second]
  cases related with
  | some same => exact same

/-- Where the same imports lead to the same places, the same files are reached. -/
theorem Relocated.importedFiles_eq (relocated : Relocated first second p q)
    (copies : tree.Copies first second) (sound : tree.Sound)
    (analyzers : Analyzer.Relocated first second origin other) {id : FileId} (has : p.HasFile id)
    (own_module : p.HasOwnModule tree id) :
    p.importedFiles origin tree id = q.importedFiles other tree id := by
  have slashless : ∀ module, (p.file id).module = some module →
      ∀ imported ∈ module.imports, imported.Slashless := by
    intro module has_module imported member
    unfold HasOwnModule at own_module
    split at own_module
    next =>
      obtain ⟨text, imports, -, parsed, same⟩ := own_module
      rw [has_module, Option.some.injEq] at same
      subst same
      exact Python.slashless_of_imports? parsed member
    next =>
      rw [has_module] at own_module
      cases own_module
  have leads := relocated_leads (relocated.file has) copies sound analyzers slashless
  rw [Project.importedFiles_eq, Project.importedFiles_eq]
  congr 1
  exact filterMap_eq_of_rel (fun a b places => relocated.fileAt?_eq (copies.plain_first sound)
    (copies.plain_second sound) places) leads

/-- Without their dependencies, projects with the same imports differ no more than with them. -/
theorem Relocated.of_imports
    (bare : Relocated first second { p with edges := [] } { q with edges := [] })
    (copies : tree.Copies first second) (sound : tree.Sound)
    (analyzers : Analyzer.Relocated first second origin other) (lists : FileLists p)
    (own_modules : ∀ id, p.HasFile id → p.HasOwnModule tree id)
    (edges_first : p.edges = (p.files.map (·.id)).flatMap fun file =>
      (p.importedFiles origin tree file).eraseDups.map fun target => (file, target))
    (edges_second : q.edges = (q.files.map (·.id)).flatMap fun file =>
      (q.importedFiles other tree file).eraseDups.map fun target => (file, target)) :
    Relocated first second p q := by
  have same_imports {id : FileId} (has : p.HasFile id) :
      p.importedFiles origin tree id = q.importedFiles other tree id :=
    bare.importedFiles_eq copies sound analyzers has (own_modules id has)
  have same_ids : p.files.map (·.id) = q.files.map (·.id) := by
    rw [← List.forall₂_eq_eq_eq, List.forall₂_map_left_iff, List.forall₂_map_right_iff]
    exact bare.files.imp fun _ _ (same : SourceFile.Relocated first second _ _) =>
      (congrArg SourceFile.id same.placeless :)
  refine { bare with edges := ?_ }
  rw [edges_first, edges_second, ← same_ids]
  refine List.flatMap_congr fun id member => ?_
  obtain ⟨file, among, rfl⟩ := List.mem_map.mp member
  obtain ⟨id, has, rfl⟩ := (mem_files_iff p file).mp among
  rw [lists.number has, same_imports has]

theorem bare_uncached (origin : Analyzer) (tree : FileTree) (top : Location) :
    { uncached origin tree top with edges := [] } =
      { filesOfDirectory tree top with edges := [] } := by
  have added (project : Project) (edges : List (FileId × FileId)) :
      { project.addDependencies edges with edges := [] } = { project with edges := [] } := by
    induction edges generalizing project with
    | nil => rfl
    | cons edge rest ih =>
      refine (ih (project.addDependency edge.1 edge.2)).trans ?_
      unfold Project.addDependency
      split <;> rfl
  rw [uncached, withTargets_eq]
  exact added _ _

/-- Projects that are built in copies of a directory, in a directory at one place below each, are
the same but for where they lie. -/
theorem relocated_uncached (copies : tree.Copies first second) (sound : tree.Sound)
    (analyzers : Analyzer.Relocated first second origin other) {node : FileTree.Node}
    (found : tree.node? (first ++ inner) = some node) :
    Relocated first second (uncached origin tree (first ++ inner))
      (uncached other tree (second ++ inner)) := by
  have plain := (Location.plain_append.mp (sound.plain found)).2
  obtain ⟨node_too, found_too⟩ : ∃ node, tree.node? (second ++ inner) = some node := by
    have same := copies.shapes inner
    rw [found, Option.map_some] at same
    obtain ⟨node, there, -⟩ := Option.map_eq_some_iff.mp same.symm
    exact ⟨node, there⟩
  have located : tree.locate? (Location.path (first ++ inner)) = some ⟨first ++ inner, node⟩ := by
    rw [copies.locate?_first sound plain, found, Option.map_some]
  have located_too : tree.locate? (Location.path (second ++ inner)) =
      some ⟨second ++ inner, node_too⟩ := by
    rw [copies.locate?_second sound plain, found_too, Option.map_some]
  have at_places := packagesAt_ofDirectory sound located
  have filled := @filled_uncached origin _ _ _ sound located
  have files := relocated_filesOfDirectory copies sound found
  have bare : Relocated first second
      { uncached origin tree (first ++ inner) with edges := [] }
      { uncached other tree (second ++ inner) with edges := [] } := by
    rw [bare_uncached, bare_uncached]
    exact { files with edges := rfl }
  have edges_first := edges_uncached origin sound located
  have edges_second := edges_uncached other sound located_too
  dsimp only at filled edges_first edges_second
  exact Relocated.of_imports (p := uncached origin tree (first ++ inner))
    (q := uncached other tree (second ++ inner)) bare copies sound analyzers
    filled.reachable.wellFormed.files (fun _ has => filled.hasOwnModule at_places sound has)
    edges_first edges_second

end Project

end PackageAtlas
