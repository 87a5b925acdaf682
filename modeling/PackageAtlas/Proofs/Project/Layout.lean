import PackageAtlas.Proofs.ByteOrder
import PackageAtlas.Proofs.Project.Scheduling

/-!
# The layout of a built project

A project is laid out as its directory is: its packages are the directories that are reached through
marked directories alone, numbered level by level, and each holds the files of its directory.
-/
namespace PackageAtlas

/-! ### The order of packages -/

/-- Names level by level, and those of one level in the order of their bytes. -/
def LevelOrder (first second : List String) : Prop :=
  first.length < second.length ∨
    first.length = second.length ∧ first.map Text.bytes < second.map Text.bytes

theorem map_bytes_lt {first second : List String} (less : first < second) :
    first.map Text.bytes < second.map Text.bytes := by
  induction second generalizing first with
  | nil => exact absurd less (List.not_lt_nil first)
  | cons b others ih =>
    cases first with
    | nil => exact List.nil_lt_cons _ _
    | cons a rest =>
      rw [List.map_cons, List.map_cons, List.cons_lt_cons_iff]
      rcases List.cons_lt_cons_iff.mp less with smaller | ⟨rfl, later⟩
      · exact Or.inl (Text.bytes_lt_bytes smaller)
      · exact Or.inr ⟨rfl, ih later⟩

theorem lt_of_append_left_lt {top first second : List String}
    (less : top ++ first < top ++ second) : first < second := by
  induction top with
  | nil => exact less
  | cons name rest ih =>
    rcases List.cons_lt_cons_iff.mp less with smaller | ⟨-, later⟩
    · exact absurd smaller (String.lt_irrefl name)
    · exact ih later

theorem FileTree.Outward.levelOrder {top first second : List String}
    (outward : FileTree.Outward (top ++ first) (top ++ second)) : LevelOrder first second := by
  rcases outward with shorter | ⟨equal, less⟩
  · rw [List.length_append, List.length_append] at shorter
    exact Or.inl (Nat.lt_of_add_lt_add_left shorter)
  · rw [List.length_append, List.length_append] at equal
    exact Or.inr ⟨Nat.add_left_cancel equal, map_bytes_lt (lt_of_append_left_lt less)⟩

/-- Of two entries of one directory, the order is that of the bytes of their own names. -/
theorem LevelOrder.bytes_lt {names : List String} {first second : String}
    (order : LevelOrder (names ++ [first]) (names ++ [second])) :
    Text.bytes first < Text.bytes second := by
  rcases order with shorter | ⟨-, less⟩
  · rw [List.length_append, List.length_append] at shorter
    exact absurd shorter (Nat.lt_irrefl _)
  · induction names with
    | nil =>
      rcases List.cons_lt_cons_iff.mp less with smaller | ⟨-, none_left⟩
      · exact smaller
      · exact absurd none_left (List.not_lt_nil _)
    | cons name rest ih =>
      rcases List.cons_lt_cons_iff.mp less with smaller | ⟨-, later⟩
      · exact absurd smaller (List.lt_irrefl _)
      · exact ih later

/-- The directory itself stays the first of all places. -/
theorem FileTree.head_packagePlaces (tree : FileTree) (top : Location) :
    (tree.packagePlaces top)[0]? = some top := by
  have kept (directories places : List Location) (first : places[0]? = some top) :
      (directories.foldl FileTree.link places)[0]? = some top := by
    induction directories generalizing places with
    | nil => exact first
    | cons directory rest ih =>
      refine ih _ ?_
      unfold FileTree.link
      split
      next =>
        obtain ⟨bound, -⟩ := List.getElem?_eq_some_iff.mp first
        rw [List.getElem?_append_left bound]
        exact first
      next => exact first
  exact kept _ _ rfl

namespace Project

/-- Whether a project is laid out as a directory of a file tree, where its packages have the given
names below the directory, in the order of their numbers. -/
structure LaidOut (project : Project) (tree : FileTree) (top : Location)
    (ways : List (List String)) : Prop where
  exactly {names : List String} : names ∈ ways ↔ tree.PackageBelow top names
  level_order : ways.Pairwise LevelOrder
  paths : project.packages.map (·.path) = ways.map fun names => Location.path (top ++ names)
  root_parent : ways[root.index]? = some [] ∧ (project.package root).parent = none
  parent {id : PackageId} {names : List String} {name : String} :
    ways[id.index]? = some (names ++ [name]) →
      (project.package id).name = name ∧
        ∃ parent, (project.package id).parent = some parent ∧ ways[parent.index]? = some names
  mem_children_iff {id : PackageId} {names : List String} : ways[id.index]? = some names →
    ∀ child, child ∈ (project.package id).children ↔
      ∃ name, ways[child.index]? = some (names ++ [name])
  children_order {id : PackageId} {names : List String} : ways[id.index]? = some names →
    ((project.package id).children.map fun child =>
      Text.bytes (project.package child).name).Pairwise (· < ·)
  file_paths {id : PackageId} {names : List String} : ways[id.index]? = some names →
    ∀ file ∈ (project.package id).files,
      (project.file file).path = Location.path (top ++ names ++ [(project.file file).label])
  mem_labels_iff {id : PackageId} {names : List String} : ways[id.index]? = some names →
    ∀ name, (∃ file ∈ (project.package id).files, (project.file file).label = name) ↔
      (∃ text, tree.node? (top ++ names ++ [name]) = some (.file text)) ∧
        FileTree.isHidden name = false ∧ tree.Keeps (top ++ names ++ [name])
  files_order {id : PackageId} {names : List String} : ways[id.index]? = some names →
    ((project.package id).files.map fun file =>
      Text.bytes (project.file file).label).Pairwise (· < ·)

variable {tree : FileTree} {project packages : Project} {top : Location}
  {ways : List (List String)}

/-! ### Packages -/

theorem place_of_way (top : Location) {index : Nat} {names : List String}
    (here : ways[index]? = some names) :
    (ways.map (top ++ ·))[index]? = some (top ++ names) := by
  rw [List.getElem?_map, here]
  rfl

theorem exists_way {index : Nat} {place : Location}
    (here : (ways.map (top ++ ·))[index]? = some place) :
    ∃ names, ways[index]? = some names ∧ top ++ names = place := by
  rwa [List.getElem?_map, Option.map_eq_some_iff] at here

/-- A package lies in the directory of its parent. -/
theorem PackagesAt.way_of_parent (at_places : PackagesAt tree project (ways.map (top ++ ·)))
    {id parent : PackageId} (has : project.HasPackage id)
    (linked : (project.package id).parent = some parent) :
    ∃ names, ways[parent.index]? = some names ∧
      ways[id.index]? = some (names ++ [(project.package id).name]) := by
  have above := at_places.reachable.wellFormed.tree.has_parent has linked
  have name_plain := at_places.reachable.entries.package_name has linked
  obtain ⟨around, here, -⟩ := at_places.place above
  obtain ⟨place, there, path_eq⟩ := at_places.place has
  rw [at_places.reachable.entries.package_path has linked,
    at_places.child_path here name_plain] at path_eq
  have around_plain := at_places.plain (List.mem_of_getElem? here)
  have cut := Location.eq_of_same
    (Location.plain_concat.mpr ⟨around_plain, name_plain⟩)
    (at_places.plain (List.mem_of_getElem? there)) (congrArg Path.components path_eq)
  obtain ⟨names, at_parent, rfl⟩ := exists_way here
  obtain ⟨inner, at_id, rfl⟩ := exists_way there
  rw [List.append_assoc] at cut
  exact ⟨names, at_parent, List.append_cancel_left cut ▸ at_id⟩

theorem PackagesAt.parent_of_way (at_places : PackagesAt tree project (ways.map (top ++ ·)))
    (first : ways[root.index]? = some []) {id : PackageId} {names : List String} {name : String}
    (here : ways[id.index]? = some (names ++ [name])) :
    (project.package id).name = name ∧
      ∃ parent, (project.package id).parent = some parent ∧
        ways[parent.index]? = some names := by
  obtain ⟨has, -⟩ := at_places.exists_package (place_of_way top here)
  have not_root : id ≠ root := by
    rintro rfl
    rw [first] at here
    simp at here
  cases linked : (project.package id).parent with
  | none =>
    exact absurd ((at_places.reachable.wellFormed.tree.parent_eq_none_iff has).mp linked) not_root
  | some parent =>
    obtain ⟨around, at_parent, at_id⟩ := at_places.way_of_parent has linked
    rw [here, Option.some.injEq] at at_id
    obtain ⟨rfl, last⟩ := List.append_inj' at_id rfl
    exact ⟨(List.cons.inj last).1.symm, parent, rfl, at_parent⟩

theorem PackagesAt.mem_children_iff (at_places : PackagesAt tree project (ways.map (top ++ ·)))
    (first : ways[root.index]? = some []) {id : PackageId} {names : List String}
    (here : ways[id.index]? = some names) (child : PackageId) :
    child ∈ (project.package id).children ↔
      ∃ name, ways[child.index]? = some (names ++ [name]) := by
  have at_place := place_of_way top here
  obtain ⟨has, -⟩ := at_places.exists_package at_place
  rw [at_places.reachable.wellFormed.tree.mem_children_iff has]
  constructor
  · rintro ⟨has_child, linked⟩
    obtain ⟨around, at_parent, at_child⟩ := at_places.way_of_parent has_child linked
    rw [here, Option.some.injEq] at at_parent
    subst at_parent
    exact ⟨_, at_child⟩
  · rintro ⟨name, at_child⟩
    obtain ⟨has_child, -⟩ := at_places.exists_package (place_of_way top at_child)
    obtain ⟨-, parent, linked, at_parent⟩ := at_places.parent_of_way first at_child
    have same := at_places.eq_of_place (place_of_way top at_parent) at_place
    exact ⟨has_child, same ▸ linked⟩

/-- The children of a package come by ascending number, and so by the bytes of their names. -/
theorem PackagesAt.children_order (at_places : PackagesAt tree project (ways.map (top ++ ·)))
    (level_order : ways.Pairwise LevelOrder) {id : PackageId} {names : List String}
    (here : ways[id.index]? = some names) :
    ((project.package id).children.map fun child =>
      Text.bytes (project.package child).name).Pairwise (· < ·) := by
  obtain ⟨has, -⟩ := at_places.exists_package (place_of_way top here)
  -- Children come by number, numbers come level by level, and all of them are of one level.
  have numbers : (project.package id).children.Pairwise (·.index < ·.index) := by
    have all : (project.packages.map (·.id)).Pairwise (·.index < ·.index) := by
      rw [map_package_ids at_places.reachable.wellFormed.tree, List.pairwise_map]
      exact List.pairwise_lt_range
    rw [at_places.reachable.entries.children has]
    exact all.sublist (List.filter_sublist.map _)
  have at_child {child : PackageId} (member : child ∈ (project.package id).children) :
      ways[child.index]? = some (names ++ [(project.package child).name]) := by
    obtain ⟨has_child, linked⟩ :=
      (at_places.reachable.wellFormed.tree.mem_children_iff has).mp member
    obtain ⟨around, at_parent, at_child⟩ := at_places.way_of_parent has_child linked
    rw [here, Option.some.injEq] at at_parent
    rwa [at_parent]
  rw [List.pairwise_map]
  refine numbers.imp_of_mem ?_
  intro a b in_a in_b less
  obtain ⟨bound_a, at_a⟩ := List.getElem?_eq_some_iff.mp (at_child in_a)
  obtain ⟨bound_b, at_b⟩ := List.getElem?_eq_some_iff.mp (at_child in_b)
  have order := List.pairwise_iff_getElem.mp level_order _ _ bound_a bound_b less
  rw [at_a, at_b] at order
  exact order.bytes_lt

/-! ### Files -/

variable {places : List Location}

theorem Filled.files_order (filled : Filled tree project places (packages.foundFiles tree))
    (at_places : PackagesAt tree packages places) {id : PackageId} {place : Location}
    (here : places[id.index]? = some place) :
    ((project.package id).files.map fun file =>
      Text.bytes (project.file file).label).Pairwise (· < ·) := by
  have ascending : ((project.package id).files.map fun file =>
      (project.file file).label).Pairwise (· < ·) := by
    rw [filled.labels at_places here]
    exact (FileTree.fileNames_ascending place).filter _
  rw [List.pairwise_map] at ascending ⊢
  exact ascending.imp Text.bytes_lt_bytes

/-! ### The whole layout -/

/-- The names that lead to the packages of a directory, from the directory on. -/
def packageWays (tree : FileTree) (top : Location) : List (List String) :=
  (tree.packagePlaces top).map (·.drop top.length)

theorem map_packageWays (tree : FileTree) (top : Location) :
    (packageWays tree top).map (top ++ ·) = tree.packagePlaces top := by
  rw [packageWays, List.map_map]
  refine (List.map_congr_left fun place member => ?_).trans (List.map_id _)
  obtain ⟨names, rfl, -⟩ := FileTree.mem_packagePlaces_iff.mp member
  simp

/-- Every build gives a project that is laid out as the directory is. -/
theorem build_laidOut {searchPaths : List Path} {pythonVersion : Nat} {analyzer : Analyzer}
    (sound : tree.Sound) (used : Used tree searchPaths pythonVersion analyzer) {root : Path}
    {place : FileTree.Place} (found : tree.locate? root = some place) :
    ∃ project ways, (build tree root analyzer).1 = some project ∧
      project.LaidOut tree place.location ways := by
  have filled : Filled tree
      (uncached (Analyzer.new tree searchPaths pythonVersion) tree place.location)
      (tree.packagePlaces place.location)
      ((ofDirectory tree place.location).foundFiles tree) := filled_uncached sound found
  have at_places := packagesAt_ofDirectory sound found
  have built := (build_of_faithful sound (used.faithful sound) found).1
  have places_eq := map_packageWays tree place.location
  rw [← places_eq] at filled at_places
  refine ⟨_, packageWays tree place.location, built, ?_⟩
  have first : (packageWays tree place.location)[Project.root.index]? = some [] := by
    rw [packageWays, List.getElem?_map]
    change ((tree.packagePlaces place.location)[0]?).map _ = _
    rw [FileTree.head_packagePlaces]
    simp
  have level_order : (packageWays tree place.location).Pairwise LevelOrder := by
    have outward : (tree.packagePlaces place.location).Pairwise FileTree.Outward :=
      FileTree.packagePlaces_outward place.location
    rw [← places_eq, List.pairwise_map] at outward
    exact outward.imp FileTree.Outward.levelOrder
  have has_root := filled.reachable.wellFormed.tree.has_root
  exact {
    exactly := fun {names} => by
      have member_iff : place.location ++ names ∈ tree.packagePlaces place.location ↔ _ :=
        FileTree.mem_packagePlaces_iff
      rw [← places_eq, List.mem_map] at member_iff
      simpa using member_iff
    level_order
    paths := by rw [filled.paths, List.map_map]; rfl
    root_parent := ⟨first,
      (filled.reachable.wellFormed.tree.parent_eq_none_iff has_root).mpr rfl⟩
    parent := fun here => filled.parent_of_way first here
    mem_children_iff := fun here => filled.mem_children_iff first here
    children_order := fun here => filled.children_order level_order here
    file_paths := fun here file member =>
      filled.file_path (place_of_way _ here) member
    mem_labels_iff := fun here name =>
      filled.mem_labels_iff at_places sound (place_of_way _ here) name
    files_order := fun here => filled.files_order at_places (place_of_way _ here) }

/-- A directory whose marker is a link is a package, a link to that directory is none. -/
theorem storefront_laidOut :
    ∃ project ways, (build storefront ⟨"/shop"⟩ (Analyzer.new storefront [] 12)).1 = some project ∧
      project.LaidOut storefront ["shop"] ways ∧ ["cart"] ∈ ways ∧ ["linked"] ∉ ways := by
  obtain ⟨place, found, at_shop⟩ := exists_storefront
  have used : Used storefront [] 12 (Analyzer.new storefront [] 12) := .new
  obtain ⟨project, ways, built, laid_out⟩ := build_laidOut storefront_sound used found
  rw [at_shop] at laid_out
  refine ⟨project, ways, built, laid_out, laid_out.exactly.mpr storefront_cart, fun member => ?_⟩
  obtain ⟨⟨node, at_linked, is_directory⟩, -, -⟩ := (laid_out.exactly.mp member).1.toEnters
  cases at_linked
  cases is_directory

end Project

end PackageAtlas
