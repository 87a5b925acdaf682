import PackageAtlas.Project.Build
import PackageAtlas.Proofs.Analyzer.SearchOrder
import PackageAtlas.Proofs.FileTree.Discovery
import PackageAtlas.Proofs.Project.Entries

/-!
# Packages of a directory

Going through the marked directories by depth, a directory becomes a package exactly if that around
it has become one before. So the packages are the directories that are reached through marked
directories alone.
-/
namespace PackageAtlas

namespace FileTree

variable {tree : FileTree}

/-- The places of packages with one more directory, if the one around it is among them. -/
def link (places : List Location) (directory : Location) : List Location :=
  if directory.dropLast ∈ places then places ++ [directory] else places

/-- The places of all packages below a directory, and of the directory itself. -/
def packagePlaces (tree : FileTree) (top : Location) : List Location :=
  (tree.markedDirectories top).foldl link [top]

theorem link_sublist (places : List Location) (directory : Location) (rest : List Location) :
    (link places directory ++ rest).Sublist (places ++ directory :: rest) := by
  unfold link
  split
  next => simp
  next => exact (List.sublist_cons_self directory rest).append_left places

theorem foldl_link_sublist (directories places : List Location) :
    (directories.foldl link places).Sublist (places ++ directories) := by
  induction directories generalizing places with
  | nil => simp
  | cons directory rest ih => exact (ih _).trans (link_sublist places directory rest)

theorem Outward.ne {first second : Location} (outward : Outward first second) :
    first ≠ second := by
  rintro rfl
  rcases outward with shorter | ⟨-, less⟩
  · exact Nat.lt_irrefl _ shorter
  · exact List.lt_irrefl first less

/-- What is less deep than one of the directories comes before it. -/
theorem mem_before_of_outward {before rest : List Location} {directory other : Location}
    (in_turn : (before ++ directory :: rest).Pairwise Outward)
    (member : other ∈ before ++ directory :: rest) (shorter : other.length < directory.length) :
    other ∈ before := by
  rw [List.pairwise_append, List.pairwise_cons] at in_turn
  rcases List.mem_append.mp member with earlier | later
  · exact earlier
  · have deeper : directory.length ≤ other.length := by
      rcases List.mem_cons.mp later with same | after
      · exact Nat.le_of_eq (congrArg List.length same.symm)
      · exact (in_turn.2.1.1 _ after).length_le
    exact absurd shorter (Nat.not_lt.mpr deeper)

theorem top_outward (top : Location) : (top :: tree.markedDirectories top).Pairwise Outward := by
  refine List.pairwise_cons.mpr ⟨fun directory member => ?_, markedDirectories_outward top⟩
  obtain ⟨names, nonempty, rfl, -, -⟩ := mem_markedDirectories_iff.mp member
  have longer := List.length_pos_iff.mpr nonempty
  exact Or.inl (by rw [List.length_append]; omega)

theorem packagePlaces_outward (top : Location) : (tree.packagePlaces top).Pairwise Outward :=
  (top_outward top).sublist (foldl_link_sublist _ [top])

theorem PackageBelow.mem_markedDirectories {top : Location} {names : List String}
    (below : tree.PackageBelow top names) (nonempty : names ≠ []) :
    top ++ names ∈ tree.markedDirectories top := by
  obtain ⟨before, name, rfl⟩ := (List.eq_nil_or_concat' names).resolve_left nonempty
  have marked := (along_concat.mp below).2.marked
  rw [List.append_assoc] at marked
  exact mem_markedDirectories_iff.mpr
    ⟨_, nonempty, rfl, below.mono fun _ _ step => step.toEnters, marked⟩

private theorem mem_foldl_link_iff {top : Location} {done rest : List Location}
    (all : tree.markedDirectories top = done ++ rest) (place : Location) :
    place ∈ done.foldl link [top] ↔
      place = top ∨ place ∈ done ∧ ∃ names, place = top ++ names ∧ tree.PackageBelow top names := by
  induction done using List.reverseRecOn generalizing rest place with
  | nil => simp
  | append_singleton before directory ih =>
    have earlier (place : Location) := ih (by rw [all, List.append_assoc]) place
    have inside : directory ∈ tree.markedDirectories top := by
      rw [all]
      simp
    obtain ⟨names, nonempty, rfl, along, marked⟩ := mem_markedDirectories_iff.mp inside
    obtain ⟨upper, name, rfl⟩ := (List.eq_nil_or_concat' names).resolve_left nonempty
    -- The directory around it is a package exactly if it is one itself.
    have around_iff : top ++ upper ∈ before.foldl link [top] ↔
        tree.PackageBelow top (upper ++ [name]) := by
      rw [earlier, PackageBelow, along_concat]
      constructor
      · intro known
        have above : tree.PackageBelow top upper := by
          rcases known with same | ⟨-, others, same, below⟩
          · rw [List.append_right_eq_self.mp same]
            trivial
          · rwa [List.append_cancel_left same]
        rw [← List.append_assoc] at marked
        exact ⟨above, (along_concat.mp along).2, marked⟩
      · rintro ⟨above, -⟩
        by_cases empty : upper = []
        · exact Or.inl (by rw [empty, List.append_nil])
        · refine Or.inr ⟨?_, upper, rfl, above⟩
          -- Being less deep, it comes before.
          have somewhere : top ++ upper ∈
              before ++ (top ++ (upper ++ [name])) :: rest := by
            have found := PackageBelow.mem_markedDirectories above empty
            rwa [all, List.append_assoc, List.singleton_append] at found
          have in_turn : (tree.markedDirectories top).Pairwise Outward :=
            markedDirectories_outward top
          rw [all, List.append_assoc, List.singleton_append] at in_turn
          refine mem_before_of_outward in_turn somewhere ?_
          simp only [List.length_append, List.length_singleton]
          omega
    have around_eq : (top ++ (upper ++ [name])).dropLast = top ++ upper := by
      rw [← List.append_assoc, List.dropLast_concat]
    rw [List.foldl_append, List.foldl_cons, List.foldl_nil, link, around_eq]
    split
    next known =>
      have below := around_iff.mp known
      rw [List.mem_append, List.mem_singleton, earlier, List.mem_append, List.mem_singleton]
      constructor
      · rintro ((same | ⟨member, chain⟩) | rfl)
        · exact Or.inl same
        · exact Or.inr ⟨Or.inl member, chain⟩
        · exact Or.inr ⟨Or.inr rfl, _, rfl, below⟩
      · rintro (same | ⟨member | rfl, chain⟩)
        · exact Or.inl (Or.inl same)
        · exact Or.inl (Or.inr ⟨member, chain⟩)
        · exact Or.inr rfl
    next unknown =>
      rw [earlier, List.mem_append, List.mem_singleton]
      constructor
      · rintro (same | ⟨member, chain⟩)
        · exact Or.inl same
        · exact Or.inr ⟨Or.inl member, chain⟩
      · rintro (same | ⟨member | rfl, chain⟩)
        · exact Or.inl same
        · exact Or.inr ⟨member, chain⟩
        · obtain ⟨others, same, below⟩ := chain
          rw [← List.append_cancel_left same] at below
          exact absurd (around_iff.mpr below) unknown

/-- The places of packages are those reached through packages. -/
theorem mem_packagePlaces_iff {top place : Location} :
    place ∈ tree.packagePlaces top ↔
      ∃ names, place = top ++ names ∧ tree.PackageBelow top names := by
  rw [packagePlaces, mem_foldl_link_iff (List.append_nil _).symm]
  constructor
  · rintro (rfl | ⟨-, chain⟩)
    · exact ⟨[], (List.append_nil _).symm, trivial⟩
    · exact chain
  · rintro ⟨names, rfl, below⟩
    by_cases empty : names = []
    · exact Or.inl (by rw [empty, List.append_nil])
    · exact Or.inr ⟨below.mem_markedDirectories empty, names, rfl, below⟩

end FileTree

namespace Project

variable {project : Project}

/-- Of elements with different paths, the one that is found by a path is the one that has it. -/
theorem find?_same_eq_some_iff {α ι : Type} {elements : List α} {path : α → Path} (number : α → ι)
    (apart : ∀ a ∈ elements, ∀ b ∈ elements, (path a).Same (path b) → a = b) {wanted : Path}
    {i : ι} :
    (elements.find? fun a => decide ((path a).Same wanted)).map number = some i ↔
      ∃ a ∈ elements, number a = i ∧ (path a).Same wanted := by
  constructor
  · intro found
    obtain ⟨a, found_a, rfl⟩ := Option.map_eq_some_iff.mp found
    exact ⟨a, List.mem_of_find?_eq_some found_a, rfl, by simpa using List.find?_some found_a⟩
  · rintro ⟨a, member, rfl, same⟩
    cases found : elements.find? fun a => decide ((path a).Same wanted) with
    | none => exact absurd (decide_eq_true same) (List.find?_eq_none.mp found a member)
    | some b =>
      have same_b : (path b).Same wanted := by simpa using List.find?_some found
      rw [apart b (List.mem_of_find?_eq_some found) a member (same_b.trans same.symm)]
      rfl

theorem packageAt?_eq_some_iff (packages : PackageTree project) {path : Path} {id : PackageId} :
    project.packageAt? path = some id ↔
      project.HasPackage id ∧ (project.package id).path.Same path := by
  rw [packageAt?, find?_same_eq_some_iff]
  · simp only [mem_packages_iff]
    constructor
    · rintro ⟨_, ⟨other, has, rfl⟩, rfl, same⟩
      rw [packages.number has]
      exact ⟨has, same⟩
    · rintro ⟨has, same⟩
      exact ⟨_, ⟨id, has, rfl⟩, packages.number has, same⟩
  · simp only [mem_packages_iff]
    rintro _ ⟨a, has_a, rfl⟩ _ ⟨b, has_b, rfl⟩ same
    rw [packages.eq_of_same has_a has_b same]

theorem fileAt?_eq_some_iff (lists : FileLists project) {path : Path} {id : FileId} :
    project.fileAt? path = some id ↔
      project.HasFile id ∧ (project.file id).path.Same path := by
  rw [fileAt?, find?_same_eq_some_iff]
  · simp only [mem_files_iff]
    constructor
    · rintro ⟨_, ⟨other, has, rfl⟩, rfl, same⟩
      rw [lists.number has]
      exact ⟨has, same⟩
    · rintro ⟨has, same⟩
      exact ⟨_, ⟨id, has, rfl⟩, lists.number has, same⟩
  · simp only [mem_files_iff]
    rintro _ ⟨a, has_a, rfl⟩ _ ⟨b, has_b, rfl⟩ same
    rw [lists.eq_of_same has_a has_b same]

/-- Whether a project was built, of plain names, and its packages lie at the given places of a file
tree in turn. -/
structure PackagesAt (tree : FileTree) (project : Project) (places : List Location) : Prop where
  reachable : Reachable PlainName project
  paths : project.packages.map (·.path) = places.map Location.path
  plain {place : Location} : place ∈ places → place.Plain
  located {place : Location} :
    place ∈ places → ∃ node, tree.locate? place.path = some ⟨place, node⟩

variable {tree : FileTree}

theorem PackagesAt.place {places : List Location} (at_places : PackagesAt tree project places)
    {id : PackageId} (has : project.HasPackage id) :
    ∃ place, places[id.index]? = some place ∧ (project.package id).path = place.path := by
  have same := congrArg (·[id.index]?) at_places.paths
  simp only [List.getElem?_map, List.getElem?_eq_getElem has, Option.map_some] at same
  obtain ⟨place, found, path_eq⟩ := Option.map_eq_some_iff.mp same.symm
  refine ⟨place, found, ?_⟩
  rw [path_eq, package, List.getElem?_eq_getElem has, Option.getD_some]

theorem PackagesAt.exists_package {places : List Location}
    (at_places : PackagesAt tree project places)
    {id : PackageId} {place : Location} (found : places[id.index]? = some place) :
    project.HasPackage id ∧ (project.package id).path = place.path := by
  have same := congrArg (·[id.index]?) at_places.paths
  simp only [List.getElem?_map, found, Option.map_some] at same
  obtain ⟨package, present, path_eq⟩ := Option.map_eq_some_iff.mp same
  obtain ⟨bound, -⟩ := List.getElem?_eq_some_iff.mp present
  exact ⟨bound, by rw [Project.package, present, Option.getD_some, path_eq]⟩

/-- A package is found by the path of its place, and by no other. -/
theorem PackagesAt.packageAt?_path {places : List Location}
    (at_places : PackagesAt tree project places)
    {place : Location} (plain : place.Plain) {id : PackageId} :
    project.packageAt? place.path = some id ↔ places[id.index]? = some place := by
  rw [packageAt?_eq_some_iff at_places.reachable.wellFormed.tree]
  constructor
  · rintro ⟨has, same⟩
    obtain ⟨other, found, path_eq⟩ := at_places.place has
    rw [path_eq] at same
    have other_plain := at_places.plain (List.mem_of_getElem? found)
    rw [← Location.eq_of_same other_plain plain same]
    exact found
  · intro found
    obtain ⟨has, path_eq⟩ := at_places.exists_package found
    exact ⟨has, path_eq ▸ rfl⟩

theorem PackagesAt.addPackageAt {places : List Location}
    (at_places : PackagesAt tree project places)
    {around : Location} {name : String} (plain : Location.Plain (around ++ [name]))
    {node : FileTree.Node}
    (located : tree.locate? (Location.path (around ++ [name])) = some ⟨around ++ [name], node⟩)
    (fresh : around ++ [name] ∉ places) :
    PackagesAt tree (project.addPackageAt (around ++ [name]))
      (FileTree.link places (around ++ [name])) := by
  obtain ⟨around_plain, name_plain⟩ := Location.plain_concat.mp plain
  unfold Project.addPackageAt FileTree.link
  rw [List.dropLast_concat, List.getLast?_concat]
  -- Either there is a package around the directory, or both leave the directory out.
  by_cases known : around ∈ places
  · obtain ⟨index, found⟩ := List.getElem?_of_mem known
    have at_index : places[(PackageId.mk index).index]? = some around := found
    obtain ⟨has, path_eq⟩ := at_places.exists_package at_index
    have here : project.packageAt? around.path = some ⟨index⟩ :=
      (at_places.packageAt?_path around_plain).mpr at_index
    rw [if_pos known, here]
    dsimp only
    have child_eq :
        (project.package ⟨index⟩).path.child name = Location.path (around ++ [name]) := by
      rw [path_eq]
      exact Location.child_path around_plain name_plain
    have new : project.packageAt? ((project.package ⟨index⟩).path.child name) = none := by
      rw [child_eq, Option.eq_none_iff_forall_ne_some]
      intro other other_found
      exact fresh (List.mem_of_getElem? ((at_places.packageAt?_path plain).mp other_found))
    refine {
      reachable := .addPackage at_places.reachable has name_plain
      paths := ?_
      plain := fun {place} member => ?_
      located := fun {place} member => ?_ }
    · rcases project.addPackage_cases ⟨index⟩ name with ⟨existing, old, -⟩ | ⟨-, added⟩
      · rw [new] at old
        cases old
      · have kept : (project.packages.modify index fun package =>
            { package with children := package.children ++ [project.nextPackage] }).map (·.path) =
            project.packages.map (·.path) := by
          apply map_modify
          intro package
          rfl
        rw [added, withPackage, List.map_append, List.map_append, kept, at_places.paths]
        simp [freshPackage, child_eq]
    · rcases List.mem_append.mp member with old | last
      · exact at_places.plain old
      · rw [List.mem_singleton.mp last]
        exact plain
    · rcases List.mem_append.mp member with old | last
      · exact at_places.located old
      · rw [List.mem_singleton.mp last]
        exact ⟨node, located⟩
  · have unknown : project.packageAt? around.path = none := by
      rw [Option.eq_none_iff_forall_ne_some]
      intro other found
      exact known (List.mem_of_getElem? ((at_places.packageAt?_path around_plain).mp found))
    rw [if_neg known, unknown]
    exact at_places

theorem PackagesAt.foldl_addPackageAt {places : List Location}
    (at_places : PackagesAt tree project places) {directories : List Location}
    (in_turn : (places ++ directories).Pairwise FileTree.Outward)
    (there : ∀ directory ∈ directories, directory ≠ [] ∧ directory.Plain ∧
      ∃ node, tree.locate? directory.path = some ⟨directory, node⟩) :
    PackagesAt tree (directories.foldl Project.addPackageAt project)
      (directories.foldl FileTree.link places) := by
  induction directories generalizing project places with
  | nil => exact at_places
  | cons directory rest ih =>
    obtain ⟨nonempty, plain, node, located⟩ := there directory List.mem_cons_self
    obtain ⟨around, name, rfl⟩ := (List.eq_nil_or_concat' directory).resolve_left nonempty
    have fresh : around ++ [name] ∉ places := by
      intro member
      rw [List.pairwise_append] at in_turn
      exact (in_turn.2.2 _ member _ List.mem_cons_self).ne rfl
    exact ih (at_places.addPackageAt plain located fresh)
      (in_turn.sublist (FileTree.link_sublist places _ rest))
      fun other member => there other (List.mem_cons_of_mem _ member)

/-- The project of a directory has its packages at the places of packages, in their order. -/
theorem packagesAt_ofDirectory (sound : tree.Sound) {root : Path} {top : FileTree.Place}
    (found : tree.locate? root = some top) :
    PackagesAt tree (ofDirectory tree top.location) (tree.packagePlaces top.location) := by
  have start : PackagesAt tree (Project.new top.location.path) [top.location] := {
    reachable := .new _
    paths := rfl
    plain := fun member => by
      rw [List.mem_singleton.mp member]
      exact sound.plain (sound.node?_of_locate? found).1
    located := fun member => by
      rw [List.mem_singleton.mp member]
      exact ⟨top.node, sound.locate?_canonical found⟩ }
  refine start.foldl_addPackageAt (FileTree.top_outward top.location) fun directory member => ?_
  obtain ⟨names, nonempty, rfl, along, -⟩ := FileTree.mem_markedDirectories_iff.mp member
  obtain ⟨inner, at_inner, is_directory⟩ := along.exists_node nonempty
  exact ⟨by simp [nonempty], sound.plain at_inner, inner,
    sound.locate?_path at_inner (FileTree.Node.not_link_of_directory is_directory)⟩

end Project

end PackageAtlas
