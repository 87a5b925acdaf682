import PackageAtlas.Proofs.Analyzer.Faithful
import PackageAtlas.Proofs.FileTree.Inside
import PackageAtlas.Proofs.FileTree.Shapes

/-!
# Copies of a directory

Two directories without links that hold the same cannot be told apart from inside: at one location
below each of them there is the same, and the search for a module that starts there ends at one
location below each of them. Since neither of the two is a package, nothing leads out of them.
-/
namespace PackageAtlas

namespace FileTree

/-- Whether two directories that are no packages hold the same, and no links. -/
structure Copies (tree : FileTree) (first second : Location) : Prop where
  directory : ∃ node, tree.node? first = some node ∧ node.isDirectory = true
  shapes (inner : Location) :
    (tree.node? (first ++ inner)).map Node.shape = (tree.node? (second ++ inner)).map Node.shape
  texts (inner : Location) :
    (tree.node? (first ++ inner)).bind Node.text? = (tree.node? (second ++ inner)).bind Node.text?
  no_links (inner : Location) (target : String) :
    tree.node? (first ++ inner) ≠ some (.link target)
  unmarked : tree.isPackage first.path = false

/-- Whether two paths lead to one location below each of two directories. -/
def Relocated (first second : Location) (a b : Path) : Prop :=
  ∃ inner : Location, inner.Plain ∧ a = Location.path (first ++ inner) ∧
    b = Location.path (second ++ inner)

variable {tree : FileTree} {first second inner : Location}

theorem Copies.exists_linkless (copies : Copies tree first second) :
    ∃ node, tree.node? first = some node ∧ node.Linkless := by
  obtain ⟨node, found, -⟩ := copies.directory
  refine ⟨node, found, ?_⟩
  intro inner target at_link
  apply copies.no_links inner target
  rw [node?_append, found, Option.bind_some, at_link]

theorem Copies.locate?_first (copies : Copies tree first second) (sound : tree.Sound)
    (plain : inner.Plain) :
    tree.locate? (Location.path (first ++ inner)) =
      (tree.node? (first ++ inner)).map (⟨first ++ inner, ·⟩) := by
  obtain ⟨node, found, linkless⟩ := copies.exists_linkless
  exact sound.locate?_inside found linkless plain

theorem Copies.exists_second (copies : Copies tree first second) :
    ∃ node, tree.node? second = some node ∧ node.Linkless ∧ node.isDirectory = true := by
  have same_shape := copies.shapes []
  obtain ⟨node, found, directory⟩ := copies.directory
  rw [List.append_nil, List.append_nil, found, Option.map_some] at same_shape
  obtain ⟨other, there, shape⟩ := Option.map_eq_some_iff.mp same_shape.symm
  refine ⟨other, there, ?_, (Node.isDirectory_congr shape).trans directory⟩
  intro inner target at_link
  -- The other directory would have a link at this place too.
  have same := copies.shapes inner
  rw [node?_append second, there, Option.bind_some, at_link] at same
  obtain ⟨node, at_node, link⟩ := Option.map_eq_some_iff.mp same
  cases node with
  | link target => exact copies.no_links inner target at_node
  | directory entries => cases link
  | file text => cases link

theorem Copies.locate?_second (copies : Copies tree first second) (sound : tree.Sound)
    (plain : inner.Plain) :
    tree.locate? (Location.path (second ++ inner)) =
      (tree.node? (second ++ inner)).map (⟨second ++ inner, ·⟩) := by
  obtain ⟨node, found, linkless, -⟩ := copies.exists_second
  exact sound.locate?_inside found linkless plain

/-- A directory that stands at two locations is a copy of itself. -/
theorem copies_of_node {node : Node} (at_first : tree.node? first = some node)
    (at_second : tree.node? second = some node) (directory : node.isDirectory = true)
    (linkless : node.Linkless) (unmarked : tree.isPackage first.path = false) :
    tree.Copies first second where
  directory := ⟨node, at_first, directory⟩
  shapes inner := by rw [node?_append, node?_append, at_first, at_second]
  texts inner := by rw [node?_append, node?_append, at_first, at_second]
  no_links inner target := by
    rw [node?_append, at_first, Option.bind_some]
    exact linkless inner target
  unmarked := unmarked

theorem Copies.plain_first (copies : Copies tree first second) (sound : tree.Sound) :
    first.Plain := by
  obtain ⟨node, found, -⟩ := copies.directory
  exact sound.plain found

theorem Copies.plain_second (copies : Copies tree first second) (sound : tree.Sound) :
    second.Plain := by
  obtain ⟨node, found, -⟩ := copies.exists_second
  exact sound.plain found

/-! ### What stands at one place -/

/-- What only looks at shapes sees the same at one place. -/
theorem Copies.any_eq (copies : Copies tree first second) (sound : tree.Sound)
    (plain : inner.Plain) {look : Node → Bool}
    (congr : ∀ {a b : Node}, a.shape = b.shape → look a = look b) :
    (tree.locate? (Location.path (first ++ inner))).any (look ·.node) =
      (tree.locate? (Location.path (second ++ inner))).any (look ·.node) := by
  have same := copies.shapes inner
  rw [copies.locate?_first sound plain, copies.locate?_second sound plain]
  cases at_first : tree.node? (first ++ inner) <;>
    cases at_second : tree.node? (second ++ inner) <;> rw [at_first, at_second] at same
  · rfl
  · cases same
  · cases same
  · exact congr (Option.some.inj same)

theorem Copies.isFile_eq (copies : Copies tree first second) (sound : tree.Sound)
    (plain : inner.Plain) :
    tree.isFile (Location.path (first ++ inner)) =
      tree.isFile (Location.path (second ++ inner)) :=
  copies.any_eq sound plain Node.isFile_congr

theorem Copies.isDirectory_eq (copies : Copies tree first second) (sound : tree.Sound)
    (plain : inner.Plain) :
    tree.isDirectory (Location.path (first ++ inner)) =
      tree.isDirectory (Location.path (second ++ inner)) :=
  copies.any_eq sound plain Node.isDirectory_congr

theorem Copies.text?_eq (copies : Copies tree first second) (sound : tree.Sound)
    (plain : inner.Plain) :
    tree.text? (Location.path (first ++ inner)) =
      tree.text? (Location.path (second ++ inner)) := by
  have same := copies.texts inner
  rw [text?, text?, copies.locate?_first sound plain, copies.locate?_second sound plain,
    Option.bind_map, Option.bind_map]
  exact same

/-! ### Modules -/

theorem child_path_append {around inner : Location} (around_plain : around.Plain)
    (plain : inner.Plain) {name : String} (name_plain : PlainName name) :
    (Location.path (around ++ inner)).child name = Location.path (around ++ (inner ++ [name])) := by
  rw [Location.child_path (Location.plain_append.mpr ⟨around_plain, plain⟩) name_plain,
    List.append_assoc]

theorem Copies.child (copies : Copies tree first second) (sound : tree.Sound)
    (plain : inner.Plain) {name : String} (name_plain : PlainName name) :
    (Location.path (first ++ inner)).child name = Location.path (first ++ (inner ++ [name])) ∧
      (Location.path (second ++ inner)).child name =
        Location.path (second ++ (inner ++ [name])) :=
  ⟨child_path_append (copies.plain_first sound) plain name_plain,
    child_path_append (copies.plain_second sound) plain name_plain⟩

theorem Copies.isPackage_eq (copies : Copies tree first second) (sound : tree.Sound)
    (plain : inner.Plain) :
    tree.isPackage (Location.path (first ++ inner)) =
      tree.isPackage (Location.path (second ++ inner)) := by
  obtain ⟨child_first, child_second⟩ := copies.child sound plain plain_marker
  rw [isPackage, isPackage, child_first, child_second]
  exact copies.isFile_eq sound (Location.plain_concat.mpr ⟨plain, plain_marker⟩)

/-- A module below one place is found at one place, or below neither directory. -/
theorem Copies.moduleIn? (copies : Copies tree first second) (sound : tree.Sound)
    (plain : inner.Plain) {parts : List String} (parts_plain : ∀ part ∈ parts, PlainName part) :
    Option.Rel (Relocated first second)
      (tree.moduleIn? (Location.path (first ++ inner)) parts)
      (tree.moduleIn? (Location.path (second ++ inner)) parts) := by
  induction parts generalizing inner with
  | nil => exact .none
  | cons name rest ih =>
    obtain ⟨name_plain, rest_plain⟩ := List.forall_mem_cons.mp parts_plain
    have below_plain := Location.plain_concat.mpr ⟨plain, name_plain⟩
    obtain ⟨below_first, below_second⟩ := copies.child sound plain name_plain
    cases rest with
    | nil =>
      have marker_plain := Location.plain_concat.mpr ⟨below_plain, plain_marker⟩
      have source_plain := Location.plain_concat.mpr ⟨plain, plain_source name_plain⟩
      obtain ⟨marker_first, marker_second⟩ := copies.child sound below_plain plain_marker
      obtain ⟨source_first, source_second⟩ := copies.child sound plain (plain_source name_plain)
      rw [FileTree.moduleIn?, FileTree.moduleIn?, below_first, below_second, marker_first,
        marker_second, source_first, source_second]
      simp only [copies.isFile_eq sound marker_plain, copies.isFile_eq sound source_plain]
      split
      next => exact .some ⟨_, marker_plain, rfl, rfl⟩
      next =>
        split
        next => exact .some ⟨_, source_plain, rfl, rfl⟩
        next => exact .none
    | cons next others =>
      have onward (directory : Path) : tree.moduleIn? directory (name :: next :: others) =
          if tree.isDirectory (directory.child name) then
            tree.moduleIn? (directory.child name) (next :: others)
          else none := rfl
      rw [onward, onward, below_first, below_second, copies.isDirectory_eq sound below_plain]
      split
      next => exact ih below_plain rest_plain
      next => exact .none

/-! ### Packages around a directory -/

/-- The first directory is no package, and so the second is none. -/
theorem Copies.unmarked_second (copies : Copies tree first second) (sound : tree.Sound) :
    tree.isPackage second.path = false := by
  have same : _ = tree.isPackage (Location.path (second ++ [])) :=
    copies.isPackage_eq sound Location.plain_nil
  rw [List.append_nil, List.append_nil, copies.unmarked] at same
  exact same.symm

/-- The import root lies in the directory, since this is no package itself. -/
theorem Copies.importRoot (copies : Copies tree first second) (sound : tree.Sound)
    (plain : inner.Plain) :
    Relocated first second (tree.importRoot (Location.path (first ++ inner)))
      (tree.importRoot (Location.path (second ++ inner))) := by
  have plain_first := copies.plain_first sound
  have plain_second := copies.plain_second sound
  induction inner using List.reverseRecOn with
  | nil =>
    refine ⟨[], plain, ?_, ?_⟩
    · rw [List.append_nil, importRoot_of_not_package plain_first copies.unmarked]
    · rw [List.append_nil, importRoot_of_not_package plain_second (copies.unmarked_second sound)]
  | append_singleton before name ih =>
    have all_first := Location.plain_append.mpr ⟨plain_first, plain⟩
    have all_second := Location.plain_append.mpr ⟨plain_second, plain⟩
    have same := copies.isPackage_eq sound plain
    by_cases package : tree.isPackage (Location.path (second ++ (before ++ [name]))) = true
    · have package_first := same.trans package
      simp only [← List.append_assoc] at all_first all_second package package_first ⊢
      rw [importRoot_package all_first package_first, importRoot_package all_second package]
      exact ih (Location.plain_concat.mp plain).1
    · rw [Bool.not_eq_true] at package
      rw [importRoot_of_not_package all_first (same.trans package),
        importRoot_of_not_package all_second package]
      exact ⟨_, plain, rfl, rfl⟩

/-- The names of the packages around a place are the same ones, as they start below it. -/
theorem Copies.packageNames_eq (copies : Copies tree first second) (sound : tree.Sound)
    (plain : inner.Plain) :
    tree.packageNames (Location.path (first ++ inner)) =
      tree.packageNames (Location.path (second ++ inner)) := by
  have plain_first := copies.plain_first sound
  have plain_second := copies.plain_second sound
  induction inner using List.reverseRecOn with
  | nil =>
    rw [List.append_nil, List.append_nil, packageNames_of_not_package plain_first copies.unmarked,
      packageNames_of_not_package plain_second (copies.unmarked_second sound)]
  | append_singleton before name ih =>
    have all_first := Location.plain_append.mpr ⟨plain_first, plain⟩
    have all_second := Location.plain_append.mpr ⟨plain_second, plain⟩
    have same := copies.isPackage_eq sound plain
    by_cases package : tree.isPackage (Location.path (second ++ (before ++ [name]))) = true
    · have package_first := same.trans package
      simp only [← List.append_assoc] at all_first all_second package package_first ⊢
      rw [packageNames_package all_first package_first, packageNames_package all_second package,
        ih (Location.plain_concat.mp plain).1]
    · rw [Bool.not_eq_true] at package
      rw [packageNames_of_not_package all_first (same.trans package),
        packageNames_of_not_package all_second package]

/-- The package some levels up lies in the directory too. -/
theorem Copies.packageAbove? (copies : Copies tree first second) (sound : tree.Sound)
    (plain : inner.Plain) (levels : Nat) :
    Option.Rel (Relocated first second)
      (tree.packageAbove? (Location.path (first ++ inner)) levels)
      (tree.packageAbove? (Location.path (second ++ inner)) levels) := by
  have same := copies.isPackage_eq sound plain
  induction levels generalizing inner with
  | zero =>
    rw [FileTree.packageAbove?, FileTree.packageAbove?, same]
    split
    next => exact .some ⟨inner, plain, rfl, rfl⟩
    next => exact .none
  | succ levels ih =>
    rw [FileTree.packageAbove?, FileTree.packageAbove?, same]
    split
    next package =>
      cases inner using List.reverseRecOn with
      | nil =>
        -- At the top there is no package to go up from.
        rw [List.append_nil, copies.unmarked_second sound] at package
        cases package
      | append_singleton before name =>
        have before_plain := (Location.plain_concat.mp plain).1
        have all_first := Location.plain_append.mpr ⟨copies.plain_first sound, plain⟩
        have all_second := Location.plain_append.mpr ⟨copies.plain_second sound, plain⟩
        simp only [← List.append_assoc] at all_first all_second ⊢
        rw [Location.parent?_path all_first, Location.parent?_path all_second]
        exact ih before_plain (copies.isPackage_eq sound before_plain)
    next => exact .none

theorem Copies.absoluteName?_eq (copies : Copies tree first second) (sound : tree.Sound)
    (plain : inner.Plain) (level : Nat) (module : Option String) :
    tree.absoluteName? (Location.path (first ++ inner)) level module =
      tree.absoluteName? (Location.path (second ++ inner)) level module := by
  have above := copies.packageAbove? sound plain (level - 1)
  rw [absoluteName?, absoluteName?]
  generalize tree.packageAbove? (Location.path (first ++ inner)) (level - 1) = a at above
  generalize tree.packageAbove? (Location.path (second ++ inner)) (level - 1) = b at above
  cases above with
  | none => rfl
  | some relocated =>
    obtain ⟨base, base_plain, rfl, rfl⟩ := relocated
    rw [Option.map_some, Option.map_some, copies.packageNames_eq sound base_plain]

/-- An import is looked for under the same names. -/
theorem Copies.candidates_eq (copies : Copies tree first second) (sound : tree.Sound)
    (plain : inner.Plain) (imported : Import) :
    imported.candidates tree (Location.path (first ++ inner)) =
      imported.candidates tree (Location.path (second ++ inner)) := by
  unfold Import.candidates
  rw [copies.absoluteName?_eq sound plain]

/-! ### Packages and files inside -/

theorem Copies.enters_iff (copies : Copies tree first second) {name : String} :
    tree.Enters (first ++ inner) name ↔ tree.Enters (second ++ inner) name := by
  have directory_iff : (∃ node, tree.node? (first ++ inner ++ [name]) = some node ∧
      node.isDirectory = true) ↔
        ∃ node, tree.node? (second ++ inner ++ [name]) = some node ∧ node.isDirectory = true := by
    have same := copies.shapes (inner ++ [name])
    simp only [← List.append_assoc] at same
    have by_shape (location : Location) :
        (∃ node, tree.node? location = some node ∧ node.isDirectory = true) ↔
          (tree.node? location).map Node.shape = some .directory := by
      simp only [Node.isDirectory_iff_shape, Option.map_eq_some_iff]
    rw [by_shape, by_shape, same]
  constructor
  · rintro ⟨found, shown, kept⟩
    exact ⟨directory_iff.mp found, shown, kept⟩
  · rintro ⟨found, shown, kept⟩
    exact ⟨directory_iff.mpr found, shown, kept⟩

theorem Copies.along_enters_iff (copies : Copies tree first second) {names : List String} :
    Along tree.Enters (first ++ inner) names ↔ Along tree.Enters (second ++ inner) names := by
  induction names generalizing inner with
  | nil => exact Iff.rfl
  | cons name rest ih =>
    rw [Along, Along, copies.enters_iff, List.append_assoc, List.append_assoc, ih]

theorem outward_append_iff (top : Location) {a b : Location} :
    Outward (top ++ a) (top ++ b) ↔ Outward a b := by
  have less_iff : top ++ a < top ++ b ↔ a < b := by
    induction top with
    | nil => rfl
    | cons name rest ih => simpa [List.cons_lt_cons_iff] using ih
  simp only [Outward, List.length_append, Nat.add_lt_add_iff_left, Nat.add_left_cancel_iff,
    less_iff]

theorem exists_way {top : Location} {directory : Location}
    (member : directory ∈ tree.markedDirectories (top ++ inner)) :
    ∃ way, way ≠ [] ∧ directory = top ++ way := by
  obtain ⟨names, nonempty, rfl, -⟩ := mem_markedDirectories_iff.mp member
  exact ⟨inner ++ names, by simp [nonempty], List.append_assoc _ _ _⟩

theorem Copies.mem_marked_iff (copies : Copies tree first second) (sound : tree.Sound)
    {way : Location} :
    first ++ way ∈ tree.markedDirectories (first ++ inner) ↔
      second ++ way ∈ tree.markedDirectories (second ++ inner) := by
  simp only [mem_markedDirectories_iff, List.append_assoc, List.append_cancel_left_eq,
    ← copies.along_enters_iff]
  refine exists_congr fun names => and_congr_right fun nonempty => and_congr_right fun same =>
    and_congr_right fun along => ?_
  subst same
  obtain ⟨node, at_node, -⟩ := along.exists_node nonempty
  rw [List.append_assoc] at at_node
  rw [copies.isPackage_eq sound (Location.plain_append.mp (sound.plain at_node)).2]

/-- The marked directories below one place are met in one order along the same ways. -/
theorem Copies.markedDirectories (copies : Copies tree first second) (sound : tree.Sound)
    (inner : Location) :
    ∃ ways : List Location, (∀ way ∈ ways, way ≠ [] ∧ way.Plain) ∧
      tree.markedDirectories (first ++ inner) = ways.map (first ++ ·) ∧
      tree.markedDirectories (second ++ inner) = ways.map (second ++ ·) := by
  let ways := (tree.markedDirectories (first ++ inner)).map (·.drop first.length)
  have first_eq : tree.markedDirectories (first ++ inner) = ways.map (first ++ ·) := by
    rw [List.map_map]
    refine (List.map_id _).symm.trans (List.map_congr_left fun directory member => ?_)
    obtain ⟨way, -, rfl⟩ := exists_way member
    simp
  have mem_ways (way : Location) :
      way ∈ ways ↔ first ++ way ∈ tree.markedDirectories (first ++ inner) := by
    rw [first_eq, List.mem_map_of_injective (List.append_right_injective first)]
  refine ⟨ways, fun way member => ?clean, first_eq, ?second_eq⟩
  case clean =>
    have met := (mem_ways way).mp member
    obtain ⟨_, nonempty, same⟩ := exists_way met
    obtain rfl := List.append_cancel_left same
    obtain ⟨names, some_names, same_names, along, -⟩ := mem_markedDirectories_iff.mp met
    obtain ⟨node, at_node, -⟩ := along.exists_node some_names
    rw [← same_names] at at_node
    exact ⟨nonempty, (Location.plain_append.mp (sound.plain at_node)).2⟩
  case second_eq =>
    have in_turn : ways.Pairwise Outward := by
      have outward : (tree.markedDirectories (first ++ inner)).Pairwise Outward :=
        markedDirectories_outward _
      rw [first_eq, List.pairwise_map] at outward
      exact outward.imp (outward_append_iff first).mp
    refine eq_of_mem_iff (fun _ _ => Outward.asymm) (markedDirectories_outward _)
      (List.pairwise_map.mpr (in_turn.imp (outward_append_iff second).mpr)) fun directory => ?_
    constructor
    · intro member
      obtain ⟨way, -, rfl⟩ := exists_way member
      exact List.mem_map_of_mem ((mem_ways way).mpr ((copies.mem_marked_iff sound).mpr member))
    · intro member
      obtain ⟨way, among, rfl⟩ := List.mem_map.mp member
      exact (copies.mem_marked_iff sound).mp ((mem_ways way).mp among)

theorem Copies.fileNames_eq (copies : Copies tree first second) (inner : Location) :
    tree.fileNames (first ++ inner) = tree.fileNames (second ++ inner) := by
  have by_shape (location : Location) :
      (∃ text, tree.node? location = some (.file text)) ↔
        (tree.node? location).map Node.shape = some .file := by
    cases found : tree.node? location with
    | none => simp
    | some node => cases node <;> simp [Node.shape]
  refine eq_of_mem_iff (fun _ _ => String.lt_asymm) (fileNames_ascending _)
    (fileNames_ascending _) fun name => ?_
  have same := copies.shapes (inner ++ [name])
  rw [← List.append_assoc, ← List.append_assoc] at same
  rw [mem_fileNames_iff, mem_fileNames_iff, by_shape, by_shape, same]

end FileTree

end PackageAtlas
