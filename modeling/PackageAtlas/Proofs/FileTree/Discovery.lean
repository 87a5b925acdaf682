import PackageAtlas.Project.Discovery
import PackageAtlas.Proofs.FileTree.Nodes

/-!
# Directories that are met in the search for packages

The search meets a directory exactly if it is entered with all directories around it, and meets
them in the order of their names. Sorted by depth, marked directories of one depth stay in order.
-/
namespace PackageAtlas

/-- Sorting keeps elements that are equal to the sort in their order. -/
theorem filter_mergeSort {α : Type} {le : α → α → Bool}
    (trans : ∀ a b c, le a b = true → le b c = true → le a c = true)
    (total : ∀ a b, (le a b || le b a) = true) {keep : α → Bool}
    (tied : ∀ a b, keep a = true → keep b = true → le a b = true) (elements : List α) :
    (elements.mergeSort le).filter keep = elements.filter keep := by
  have in_order : (elements.filter keep).Pairwise fun a b => le a b = true := by
    rw [List.pairwise_iff_forall_sublist]
    intro a b in_turn
    have first := in_turn.subset List.mem_cons_self
    have second := in_turn.subset (List.mem_cons_of_mem a List.mem_cons_self)
    exact tied a b (List.mem_filter.mp first).2 (List.mem_filter.mp second).2
  have kept : (elements.filter keep).Sublist ((elements.mergeSort le).filter keep) := by
    have inner := (List.sublist_mergeSort trans total in_order List.filter_sublist).filter keep
    simpa only [List.filter_filter, Bool.and_self] using inner
  refine (kept.eq_of_length ?_).symm
  exact (((List.mergeSort_perm elements le).filter keep).length_eq).symm

namespace FileTree

/-- Whether every step of the way from a location along some names is of one kind. -/
def Along (step : Location → String → Prop) (location : Location) : List String → Prop
  | [] => True
  | name :: rest => step location name ∧ Along step (location ++ [name]) rest

theorem along_append {step : Location → String → Prop} {location : Location}
    {before after : List String} :
    Along step location (before ++ after) ↔
      Along step location before ∧ Along step (location ++ before) after := by
  induction before generalizing location with
  | nil => simp [Along]
  | cons name rest ih => simp [Along, ih, and_assoc]

theorem along_concat {step : Location → String → Prop} {location : Location}
    {before : List String} {name : String} :
    Along step location (before ++ [name]) ↔
      Along step location before ∧ step (location ++ before) name := by
  simp [along_append, Along]

theorem Along.mono {step other : Location → String → Prop}
    (implies : ∀ location name, step location name → other location name) {location : Location}
    {names : List String} (along : Along step location names) : Along other location names := by
  induction names generalizing location with
  | nil => trivial
  | cons name rest ih => exact ⟨implies _ _ along.1, ih along.2⟩

variable {tree : FileTree}

/-- Whether an entry of a directory is a directory that the search enters. -/
structure Enters (tree : FileTree) (around : Location) (name : String) : Prop where
  directory : ∃ node, tree.node? (around ++ [name]) = some node ∧ node.isDirectory = true
  shown : isHidden name = false
  kept : name ∉ skippedNames

/-- Whether an entry of a package is a package. -/
structure Subpackage (tree : FileTree) (around : Location) (name : String) : Prop
    extends tree.Enters around name where
  marked : tree.isPackage (Location.path (around ++ [name])) = true

/-- Whether there are packages all the way from a package to another one below it. -/
def PackageBelow (tree : FileTree) (top : Location) (names : List String) : Prop :=
  Along tree.Subpackage top names

/-! ### One directory -/

theorem mem_subdirectories_iff {location inner : Location} :
    inner ∈ tree.subdirectories location ↔
      ∃ name, inner = location ++ [name] ∧ tree.Enters location name := by
  unfold subdirectories
  constructor
  · intro member
    split at member
    next => cases member
    next node located =>
      obtain ⟨⟨name, child⟩, entered, rfl⟩ := List.mem_map.mp member
      obtain ⟨present, passes⟩ := List.mem_filter.mp entered
      simp only [Bool.and_eq_true, Bool.not_eq_true', List.contains_eq_mem,
        decide_eq_false_iff_not] at passes
      have at_child : tree.node? (location ++ [name]) = some child := by
        rw [node?_concat, located]
        exact Node.mem_children_iff.mp present
      exact ⟨name, rfl, ⟨child, at_child, passes.1.1⟩, passes.1.2, passes.2⟩
  · rintro ⟨name, rfl, ⟨child, at_child, directory⟩, shown, kept⟩
    obtain ⟨node, located, -, present⟩ := exists_directory_of_node? at_child
    rw [located]
    refine List.mem_map.mpr ⟨(name, child), List.mem_filter.mpr ⟨?_, ?_⟩, rfl⟩
    · exact Node.mem_children_iff.mpr present
    · simp [directory, shown, kept]

/-- The directories in one directory come by ascending name. -/
theorem subdirectories_ascending (location : Location) :
    (tree.subdirectories location).Pairwise fun first second =>
      ∃ a b, first = location ++ [a] ∧ second = location ++ [b] ∧ a < b := by
  unfold subdirectories
  split
  next => exact List.Pairwise.nil
  next node located =>
    rw [List.pairwise_map]
    refine (node.children_ascending.filter _).imp ?_
    intro first second less
    exact ⟨first.1, second.1, rfl, rfl, less⟩

theorem mem_fileNames_iff {location : Location} {name : String} :
    name ∈ tree.fileNames location ↔
      (∃ text, tree.node? (location ++ [name]) = some (.file text)) ∧ isHidden name = false := by
  unfold fileNames
  constructor
  · intro member
    split at member
    next => cases member
    next node located =>
      obtain ⟨⟨_, child⟩, inside, rfl⟩ := List.mem_map.mp member
      obtain ⟨present, passes⟩ := List.mem_filter.mp inside
      simp only [Bool.and_eq_true, Bool.not_eq_true'] at passes
      cases child with
      | file text =>
        refine ⟨⟨text, ?_⟩, passes.2⟩
        rw [node?_concat, located]
        exact Node.mem_children_iff.mp present
      | directory entries => cases passes.1
      | link target => cases passes.1
  · rintro ⟨⟨text, at_file⟩, shown⟩
    obtain ⟨node, located, -, present⟩ := exists_directory_of_node? at_file
    rw [located]
    refine List.mem_map.mpr ⟨(name, .file text), List.mem_filter.mpr ⟨?_, ?_⟩, rfl⟩
    · exact Node.mem_children_iff.mpr present
    · simp [Node.isFile, shown]

theorem fileNames_ascending (location : Location) :
    (tree.fileNames location).Pairwise (· < ·) := by
  unfold fileNames
  split
  next => exact List.Pairwise.nil
  next node located =>
    rw [List.pairwise_map]
    exact node.children_ascending.filter _

/-! ### The walk through all directories -/

theorem mem_directoriesWithin_iff {levels : Nat} {location directory : Location} :
    directory ∈ tree.directoriesWithin levels location ↔
      ∃ names, names ≠ [] ∧ names.length ≤ levels ∧ directory = location ++ names ∧
        Along tree.Enters location names := by
  induction levels generalizing location with
  | zero =>
    refine ⟨fun member => absurd member List.not_mem_nil, ?_⟩
    rintro ⟨names, nonempty, short, -, -⟩
    exact absurd (List.length_eq_zero_iff.mp (Nat.le_zero.mp short)) nonempty
  | succ levels ih =>
    rw [directoriesWithin, List.mem_flatMap]
    constructor
    · rintro ⟨inner, is_inner, member⟩
      obtain ⟨name, rfl, enters⟩ := mem_subdirectories_iff.mp is_inner
      rcases List.mem_cons.mp member with rfl | deeper
      · exact ⟨[name], by simp, by simp, rfl, enters, trivial⟩
      · obtain ⟨names, -, short, rfl, along⟩ := ih.mp deeper
        exact ⟨name :: names, by simp, by simpa using short, by simp, enters, along⟩
    · rintro ⟨names, nonempty, short, rfl, along⟩
      obtain ⟨name, rest, rfl⟩ := List.exists_cons_of_ne_nil nonempty
      obtain ⟨enters, along_rest⟩ := along
      refine ⟨location ++ [name], mem_subdirectories_iff.mpr ⟨name, rfl, enters⟩, ?_⟩
      by_cases last : rest = []
      · rw [last]
        exact List.mem_cons_self
      · refine List.mem_cons_of_mem _ (ih.mpr ⟨rest, last, ?_, by simp, along_rest⟩)
        exact Nat.le_of_succ_le_succ short

/-- The walk meets directories in the order of the names that lead to them. -/
theorem directoriesWithin_ascending (levels : Nat) (location : Location) :
    (tree.directoriesWithin levels location).Pairwise (· < ·) := by
  induction levels generalizing location with
  | zero => exact List.Pairwise.nil
  | succ levels ih =>
    rw [directoriesWithin, List.pairwise_flatMap]
    refine ⟨fun inner _ => List.pairwise_cons.mpr ⟨?first, ih inner⟩, ?later⟩
    case first =>
      intro deeper member
      obtain ⟨names, nonempty, -, rfl, -⟩ := mem_directoriesWithin_iff.mp member
      obtain ⟨name, rest, rfl⟩ := List.exists_cons_of_ne_nil nonempty
      have longer : inner ++ [] < inner ++ name :: rest :=
        List.append_left_lt (List.nil_lt_cons name rest)
      rwa [List.append_nil] at longer
    case later =>
      -- Whatever lies in two entries of a directory is told apart by the names of the entries.
      have starts {inner directory : Location}
          (member : directory ∈ inner :: tree.directoriesWithin levels inner) :
          ∃ rest, directory = inner ++ rest := by
        rcases List.mem_cons.mp member with rfl | deeper
        · exact ⟨[], (List.append_nil _).symm⟩
        · obtain ⟨names, -, -, same, -⟩ := mem_directoriesWithin_iff.mp deeper
          exact ⟨names, same⟩
      refine (subdirectories_ascending location).imp ?_
      rintro _ _ ⟨a, b, rfl, rfl, less⟩ x in_a y in_b
      obtain ⟨rest, rfl⟩ := starts in_a
      obtain ⟨others, rfl⟩ := starts in_b
      rw [List.append_assoc, List.append_assoc]
      exact List.append_left_lt (List.cons_lt_cons_iff.mpr (Or.inl less))

/-! ### Marked directories -/

/-- Outer locations come first, and of those equally deep the one with smaller names. -/
def Outward (first second : Location) : Prop :=
  first.length < second.length ∨ first.length = second.length ∧ first < second

theorem Outward.length_le {first second : Location} (outward : Outward first second) :
    first.length ≤ second.length := by
  rcases outward with shorter | ⟨equal, -⟩
  · exact Nat.le_of_lt shorter
  · exact Nat.le_of_eq equal

theorem Outward.asymm {first second : Location} (outward : Outward first second) :
    ¬ Outward second first := by
  intro back
  have shorter := outward.length_le
  have longer := back.length_le
  rcases outward with less | ⟨-, less⟩
  · omega
  · rcases back with more | ⟨-, more⟩
    · omega
    · exact List.lt_asymm less more

/-- A way through directories ends in one. -/
theorem Along.exists_node {top : Location} {names : List String} (nonempty : names ≠ [])
    (along : Along tree.Enters top names) :
    ∃ node, tree.node? (top ++ names) = some node ∧ node.isDirectory = true := by
  obtain ⟨before, name, rfl⟩ := (List.eq_nil_or_concat' names).resolve_left nonempty
  obtain ⟨-, found, -, -⟩ := along_concat.mp along
  rwa [List.append_assoc] at found

/-- The height of the tree bounds every way through directories. -/
theorem Along.length_le_height {top : Location} {names : List String} (nonempty : names ≠ [])
    (along : Along tree.Enters top names) : names.length ≤ tree.root.height := by
  obtain ⟨node, at_node, -⟩ := along.exists_node nonempty
  have bound := Node.length_le_height at_node
  rw [List.length_append] at bound
  omega

theorem mem_markedDirectories_iff {top directory : Location} :
    directory ∈ tree.markedDirectories top ↔
      ∃ names, names ≠ [] ∧ directory = top ++ names ∧ Along tree.Enters top names ∧
        tree.isPackage directory.path = true := by
  rw [markedDirectories, List.mem_mergeSort, List.mem_filter, mem_directoriesWithin_iff]
  constructor
  · rintro ⟨⟨names, nonempty, -, rfl, along⟩, marked⟩
    exact ⟨names, nonempty, rfl, along, marked⟩
  · rintro ⟨names, nonempty, rfl, along, marked⟩
    exact ⟨⟨names, nonempty, along.length_le_height nonempty, rfl, along⟩, marked⟩

theorem markedDirectories_outward (top : Location) :
    (tree.markedDirectories top).Pairwise Outward := by
  let marked := (tree.directoriesWithin tree.root.height top).filter
    fun directory => tree.isPackage directory.path
  let le (a b : Location) : Bool := a.length ≤ b.length
  have trans : ∀ a b c, le a b = true → le b c = true → le a c = true := by
    intro a b c first second
    exact decide_eq_true (Nat.le_trans (of_decide_eq_true first) (of_decide_eq_true second))
  have total : ∀ a b, (le a b || le b a) = true := by
    intro a b
    rw [Bool.or_eq_true, decide_eq_true_iff, decide_eq_true_iff]
    exact Nat.le_total _ _
  change (marked.mergeSort le).Pairwise Outward
  rw [List.pairwise_iff_forall_sublist]
  intro first second in_turn
  have deeper : first.length ≤ second.length := by
    have sorted := List.pairwise_mergeSort trans total marked
    exact of_decide_eq_true (List.pairwise_iff_forall_sublist.mp sorted in_turn)
  rcases Nat.lt_or_eq_of_le deeper with shorter | equal
  · exact Or.inl shorter
  · -- Those of one depth are sorted as they were met.
    have kept := in_turn.filter fun directory : Location => directory.length == first.length
    rw [filter_mergeSort trans total (by
      intro a b of_a of_b
      exact decide_eq_true (Nat.le_of_eq ((beq_iff_eq.mp of_a).trans (beq_iff_eq.mp of_b).symm)))]
      at kept
    rw [List.filter_cons_of_pos (by simp), List.filter_cons_of_pos (by simp [equal]),
      List.filter_nil] at kept
    have met : marked.Pairwise (· < ·) := (directoriesWithin_ascending _ top).filter _
    exact Or.inr ⟨equal, List.pairwise_iff_forall_sublist.mp met (kept.trans List.filter_sublist)⟩

end FileTree

end PackageAtlas
