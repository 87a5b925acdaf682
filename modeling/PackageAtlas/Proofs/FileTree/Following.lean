import PackageAtlas.FileTree.Locate
import PackageAtlas.Proofs.FileTree.Locations

/-!
# What following a path meets

Following a path meets a directory at each of its segments but the last, also where links are on
the way, and it ends at a location of plain names.
-/
namespace PackageAtlas.FileTree

variable {tree : FileTree}

/-! ### The way to the end -/

private theorem walkWith_append {follow : Place → Path → List String → Option Place}
    {before after : List String}
    (follows : ∀ place target rest last, follow place target (rest ++ after) = some last →
      ∃ middle, follow place target rest = some middle ∧
        (after ≠ [] → middle.node.isDirectory = true))
    {place last : Place} (found : tree.walkWith follow place (before ++ after) = some last) :
    ∃ middle, tree.walkWith follow place before = some middle ∧
      (after ≠ [] → middle.node.isDirectory = true) := by
  induction before generalizing place with
  | nil =>
    refine ⟨place, rfl, fun more => ?_⟩
    obtain ⟨segment, rest, rfl⟩ := List.exists_cons_of_ne_nil more
    rw [List.nil_append, walkWith] at found
    -- The walk goes on, and only a directory lets it.
    by_contra not_directory
    simp [not_directory] at found
  | cons segment rest ih =>
    rw [List.cons_append, walkWith] at found
    rw [walkWith]
    -- Both walks take the same first step.
    split at found
    next => cases found
    next directory =>
      rw [if_neg directory]
      split at found
      next void => rw [if_pos void]; exact ih found
      next not_void =>
        rw [if_neg not_void]
        split at found
        next up =>
          rw [if_pos up]
          split at found
          next => cases found
          next => exact ih found
        next not_up =>
          rw [if_neg not_up]
          split at found
          next => cases found
          next => exact follows _ _ _ _ found
          next => exact ih found

/-- What lies behind some segments lies behind a directory at each segment before. -/
theorem walk_append (links : Nat) {before after : List String} {place last : Place}
    (found : tree.walk links place (before ++ after) = some last) :
    ∃ middle, tree.walk links place before = some middle ∧
      (after ≠ [] → middle.node.isDirectory = true) := by
  -- Behind a link the walk starts anew, with the segments of its target in front of the others.
  induction links generalizing before place last with
  | zero => exact walkWith_append (fun _ _ _ _ none_found => by cases none_found) found
  | succ links ih =>
    refine walkWith_append (fun place target rest last followed => ?_) found
    rw [← List.append_assoc] at followed
    exact ih followed

theorem start?_path {location : Location} : tree.start? location.path = some ⟨[], tree.root⟩ := by
  have absolute : location.path.isAbsolute = true := by
    simp [Path.isAbsolute, Location.path, String.toList_append]
  rw [start?, if_pos absolute]
  rfl

theorem locate?_path {location : Location} (plain : location.Plain) :
    tree.locate? location.path =
      tree.walk linkLimit ⟨[], tree.root⟩ ("" :: location.segments) := by
  have nonempty : location.path.text.isEmpty = false := by simp [Location.path]
  rw [locate?, if_neg (by simp [nonempty]), start?_path, Location.split_path plain]

theorem walk_nil (links : Nat) (place : Place) : tree.walk links place [] = some place := by
  cases links <;> rfl

/-- An empty segment behind a directory changes nothing. -/
theorem walk_of_isVoid (links : Nat) {place : Place} (directory : place.node.isDirectory = true)
    {segment : String} (void : Path.isVoid segment = true) (rest : List String) :
    tree.walk links place (segment :: rest) = tree.walk links place rest := by
  cases links <;> simp [walk, walkWith, directory, void]

theorem walk_void (links : Nat) {place : Place} (directory : place.node.isDirectory = true)
    (rest : List String) : tree.walk links place ("" :: rest) = tree.walk links place rest :=
  walk_of_isVoid links directory rfl rest

/-- What holds a file is a directory. -/
theorem isDirectory_of_isFile_child {location : Location} (plain : location.Plain) {name : String}
    (plain_name : PlainName name) (file : tree.isFile (location.path.child name) = true) :
    tree.isDirectory location.path = true := by
  have inner_plain : Location.Plain (location ++ [name]) :=
    Location.plain_append.mpr ⟨plain, Location.plain_singleton.mpr plain_name⟩
  rw [Location.child_path plain plain_name, isFile, locate?_path inner_plain,
    Location.segments, if_neg (by simp)] at file
  obtain ⟨last, found, -⟩ := (Option.any_eq_true _ _).mp file
  rw [← List.cons_append] at found
  obtain ⟨middle, found_middle, directory⟩ := walk_append linkLimit found
  rw [isDirectory, locate?_path plain, Option.any_eq_true]
  by_cases empty : location = []
  · subst empty
    -- The path of the root has one more empty segment than there are names in front.
    have at_root : (⟨[], tree.root⟩ : Place).node.isDirectory = true := by
      have whole : tree.walk linkLimit ⟨[], tree.root⟩ ([] ++ ["", name]) = some last := found
      obtain ⟨_, started, is_directory⟩ := walk_append linkLimit whole
      rw [walk_nil] at started
      cases started
      exact is_directory (by simp)
    exact ⟨middle, (walk_void linkLimit at_root [""]).trans found_middle, directory (by simp)⟩
  · rw [Location.segments, if_neg empty]
    exact ⟨middle, found_middle, directory (by simp)⟩

/-! ### Where it ends -/

private theorem walkWith_plain {follow : Place → Path → List String → Option Place}
    {segments : List String}
    (follows : ∀ place target rest last, place.location.Plain →
      (∀ segment ∈ rest, '/' ∉ segment.toList) → follow place target rest = some last →
        last.location.Plain)
    (clean : ∀ segment ∈ segments, '/' ∉ segment.toList) {place last : Place}
    (plain : place.location.Plain) (found : tree.walkWith follow place segments = some last) :
    last.location.Plain := by
  induction segments generalizing place with
  | nil =>
    rw [walkWith] at found
    cases found
    exact plain
  | cons segment rest ih =>
    have rest_clean := fun other member => clean other (List.mem_cons_of_mem segment member)
    rw [walkWith] at found
    split at found
    next => cases found
    next =>
      split at found
      next => exact ih rest_clean plain found
      next not_void =>
        split at found
        next =>
          split at found
          next => cases found
          next =>
            have above_plain : Location.Plain place.location.dropLast := fun name member =>
              plain name ((List.dropLast_sublist place.location).subset member)
            exact ih rest_clean above_plain found
        next not_up =>
          split at found
          next => cases found
          next => exact follows _ _ _ _ plain rest_clean found
          next =>
            have name_plain : PlainName segment :=
              ⟨Bool.eq_false_iff.mpr not_void, not_up, clean segment List.mem_cons_self⟩
            have inner_plain := Location.plain_append.mpr
              ⟨plain, Location.plain_singleton.mpr name_plain⟩
            exact ih rest_clean inner_plain found

theorem walk_plain (links : Nat) {segments : List String}
    (clean : ∀ segment ∈ segments, '/' ∉ segment.toList) {place last : Place}
    (plain : place.location.Plain) (found : tree.walk links place segments = some last) :
    last.location.Plain := by
  induction links generalizing segments place last with
  | zero =>
    exact walkWith_plain (fun _ _ _ _ _ _ none_found => by cases none_found) clean plain found
  | succ links ih =>
    refine walkWith_plain (fun place target rest last place_plain rest_clean followed => ?_)
      clean plain found
    -- The segments of a target are cut at slashes like those of the path.
    have all_clean : ∀ segment ∈ Text.split '/' target.text ++ rest, '/' ∉ segment.toList := by
      intro segment member
      rcases List.mem_append.mp member with inside | after
      · exact Text.not_mem_of_mem_split inside
      · exact rest_clean segment after
    refine ih all_clean ?_ followed
    split
    next => exact Location.plain_nil
    next => exact place_plain

/-- What a path leads to has a location of plain names. -/
theorem locate?_plain (here : tree.here.Plain) {path : Path} {place : Place}
    (found : tree.locate? path = some place) : place.location.Plain := by
  unfold locate? at found
  split at found
  next => cases found
  next =>
    split at found
    next => cases found
    next start started =>
      refine walk_plain linkLimit (fun _ member => Text.not_mem_of_mem_split member) ?_ found
      obtain ⟨node, -, rfl⟩ := Option.map_eq_some_iff.mp started
      dsimp only
      split
      next => exact Location.plain_nil
      next => exact here

end PackageAtlas.FileTree
