import PackageAtlas.FileTree.Change
import PackageAtlas.Proofs.FileTree.Shapes
import PackageAtlas.Proofs.FileTree.Spelling
import PackageAtlas.Proofs.Project.SingleNames

/-!
# Saving files in a directory

A file is written among the entries of a directory, and nothing that was there goes away. So as many
files as one likes can be saved there, one after the other.
-/
namespace PackageAtlas

namespace FileTree

variable {tree first second : FileTree}

/-! ### Paths that ask for a directory -/

private theorem walkWith_closed {follow : Place → Path → List String → Option Place} {void : String}
    (is_void : Path.isVoid void = true)
    (follows : ∀ place target rest, follow place target (rest ++ [void]) =
      (follow place target rest).filter (·.node.isDirectory))
    (segments : List String) (place : Place) :
    tree.walkWith follow place (segments ++ [void]) =
      (tree.walkWith follow place segments).filter (·.node.isDirectory) := by
  induction segments generalizing place with
  | nil =>
    rw [List.nil_append, walkWith, walkWith, if_pos is_void, walkWith, Option.filter_some]
    cases place.node.isDirectory <;> rfl
  | cons segment rest ih =>
    rw [List.cons_append, walkWith, walkWith]
    simp only [ih, follows]
    split
    next => rfl
    next =>
      split
      next => rfl
      next =>
        split
        next => split <;> rfl
        next => split <;> rfl

/-- A void segment at the end lets directories through. -/
theorem walk_closed (links : Nat) {void : String} (is_void : Path.isVoid void = true)
    (segments : List String) (place : Place) :
    tree.walk links place (segments ++ [void]) =
      (tree.walk links place segments).filter (·.node.isDirectory) := by
  induction links generalizing segments place with
  | zero => exact walkWith_closed is_void (fun _ _ _ => rfl) segments place
  | succ links ih =>
    refine walkWith_closed is_void (fun place target rest => ?_) segments place
    dsimp only
    rw [← List.append_assoc, ih]

theorem locate?_closed {path : Path} (nonempty : path.text ≠ "") :
    tree.locate? (path.child ".") = (tree.locate? path).filter (·.node.isDirectory) := by
  have walk_eq (place : Place) : tree.walk linkLimit place (path.steps ++ ["."]) =
      (tree.walk linkLimit place (Text.split '/' path.text)).filter (·.node.isDirectory) := by
    rw [← walk_closed linkLimit (rfl : Path.isVoid "." = true)]
    exact (walk_steps linkLimit (List.cons_ne_nil "." []) [] _ place).symm
  rw [Path.child, locate?_join nonempty rfl, locate?_eq_bind nonempty]
  cases tree.start? path with
  | none => rfl
  | some place => exact walk_eq place

/-- A directory is found by all paths of the same components. -/
theorem locate?_of_same {a b : Path} (same : a.Same b) {place : Place}
    (found : tree.locate? b = some place) (directory : place.node.isDirectory = true) :
    tree.locate? a = some place := by
  have nonempty := nonempty_of_locate? found
  -- Paths of the same components lead alike once a void segment closes both.
  have closed : tree.locate? (a.child ".") = tree.locate? (b.child ".") := same.locate?_child "."
  rw [locate?_closed (mt same.text_eq_empty_iff.mp nonempty), locate?_closed nonempty, found,
    Option.filter_some, if_pos directory] at closed
  exact (Option.filter_eq_some_iff.mp closed).1

/-! ### Trees that have more -/

/-- Whether all that is in one tree is in another one as well, the texts of files left out. -/
structure Extends (first second : FileTree) : Prop where
  here : first.here = second.here
  shapes {location : Location} {node : Node} : first.node? location = some node →
    ∃ other, second.node? location = some other ∧ other.shape = node.shape

theorem Twin.shape_of_extends (extends_ : Extends first second) {a b : Place}
    (twin : Twin first second a b) : b.node.shape = a.node.shape := by
  obtain ⟨other, there, same⟩ := extends_.shapes twin.at_first
  rw [twin.location, twin.at_second] at there
  cases there
  exact same

private theorem Extends.walkWith (extends_ : Extends first second)
    {follow other : Place → Path → List String → Option Place}
    (follows : ∀ a b target rest last, Twin first second a b → follow a target rest = some last →
      ∃ twin_last, other b target rest = some twin_last ∧ Twin first second last twin_last)
    {segments : List String} {a b last : Place} (twin : Twin first second a b)
    (found : first.walkWith follow a segments = some last) :
    ∃ twin_last, second.walkWith other b segments = some twin_last ∧
      Twin first second last twin_last := by
  induction segments generalizing a b with
  | nil =>
    rw [FileTree.walkWith] at found
    cases found
    exact ⟨b, rfl, twin⟩
  | cons segment rest ih =>
    have shape := twin.shape_of_extends extends_
    rw [FileTree.walkWith] at found
    rw [FileTree.walkWith, Node.isDirectory_congr shape]
    split at found
    next => cases found
    next directory =>
      rw [if_neg directory]
      split at found
      next void => rw [if_pos void]; exact ih twin found
      next not_void =>
        rw [if_neg not_void]
        split at found
        next up =>
          rw [if_pos up]
          split at found
          next => cases found
          next above at_first =>
            obtain ⟨other_above, at_second, -⟩ := extends_.shapes at_first
            rw [twin.location] at at_second
            rw [at_second]
            exact ih ⟨by rw [twin.location], at_first, at_second⟩ found
        next not_up =>
          rw [if_neg not_up]
          have inner {child : Node} (present : a.node.child? segment = some child) :
              ∃ twin_child, b.node.child? segment = some twin_child ∧
                twin_child.shape = child.shape ∧
                Twin first second ⟨a.location ++ [segment], child⟩
                  ⟨b.location ++ [segment], twin_child⟩ := by
            have at_first : first.node? (a.location ++ [segment]) = some child := by
              rw [node?_concat, twin.at_first]
              exact present
            obtain ⟨twin_child, at_second, same⟩ := extends_.shapes at_first
            have there := at_second
            rw [twin.location] at at_second
            rw [twin.location, node?_concat, twin.at_second] at there
            exact ⟨twin_child, there, same, by rw [twin.location], at_first, at_second⟩
          split at found
          next => cases found
          next target present =>
            obtain ⟨twin_child, present_there, same, -⟩ := inner present
            rw [present_there]
            cases twin_child <;> cases same
            exact follows _ _ _ _ _ twin found
          next child not_target present =>
            obtain ⟨twin_child, present_there, same, below⟩ := inner present
            rw [present_there]
            cases child <;> cases twin_child <;> cases same
            · exact ih below found
            · exact ih below found
            · exact absurd rfl (not_target _)

private theorem Extends.walk (extends_ : Extends first second) (links : Nat)
    {segments : List String} {a b last : Place} (twin : Twin first second a b)
    (found : first.walk links a segments = some last) :
    ∃ twin_last, second.walk links b segments = some twin_last ∧
      Twin first second last twin_last := by
  induction links generalizing a b last segments with
  | zero => exact extends_.walkWith (fun _ _ _ _ _ _ none_found => by cases none_found) twin found
  | succ links ih =>
    refine extends_.walkWith (fun a b target rest last twin followed => ?_) twin found
    dsimp only at followed ⊢
    by_cases absolute : target.isAbsolute = true
    · have roots : Twin first second ⟨[], first.root⟩ ⟨[], second.root⟩ := ⟨rfl, rfl, rfl⟩
      rw [if_pos absolute] at followed ⊢
      exact ih roots followed
    · rw [if_neg absolute] at followed ⊢
      exact ih twin followed

/-- What a path leads to is there in a tree that has more. -/
theorem Extends.locate? (extends_ : Extends first second) {path : Path} {place : Place}
    (found : first.locate? path = some place) :
    ∃ other, second.locate? path = some other ∧ Twin first second place other := by
  have nonempty := nonempty_of_locate? found
  rw [locate?_eq_bind nonempty] at found
  obtain ⟨start, started, walked⟩ := Option.bind_eq_some_iff.mp found
  obtain ⟨node, at_first, rfl⟩ := Option.map_eq_some_iff.mp started
  obtain ⟨other, at_second, -⟩ := extends_.shapes at_first
  have twin : Twin first second ⟨_, node⟩ ⟨_, other⟩ := ⟨rfl, at_first, at_second⟩
  rw [locate?_eq_bind nonempty, start?, ← extends_.here, at_second]
  exact extends_.walk linkLimit twin walked

/-! ### One more file -/

/-- A file among the entries of a directory changes nothing else, but for what was in its place. -/
theorem Node.at?_replace_entry {node : Node} {around : Location} {name : String}
    {entries : List (String × Node)} (found : node.at? around = some (.directory entries))
    (free : ∀ old, entries.lookup name = some old → old.isFile = true) (text : Option String)
    (location : Location) :
    ((node.replace (some (.file text)) (around ++ [name])).at? location).map shape =
      if location = around ++ [name] then some .file else (node.at? location).map shape := by
  induction around generalizing node location with
  | nil =>
    cases found
    rw [List.nil_append, replace]
    cases location with
    | nil => rfl
    | cons first others =>
      rw [at?, at?, child?, child?, lookup_setEntry]
      by_cases same : first = name
      · subst same
        rw [if_pos rfl]
        cases others with
        | nil => simp [at?, shape]
        | cons second rest =>
          -- Nothing was below the file, or below the place where it stands now.
          rw [if_neg (by simp)]
          cases before : entries.lookup first with
          | none => rfl
          | some old =>
            have is_file := free old before
            cases old <;> cases is_file
            rfl
      · rw [if_neg same, if_neg (by simp [same])]
  | cons next rest ih =>
    rw [at?] at found
    split at found
    next => cases found
    next child present =>
      obtain ⟨siblings, rfl, -⟩ := mem_of_child? present
      rw [List.cons_append, replace_cons present]
      cases location with
      | nil => rfl
      | cons first others =>
        rw [at?, at?, child?, child?, lookup_setEntry]
        by_cases same : first = next
        · subst same
          have there : siblings.lookup first = some child := present
          rw [if_pos rfl, there]
          have inner := ih found others
          simpa using inner
        · rw [if_neg same, if_neg (by simp [same])]

/-- A directory of a sound tree in which files of some names can be written. -/
structure Receives (tree : FileTree) (base : Path) (names : List String) : Prop where
  sound : tree.Sound
  names_plain {name : String} : name ∈ names → PlainName name ∧ isEntryName name = true
  directory : ∃ place, tree.locate? base = some place ∧ place.node.isDirectory = true ∧
    ∀ name ∈ names, ∀ node, tree.node? (place.location ++ [name]) = some node →
      node.isFile = true

variable {base : Path} {names : List String} {name : String}

/-- The directory of an entry is there already, spelled as the parent of the entry's path. -/
theorem exists_parent_child {place : Place} (found : tree.locate? base = some place)
    (directory : place.node.isDirectory = true) (plain : PlainName name) :
    ∃ parent, (base.child name).parent? = some parent ∧ tree.locate? parent = some place := by
  have components_eq := SingleName.components_child base plain.components
  rcases (base.child name).parent?_cases with ⟨-, few⟩ | ⟨parent, last, parent_eq, cut, -⟩
  · rw [components_eq] at few
    rcases few with empty | alone
    · simp at empty
    · have last := congrArg List.getLast? alone
      simp at last
  · refine ⟨parent, parent_eq, locate?_of_same ?_ found directory⟩
    exact (List.append_inj' (cut.symm.trans components_eq) rfl).1

theorem entry?_child {place : Place} (found : tree.locate? base = some place)
    (directory : place.node.isDirectory = true) (plain : PlainName name)
    (fits : isEntryName name = true) :
    tree.entry? (base.child name) = some (place.location ++ [name]) := by
  obtain ⟨parent, parent_eq, parent_found⟩ := exists_parent_child found directory plain
  have called : (base.child name).fileName? = some name := by
    simp [Path.fileName?, SingleName.components_child base plain.components]
  have nonempty := nonempty_of_locate? parent_found
  unfold entry?
  simp [called, parent_eq, nonempty, parent_found, directory, fits]

/-- Saving in a directory writes the entry, unless something else than a file stands there. -/
theorem save?_child {place : Place} (found : tree.locate? base = some place)
    (directory : place.node.isDirectory = true) (plain : PlainName name)
    (fits : isEntryName name = true)
    (free : ∀ node, tree.node? (place.location ++ [name]) = some node → node.isFile = true)
    (text : Option String) :
    tree.save? (base.child name) text =
      some (tree.insert (place.location ++ [name]) (.file text)) := by
  obtain ⟨parent, parent_eq, parent_found⟩ := exists_parent_child found directory plain
  have there : tree.isDirectory parent = true := by
    rw [isDirectory, parent_found]
    exact directory
  -- The directory is there, so none is made.
  have made : tree.makeDirectories? parent = some tree := by
    obtain ⟨outer, lineage_eq⟩ : ∃ outer, parent.lineage = parent :: outer := by
      unfold Path.lineage
      cases parent.components.length with
      | zero => exact ⟨[], rfl⟩
      | succ bound => rw [Path.lineageWithin]; split <;> exact ⟨_, rfl⟩
    rw [makeDirectories?, lineage_eq, makeAlong, there, Bool.or_true, if_pos rfl]
  have destination :
      tree.destinationWithin linkLimit (base.child name) = some (place.location ++ [name]) := by
    rw [linkLimit, destinationWithin, entry?_child found directory plain fits]
    dsimp only [Option.bind_eq_bind, Option.bind_some]
    cases here : tree.node? (place.location ++ [name]) with
    | none => rfl
    | some node =>
      have is_file := free node here
      cases node <;> cases is_file
      rfl
  simp [save?, parent_eq, made, write?, destination]

/-- Whether two trees are of one shape but for a file that is in the second one. -/
structure HasAlso (file : Location) (first second : FileTree) : Prop where
  here : first.here = second.here
  shapes (location : Location) : (second.node? location).map Node.shape =
    if location = file then some .file else (first.node? location).map Node.shape
  free {node : Node} : first.node? file = some node → node.isFile = true

theorem hasAlso_insert {around : Location} {node : Node} (found : tree.node? around = some node)
    (directory : node.isDirectory = true)
    (free : ∀ old, tree.node? (around ++ [name]) = some old → old.isFile = true)
    (text : Option String) :
    HasAlso (around ++ [name]) tree (tree.insert (around ++ [name]) (.file text)) where
  here := rfl
  free := free _
  shapes location := by
    cases node with
    | file text => cases directory
    | link target => cases directory
    | directory entries =>
      refine Node.at?_replace_entry found (fun old present => free old ?_) text location
      rw [node?_concat, found]
      exact present

namespace HasAlso

variable {file : Location} (also : HasAlso file first second)

include also

theorem extends_ : Extends first second := by
  refine ⟨also.here, fun {location node} found => ?_⟩
  have shape := also.shapes location
  by_cases same : location = file
  · have is_file := Node.isFile_iff_shape.mp (also.free (same ▸ found))
    rw [if_pos same] at shape
    rw [is_file]
    exact Option.map_eq_some_iff.mp shape
  · rw [if_neg same, found] at shape
    exact Option.map_eq_some_iff.mp shape

theorem isFile_of_node? {location : Location} {node : Node}
    (found : second.node? location = some node)
    (before : ∀ old, first.node? location = some old → old.isFile = true) :
    node.isFile = true := by
  have shape := also.shapes location
  rw [found, Option.map_some] at shape
  rw [Node.isFile_iff_shape]
  split at shape
  next => exact Option.some.inj shape
  next =>
    obtain ⟨old, there, same⟩ := Option.map_eq_some_iff.mp shape.symm
    rw [← same]
    exact Node.isFile_iff_shape.mp (before old there)

theorem sound (sound : first.Sound) (plain : file.Plain) : second.Sound where
  rooted := by
    have at_root : first.node? [] = some first.root := rfl
    obtain ⟨root, found, shape⟩ := also.extends_.shapes at_root
    cases found
    rw [Node.isDirectory_congr shape]
    exact sound.rooted
  plain {location node} found := by
    by_cases same : location = file
    · exact same ▸ plain
    · have shape := also.shapes location
      rw [if_neg same, found] at shape
      obtain ⟨old, there, -⟩ := Option.map_eq_some_iff.mp shape.symm
      exact sound.plain there

end HasAlso

/-- A directory that receives files can receive more of them when one is saved. -/
theorem Receives.save (receives : tree.Receives base names) (member : name ∈ names)
    (text : Option String) :
    ∃ after, tree.save? (base.child name) text = some after ∧ after.Receives base names := by
  obtain ⟨⟨around, node⟩, found, directory, free⟩ := receives.directory
  obtain ⟨plain, fits⟩ := receives.names_plain member
  refine ⟨_, save?_child found directory plain fits (free name member) text, ?_⟩
  have at_around := (receives.sound.node?_of_locate? found).1
  have also := hasAlso_insert at_around directory (free name member) text
  -- The directory is found again by the same path, at the same place.
  obtain ⟨⟨location, twin_node⟩, found_after, twin⟩ := also.extends_.locate? found
  obtain rfl : around = location := twin.location
  exact {
    sound := also.sound receives.sound
      (Location.plain_concat.mpr ⟨receives.sound.plain at_around, plain⟩)
    names_plain := receives.names_plain
    directory := ⟨_, found_after,
      (Node.isDirectory_congr (twin.shape_of_extends also.extends_)).trans directory,
      fun other among node there => also.isFile_of_node? there (free other among)⟩ }

end FileTree

end PackageAtlas
