import PackageAtlas.Proofs.FileTree.Nodes
import PackageAtlas.Proofs.FileTree.Spelling

/-!
# Paths inside of a directory without links

Where no links are, a path that does not lead up is followed step by step, and what it leads to lies
below the directory that it is seen from. A void segment at its end asks for a directory.
-/
namespace PackageAtlas

namespace Path

/-- Whether segments end in a void one, as they do where a slash closes a path. -/
def endsVoid (segments : List String) : Bool :=
  segments.getLast?.any isVoid

/-- Whether a path is spelled in a way that only a directory can be found by it. -/
def AsksDirectory (path : Path) : Prop :=
  endsVoid (Text.split '/' path.text) = true

instance (path : Path) : Decidable path.AsksDirectory :=
  inferInstanceAs (Decidable (_ = true))

/-- Whether a path leads to something inside of the directory that it is seen from. -/
structure Inward (path : Path) : Prop where
  relative : path.isAbsolute = false
  not_up : ".." ∉ path.steps

theorem plain_steps {path : Path} (not_up : ".." ∉ path.steps) : Location.Plain path.steps := by
  intro name member
  obtain ⟨segment, not_void⟩ := List.mem_filter.mp member
  refine ⟨by simpa using not_void, ?_, Text.not_mem_of_mem_split segment⟩
  rintro rfl
  exact not_up member

theorem endsVoid_cons (segment : String) {rest : List String} (more : rest ≠ []) :
    endsVoid (segment :: rest) = endsVoid rest := by
  rw [endsVoid, endsVoid, List.getLast?_cons_of_ne_nil more]

theorem endsVoid_of_filter_nil {segments : List String} (nonempty : segments ≠ [])
    (void : segments.filter (!isVoid ·) = []) : endsVoid segments = true := by
  rw [endsVoid, List.getLast?_eq_some_getLast nonempty, Option.any_some]
  simpa using List.filter_eq_nil_iff.mp void _ (List.getLast_mem nonempty)

theorem endsVoid_of_plain {names : Location} (plain : names.Plain) : endsVoid names = false := by
  cases last : names.getLast? with
  | none => rw [endsVoid, last, Option.any_none]
  | some name =>
    have name_plain := plain name (List.mem_of_getLast? last)
    rw [endsVoid, last, Option.any_some, name_plain.not_void]

theorem filter_plain {names : Location} (plain : names.Plain) :
    names.filter (!isVoid ·) = names :=
  List.filter_eq_self.mpr fun name member => by simp [(plain name member).not_void]

theorem spells_path {location : Location} (plain : location.Plain) :
    location.path.Spells location where
  absolute := by simp [isAbsolute, Location.path, String.toList_append]
  steps_eq := by
    rw [steps, Location.split_path plain, List.filter_cons_of_neg (by decide), Location.segments]
    split
    next empty => rw [empty]; rfl
    next => exact filter_plain plain

end Path

namespace FileTree

/-- Whether neither a node nor anything below it is a link. -/
def Node.Linkless (node : Node) : Prop :=
  ∀ inner target, node.at? inner ≠ some (.link target)

variable {tree : FileTree}

theorem Node.Linkless.isLink {node : Node} (linkless : node.Linkless) : node.isLink = false := by
  cases node with
  | link target => exact absurd rfl (linkless [] target)
  | directory entries => rfl
  | file text => rfl

theorem Node.Linkless.child {node child : Node} {name : String} (linkless : node.Linkless)
    (present : node.child? name = some child) : child.Linkless := by
  intro inner target found
  apply linkless (name :: inner) target
  rw [at?, present]
  exact found

theorem linkless_file (text : Option String) : (Node.file text).Linkless := by
  intro inner target found
  cases inner <;> cases found

theorem linkless_directory {entries : List (String × Node)}
    (linkless : ∀ entry ∈ entries, entry.2.Linkless) : (Node.directory entries).Linkless := by
  intro inner target found
  cases inner with
  | nil => cases found
  | cons name rest =>
    rw [Node.at?] at found
    split at found
    next absent => cases found
    next child present =>
      obtain ⟨others, same, among⟩ := Node.mem_of_child? present
      cases same
      exact linkless _ among rest target found

private theorem walkWith_linkless {follow : Place → Path → List String → Option Place}
    {segments : List String} (not_up : ".." ∉ segments) {place : Place}
    (linkless : place.node.Linkless) :
    tree.walkWith follow place segments =
      ((place.node.at? (segments.filter (!Path.isVoid ·))).filter fun last =>
        !Path.endsVoid segments || last.isDirectory).map
          (⟨place.location ++ segments.filter (!Path.isVoid ·), ·⟩) := by
  induction segments generalizing place with
  | nil => simp [walkWith, Node.at?, Path.endsVoid, Option.filter_some]
  | cons segment rest ih =>
    have not_here : segment ≠ ".." := fun up => not_up (up ▸ List.mem_cons_self)
    have not_later : ".." ∉ rest := fun later => not_up (List.mem_cons_of_mem _ later)
    rw [walkWith]
    by_cases directory : place.node.isDirectory
    · rw [if_neg (by simp [directory])]
      by_cases void : Path.isVoid segment
      · -- A void segment stays in the directory.
        rw [if_pos void, ih not_later linkless, List.filter_cons_of_neg (by simp [void])]
        by_cases last : rest = []
        · simp [last, Node.at?, directory, Option.filter_some]
        · rw [Path.endsVoid_cons segment last]
      · rw [if_neg void, if_neg not_here, List.filter_cons_of_pos (by simp [void]), Node.at?]
        have ends : Path.endsVoid (segment :: rest) = Path.endsVoid rest := by
          by_cases last : rest = []
          · simp [last, Path.endsVoid, void]
          · exact Path.endsVoid_cons segment last
        cases present : place.node.child? segment with
        | none => rfl
        | some child =>
          have inner := linkless.child present
          have onward : tree.walkWith follow ⟨place.location ++ [segment], child⟩ rest = _ :=
            ih not_later inner
          rw [List.append_assoc, List.singleton_append, ← ends] at onward
          cases child with
          | link target => exact absurd inner.isLink (by simp [Node.isLink])
          | directory entries => exact onward
          | file text => exact onward
    · rw [if_pos (by simp [directory])]
      cases steps : (segment :: rest).filter (!Path.isVoid ·) with
      | nil =>
        -- Without a step the path asks for this node to be a directory.
        have asks := Path.endsVoid_of_filter_nil (List.cons_ne_nil segment rest) steps
        simp [Node.at?, asks, directory, Option.filter_some]
      | cons name others =>
        have absent : place.node.child? name = none := by
          rw [Option.eq_none_iff_forall_ne_some]
          intro child present
          exact directory (Node.isDirectory_of_child? present)
        rw [Node.at?, absent]
        rfl

theorem walk_linkless (links : Nat) {segments : List String} (not_up : ".." ∉ segments)
    {place : Place} (linkless : place.node.Linkless) :
    tree.walk links place segments =
      ((place.node.at? (segments.filter (!Path.isVoid ·))).filter fun last =>
        !Path.endsVoid segments || last.isDirectory).map
          (⟨place.location ++ segments.filter (!Path.isVoid ·), ·⟩) := by
  cases links <;> exact walkWith_linkless not_up linkless

variable {around : Location} {node : Node}

/-- What a path leads to from a directory without links. -/
theorem Sound.locate?_join (sound : tree.Sound) (found : tree.node? around = some node)
    (linkless : node.Linkless) {entry : Path} (inward : entry.Inward) :
    tree.locate? (around.path.join entry) =
      ((tree.node? (around ++ entry.steps)).filter fun last =>
        !Path.endsVoid (Text.split '/' entry.text) || last.isDirectory).map
          (⟨around ++ entry.steps, ·⟩) := by
  have spells := Path.spells_path (sound.plain found)
  have not_up : ".." ∉ Text.split '/' entry.text := by
    intro member
    apply inward.not_up
    exact List.mem_filter.mpr ⟨member, by decide⟩
  have at_around : (⟨[], tree.root⟩ : Place).node.at? around = some node := found
  have started : tree.start? around.path = some ⟨[], tree.root⟩ := by
    rw [start?, if_pos spells.absolute]
    rfl
  rw [FileTree.locate?_join (Path.nonempty_of_isAbsolute spells.absolute) inward.relative, started,
    Option.bind_some, spells.steps_eq,
    walk_names_append linkLimit _ (sound.plain found) at_around linkless.isLink,
    walk_linkless linkLimit not_up linkless, node?_append, found]
  rfl

/-- The path of a location in a directory without links leads there, or nowhere. -/
theorem Sound.locate?_inside (sound : tree.Sound) (found : tree.node? around = some node)
    (linkless : node.Linkless) {inner : Location} (plain : inner.Plain) :
    tree.locate? (Location.path (around ++ inner)) =
      (tree.node? (around ++ inner)).map (⟨around ++ inner, ·⟩) := by
  have around_plain := sound.plain found
  have at_around : (⟨[], tree.root⟩ : Place).node.at? around = some node := found
  have not_up : ".." ∉ inner := fun member => (plain _ member).not_up rfl
  have rooted : (⟨[], tree.root⟩ : Place).node.isDirectory = true := sound.rooted
  rw [FileTree.locate?_path (Location.plain_append.mpr ⟨around_plain, plain⟩),
    walk_void linkLimit rooted, Location.segments]
  split
  next empty =>
    -- The path of the root has an empty segment where others have names.
    obtain ⟨rfl, rfl⟩ := List.append_eq_nil_iff.mp empty
    rw [walk_void linkLimit rooted, walk_nil]
    rfl
  next =>
    rw [walk_names_append linkLimit _ around_plain at_around linkless.isLink,
      walk_linkless linkLimit not_up linkless, Path.filter_plain plain,
      Path.endsVoid_of_plain plain, node?_append, found, Option.bind_some]
    cases node.at? inner <;> simp [Option.filter_some]

/-- A path leads where its steps do, unless it asks for a directory where a file is. -/
theorem Sound.locate?_entry (sound : tree.Sound) (found : tree.node? around = some node)
    (linkless : node.Linkless) {entry : Path} (inward : entry.Inward) :
    tree.locate? (around.path.join entry) =
      if entry.AsksDirectory ∧ tree.isFile (Location.path (around ++ entry.steps)) = true then none
      else (tree.node? (around ++ entry.steps)).map (⟨around ++ entry.steps, ·⟩) := by
  have plain := Path.plain_steps inward.not_up
  rw [sound.locate?_join found linkless inward, isFile, sound.locate?_inside found linkless plain]
  cases last_eq : tree.node? (around ++ entry.steps) with
  | none => simp
  | some last =>
    cases last with
    | directory entries =>
      simp [Option.filter_some, Node.isDirectory, Node.isFile]
    | file text =>
      by_cases asks : entry.AsksDirectory
      · have void : Path.endsVoid (Text.split '/' entry.text) = true := asks
        simp [asks, void, Option.filter_some, Node.isDirectory, Node.isFile]
      · have not_void : Path.endsVoid (Text.split '/' entry.text) = false :=
          Bool.not_eq_true _ ▸ asks
        simp [asks, not_void, Option.filter_some]
    | link target =>
      rw [node?_append, found] at last_eq
      exact absurd last_eq (linkless entry.steps target)

end FileTree

/-! ### Entries of what is found -/

namespace Path

theorem text_child_ne_empty (path : Path) {name : String} (plain : PlainName name) :
    (path.child name).text ≠ "" := by
  intro empty
  obtain ⟨-, rfl⟩ := (text_child_eq_empty path name plain.relative).mp empty
  exact absurd plain.not_void (by decide)

/-- The entry of a directory is one more segment, which takes the place of a void one at the end. -/
theorem split_child {path : Path} (nonempty : path.text ≠ "") {name : String}
    (plain : PlainName name) :
    (path.child name).isAbsolute = path.isAbsolute ∧
      ∃ segments, Text.split '/' (path.child name).text = segments ++ [name] ∧
        (Text.split '/' path.text = segments ∨ Text.split '/' path.text = segments ++ [""]) := by
  have whole : Text.split '/' name = [name] := by
    have clean : ∀ other ∈ [name], '/' ∉ other.toList := by simpa using plain.no_slash
    have row := Text.split_join (List.cons_ne_nil name []) clean
    rwa [Text.join_singleton] at row
  rw [← whole]
  exact split_join nonempty plain.relative

end Path

namespace FileTree

variable {tree : FileTree}

theorem Node.exists_text {node : Node} (is_file : node.isFile = true) :
    ∃ text, node = .file text := by
  cases node with
  | file text => exact ⟨text, rfl⟩
  | directory entries => cases is_file
  | link target => cases is_file

private theorem walkWith_onward {follow : Place → Path → List String → Option Place}
    (linkless : tree.root.Linkless) {before : List String} {place middle : Place}
    (at_place : tree.node? place.location = some place.node)
    (found : tree.walkWith follow place before = some middle) (after : List String) :
    tree.walkWith follow place (before ++ after) = tree.walkWith follow middle after := by
  induction before generalizing place with
  | nil =>
    rw [walkWith] at found
    cases found
    rfl
  | cons segment rest ih =>
    rw [List.cons_append, walkWith]
    rw [walkWith] at found
    split at found
    next => cases found
    next directory =>
      rw [if_neg directory]
      split at found
      next void => rw [if_pos void]; exact ih at_place found
      next not_void =>
        rw [if_neg not_void]
        split at found
        next up =>
          rw [if_pos up]
          split at found
          next => cases found
          next above at_above => exact ih at_above found
        next not_up =>
          rw [if_neg not_up]
          have at_child {child : Node} (present : place.node.child? segment = some child) :
              tree.node? (place.location ++ [segment]) = some child := by
            rw [node?_concat, at_place]
            exact present
          split at found
          next => cases found
          -- Only at a link would the walk depend on what is left of it.
          next target present => exact absurd (at_child present) (linkless _ target)
          next child _ present => exact ih (at_child present) found

/-- Without links, a walk goes on from where it has come to. -/
theorem walk_onward (linkless : tree.root.Linkless) (links : Nat) {before : List String}
    {place middle : Place} (at_place : tree.node? place.location = some place.node)
    (found : tree.walk links place before = some middle) (after : List String) :
    tree.walk links place (before ++ after) = tree.walk links middle after := by
  cases links <;> exact walkWith_onward linkless at_place found after

theorem linkless_node? (linkless : tree.root.Linkless) {location : Location} {node : Node}
    (found : tree.node? location = some node) : node.Linkless := by
  intro inner target below
  apply linkless (location ++ inner) target
  have at_inner : tree.node? (location ++ inner) = some (.link target) := by
    rw [node?_append, found]
    exact below
  exact at_inner

/-- The entry of a directory is walked to through the segments of the directory, of which a void one
at the end is left out. -/
theorem exists_segments_child (tree : FileTree) {path : Path} (nonempty : path.text ≠ "")
    {name : String} (plain : PlainName name) :
    ∃ segments,
      (Text.split '/' path.text = segments ∨ Text.split '/' path.text = segments ++ [""]) ∧
        tree.locate? (path.child name) =
          (tree.start? path).bind (tree.walk linkLimit · (segments ++ [name])) := by
  obtain ⟨same_start, segments, child_cut, cut⟩ := Path.split_child nonempty plain
  refine ⟨segments, cut, ?_⟩
  rw [locate?_eq_bind (path.text_child_ne_empty plain), child_cut, start?, same_start]
  rfl

/-- Without links, what has an entry is there itself. -/
theorem exists_place_of_child (linkless : tree.root.Linkless) {path : Path}
    (nonempty : path.text ≠ "") {name : String} (plain : PlainName name) {last : Place}
    (found : tree.locate? (path.child name) = some last) :
    ∃ place, tree.locate? path = some place := by
  obtain ⟨segments, cut, child_eq⟩ := exists_segments_child tree nonempty plain
  rw [child_eq] at found
  obtain ⟨start, started, walked⟩ := Option.bind_eq_some_iff.mp found
  obtain ⟨node, at_start, rfl⟩ := Option.map_eq_some_iff.mp started
  obtain ⟨middle, reached, directory⟩ := walk_append linkLimit walked
  refine ⟨middle, ?_⟩
  rw [locate?_eq_bind nonempty, started, Option.bind_some]
  rcases cut with same | closed
  · rw [same, reached]
  · rw [closed, walk_onward linkless linkLimit at_start reached,
      walk_void linkLimit (directory (List.cons_ne_nil name [])), walk_nil]

/-- Without links, the entry of a place is the child that it has. -/
theorem Sound.locate?_child (sound : tree.Sound) (linkless : tree.root.Linkless) {path : Path}
    {place : Place} (found : tree.locate? path = some place) {name : String}
    (plain : PlainName name) :
    tree.locate? (path.child name) =
      (place.node.child? name).map (⟨place.location ++ [name], ·⟩) := by
  have nonempty := nonempty_of_locate? found
  have at_place := (sound.node?_of_locate? found).1
  obtain ⟨segments, cut, child_eq⟩ := exists_segments_child tree nonempty plain
  rw [locate?_eq_bind nonempty] at found
  obtain ⟨start, started, walked⟩ := Option.bind_eq_some_iff.mp found
  obtain ⟨node, at_start, rfl⟩ := Option.map_eq_some_iff.mp started
  -- A slash at the end asks for a directory, as the entry does.
  have onward := walk_onward linkless linkLimit at_start walked [name]
  have same_way (start : Place) : tree.walk linkLimit start (segments ++ [name]) =
      tree.walk linkLimit start (Text.split '/' path.text ++ [name]) := by
    rcases cut with same | closed
    · rw [same]
    · rw [closed, List.append_assoc, List.singleton_append,
        walk_void_between linkLimit rfl (List.cons_ne_nil name [])]
  have names_plain := Location.plain_singleton.mpr plain
  have not_up : ".." ∉ [name] := fun member => (names_plain _ member).not_up rfl
  rw [child_eq, started, Option.bind_some, same_way, onward,
    walk_linkless linkLimit not_up (linkless_node? linkless at_place),
    Path.filter_plain names_plain, Path.endsVoid_of_plain names_plain, Node.at?_singleton]
  cases place.node.child? name <;> simp [Option.filter_some]

/-- The path of a place leads nowhere only if it asks for a directory that is none. -/
theorem Sound.asksDirectory_of_missing (sound : tree.Sound) {location : Location} {node : Node}
    (found : tree.node? location = some node) (no_link : node.isLink = false) {path : Path}
    (same : path.Same location.path) (missing : tree.locate? path = none) :
    path.AsksDirectory ∧ node.isDirectory = false := by
  have plain := sound.plain found
  have spells := (Path.spells_path plain).of_same same
  have started : tree.start? path = some ⟨[], tree.root⟩ := by
    rw [start?, if_pos spells.absolute]
    rfl
  have at_location : (⟨[], tree.root⟩ : Place).node.at? location = some node := found
  obtain ⟨before, last, cut⟩ : ∃ before last, Text.split '/' path.text = before ++ [last] :=
    ⟨_, _, (List.dropLast_append_getLast (Text.split_ne_nil '/' path.text)).symm⟩
  have steps_eq := spells.steps_eq
  rw [Path.steps, cut, List.filter_append] at steps_eq
  rw [locate?_eq_bind (Path.nonempty_of_isAbsolute spells.absolute), started, Option.bind_some, cut,
    ← List.nil_append before, walk_steps linkLimit (List.cons_ne_nil last []),
    List.nil_append] at missing
  rw [Path.AsksDirectory, Path.endsVoid, cut, List.getLast?_concat, Option.any_some]
  -- The way to the place is there, so the last segment has to fail.
  by_cases void : Path.isVoid last
  · rw [List.filter_cons_of_neg (by simp [void]), List.filter_nil, List.append_nil] at steps_eq
    refine ⟨void, Bool.eq_false_iff.mpr fun directory => ?_⟩
    have closed : tree.walk linkLimit ⟨location, node⟩ [last] = some ⟨location, node⟩ :=
      (walk_of_isVoid linkLimit directory void []).trans (walk_nil _ _)
    rw [steps_eq, walk_names_append linkLimit _ plain at_location no_link] at missing
    exact absurd (closed.symm.trans missing) (by simp)
  · rw [List.filter_cons_of_pos (by simp [void]), List.filter_nil] at steps_eq
    rw [steps_eq, walk_names linkLimit _ plain at_location no_link] at missing
    cases missing

end FileTree

end PackageAtlas
