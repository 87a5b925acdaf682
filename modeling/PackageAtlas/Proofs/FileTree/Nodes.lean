import PackageAtlas.Proofs.FileTree.Following
import PackageAtlas.Proofs.Grouping
import PackageAtlas.Proofs.Keyed

/-!
# Nodes of a file tree

What a path leads to stands at its location and is no link. So its canonical path, which goes
through no links, leads there again.
-/
namespace PackageAtlas.FileTree

namespace Node

def isLink : Node → Bool
  | .link _ => true
  | _ => false

theorem not_link_of_directory {node : Node} (directory : node.isDirectory = true) :
    node.isLink = false := by
  cases node <;> first | rfl | cases directory

/-! ### Entries of a directory -/

theorem mem_of_child? {node child : Node} {name : String}
    (found : node.child? name = some child) :
    ∃ entries, node = .directory entries ∧ (name, child) ∈ entries := by
  cases node with
  | directory entries =>
    obtain ⟨before, after, cut, -⟩ := List.lookup_eq_some_iff.mp found
    exact ⟨entries, rfl, by rw [cut]; simp⟩
  | file text => cases found
  | link target => cases found

theorem isDirectory_of_child? {node child : Node} {name : String}
    (found : node.child? name = some child) : node.isDirectory = true := by
  obtain ⟨entries, rfl, -⟩ := mem_of_child? found
  rfl

theorem mem_names_iff {node : Node} {name : String} :
    name ∈ node.names ↔ ∃ child, node.child? name = some child := by
  cases node with
  | directory entries =>
    rw [names, List.mem_mergeSort, List.mem_eraseDups, child?]
    constructor
    · intro member
      cases found : entries.lookup name with
      | some child => exact ⟨child, rfl⟩
      | none =>
        obtain ⟨entry, inside, rfl⟩ := List.mem_map.mp member
        have apart := List.lookup_eq_none_iff.mp found entry inside
        simp at apart
    · rintro ⟨child, found⟩
      obtain ⟨before, after, cut, -⟩ := List.lookup_eq_some_iff.mp found
      rw [cut]
      simp
  | file text => simp [names, child?]
  | link target => simp [names, child?]

theorem names_ascending (node : Node) : node.names.Pairwise (· < ·) := by
  cases node with
  | directory entries =>
    have apart : ((entries.map Prod.fst).eraseDups.map id).Nodup := by
      rw [List.map_id]
      exact nodup_eraseDups _
    exact ascending_mergeSort apart
  | file text => exact List.Pairwise.nil
  | link target => exact List.Pairwise.nil

theorem mem_children_iff {node child : Node} {name : String} :
    (name, child) ∈ node.children ↔ node.child? name = some child := by
  simp only [children, List.mem_filterMap, Option.map_eq_some_iff, Prod.mk.injEq]
  constructor
  · rintro ⟨_, -, _, found, rfl, rfl⟩
    exact found
  · intro found
    exact ⟨name, mem_names_iff.mpr ⟨child, found⟩, child, found, rfl, rfl⟩

theorem children_ascending (node : Node) : node.children.Pairwise (·.1 < ·.1) := by
  rw [children, List.pairwise_filterMap]
  refine node.names_ascending.imp ?_
  intro first second less
  simp only [Option.map_eq_some_iff]
  rintro _ ⟨_, -, rfl⟩ _ ⟨_, -, rfl⟩
  exact less

/-! ### Nodes further below -/

theorem at?_append (node : Node) (before after : Location) :
    node.at? (before ++ after) = (node.at? before).bind (·.at? after) := by
  induction before generalizing node with
  | nil => rfl
  | cons name rest ih =>
    rw [List.cons_append, at?, at?]
    cases node.child? name with
    | none => rfl
    | some child => exact ih child

theorem at?_singleton (node : Node) (name : String) : node.at? [name] = node.child? name := by
  rw [at?]
  cases node.child? name <;> rfl

mutual
/-- Whether all entries below a node have plain names. -/
def hasPlainNames : Node → Bool
  | .directory entries => havePlainNames entries
  | _ => true

def havePlainNames : List (String × Node) → Bool
  | [] => true
  | (name, node) :: rest =>
    !Path.isVoid name && name != ".." && !name.toList.contains '/' && node.hasPlainNames
      && havePlainNames rest
end

theorem plain_of_mem {entries : List (String × Node)} (plain : havePlainNames entries = true)
    {name : String} {node : Node} (member : (name, node) ∈ entries) :
    PlainName name ∧ node.hasPlainNames = true := by
  induction entries with
  | nil => cases member
  | cons entry rest ih =>
    obtain ⟨other, child⟩ := entry
    simp only [havePlainNames, Bool.and_eq_true, Bool.not_eq_true', bne_iff_ne] at plain
    obtain ⟨⟨⟨⟨not_void, not_up⟩, no_slash⟩, inner⟩, others⟩ := plain
    rcases List.mem_cons.mp member with here | later
    · cases here
      exact ⟨⟨not_void, not_up, by simpa using no_slash⟩, inner⟩
    · exact ih others later

theorem plain_of_at? {node last : Node} (plain : node.hasPlainNames = true) {location : Location}
    (found : node.at? location = some last) : location.Plain := by
  induction location generalizing node with
  | nil => exact Location.plain_nil
  | cons name rest ih =>
    rw [at?] at found
    split at found
    next => cases found
    next child present =>
      obtain ⟨entries, rfl, member⟩ := mem_of_child? present
      rw [hasPlainNames] at plain
      obtain ⟨name_plain, inner⟩ := plain_of_mem plain member
      exact Location.plain_append.mpr
        ⟨Location.plain_singleton.mpr name_plain, ih inner found⟩

theorem height_lt_of_mem {entries : List (String × Node)} {name : String} {node : Node}
    (member : (name, node) ∈ entries) : node.height < heightOf entries := by
  induction entries with
  | nil => cases member
  | cons entry rest ih =>
    obtain ⟨other, child⟩ := entry
    rw [heightOf]
    rcases List.mem_cons.mp member with here | later
    · cases here
      omega
    · have deeper := ih later
      omega

/-- No location below a node is longer than the node is high. -/
theorem length_le_height {node last : Node} {location : Location}
    (found : node.at? location = some last) : location.length ≤ node.height := by
  induction location generalizing node with
  | nil => exact Nat.zero_le _
  | cons name rest ih =>
    rw [at?] at found
    split at found
    next => cases found
    next child present =>
      obtain ⟨entries, rfl, member⟩ := mem_of_child? present
      have inner := ih found
      have lower := height_lt_of_mem member
      rw [height, List.length_cons]
      omega

end Node

variable {tree : FileTree}

theorem node?_append (location rest : Location) :
    tree.node? (location ++ rest) = (tree.node? location).bind (·.at? rest) :=
  tree.root.at?_append location rest

theorem node?_concat (location : Location) (name : String) :
    tree.node? (location ++ [name]) = (tree.node? location).bind (·.child? name) := by
  rw [node?_append]
  cases tree.node? location with
  | none => rfl
  | some node => exact node.at?_singleton name

/-- What holds a node is a directory. -/
theorem exists_directory_of_node? {location : Location} {name : String} {node : Node}
    (found : tree.node? (location ++ [name]) = some node) :
    ∃ around, tree.node? location = some around ∧ around.isDirectory = true ∧
      around.child? name = some node := by
  rw [node?_concat] at found
  obtain ⟨around, located, present⟩ := Option.bind_eq_some_iff.mp found
  exact ⟨around, located, Node.isDirectory_of_child? present, present⟩

/-- What a file system grants: its root is a directory, and every entry has a plain name. -/
structure Sound (tree : FileTree) : Prop where
  rooted : tree.root.isDirectory = true
  plain {location : Location} {node : Node} : tree.node? location = some node → location.Plain

theorem sound_of_plainNames (rooted : tree.root.isDirectory = true)
    (plain : tree.root.hasPlainNames = true) : Sound tree :=
  ⟨rooted, fun found => Node.plain_of_at? plain found⟩

/-! ### Where paths lead -/

private theorem walkWith_node {follow : Place → Path → List String → Option Place}
    {segments : List String}
    (follows : ∀ place target rest last, tree.node? place.location = some place.node →
      place.node.isLink = false → follow place target rest = some last →
        tree.node? last.location = some last.node ∧ last.node.isLink = false)
    {place last : Place} (at_place : tree.node? place.location = some place.node)
    (no_link : place.node.isLink = false)
    (found : tree.walkWith follow place segments = some last) :
    tree.node? last.location = some last.node ∧ last.node.isLink = false := by
  induction segments generalizing place with
  | nil =>
    rw [walkWith] at found
    cases found
    exact ⟨at_place, no_link⟩
  | cons segment rest ih =>
    rw [walkWith] at found
    split at found
    next => cases found
    next directory =>
      split at found
      next => exact ih at_place no_link found
      next =>
        split at found
        next =>
          split at found
          next => cases found
          next above at_above =>
            refine ih at_above ?_ found
            -- The place around is the root itself, or it holds the place.
            cases around : place.location using List.reverseRecOn with
            | nil =>
              rw [around] at at_above at_place
              cases at_above.symm.trans at_place
              exact no_link
            | append_singleton before name =>
              rw [around] at at_above at_place
              rw [List.dropLast_concat] at at_above
              obtain ⟨_, located, is_directory, -⟩ := exists_directory_of_node? at_place
              cases at_above.symm.trans located
              exact Node.not_link_of_directory is_directory
        next =>
          split at found
          next => cases found
          next target _ => exact follows _ _ _ _ at_place no_link found
          next child not_target present =>
            have at_child : tree.node? (place.location ++ [segment]) = some child := by
              rw [node?_concat, at_place]
              exact present
            refine ih at_child ?_ found
            cases child with
            | link target => exact absurd rfl (not_target target)
            | directory entries => rfl
            | file text => rfl

private theorem walk_node (rooted : tree.root.isLink = false) (links : Nat)
    {segments : List String} {place last : Place}
    (at_place : tree.node? place.location = some place.node) (no_link : place.node.isLink = false)
    (found : tree.walk links place segments = some last) :
    tree.node? last.location = some last.node ∧ last.node.isLink = false := by
  induction links generalizing segments place last with
  | zero =>
    refine walkWith_node (fun _ _ _ _ _ _ followed => ?_) at_place no_link found
    cases followed
  | succ links ih =>
    refine walkWith_node (fun place target rest last at_place no_link followed => ?_)
      at_place no_link found
    dsimp only at followed
    split at followed
    next => exact ih rfl rooted followed
    next => exact ih at_place no_link followed

/-- What a path leads to stands at its location, and is no link. -/
theorem Sound.node?_of_locate? (sound : Sound tree) {path : Path} {place : Place}
    (found : tree.locate? path = some place) :
    tree.node? place.location = some place.node ∧ place.node.isLink = false := by
  unfold locate? at found
  split at found
  next => cases found
  next =>
    split at found
    next => cases found
    next start started =>
      obtain ⟨node, at_start, rfl⟩ := Option.map_eq_some_iff.mp started
      -- There is at least one segment, and it needs a directory to stand in.
      have directory : node.isDirectory = true := by
        rw [← List.nil_append (Text.split '/' path.text)] at found
        obtain ⟨_, begun, is_directory⟩ := walk_append linkLimit found
        rw [walk_nil] at begun
        cases begun
        exact is_directory (Text.split_ne_nil '/' path.text)
      exact walk_node (Node.not_link_of_directory sound.rooted) linkLimit at_start
        (Node.not_link_of_directory directory) found

private theorem walkWith_names {follow : Place → Path → List String → Option Place}
    {names : Location} (plain : names.Plain) {place : Place} {last : Node}
    (at_last : place.node.at? names = some last) (no_link : last.isLink = false)
    (others : List String) :
    tree.walkWith follow place (names ++ others) =
      tree.walkWith follow ⟨place.location ++ names, last⟩ others := by
  induction names generalizing place with
  | nil =>
    rw [Node.at?] at at_last
    cases at_last
    rw [List.nil_append, List.append_nil]
  | cons name rest ih =>
    obtain ⟨name_plain, rest_plain⟩ := List.forall_mem_cons.mp plain
    rw [Node.at?] at at_last
    split at at_last
    next => cases at_last
    next child present =>
      have child_no_link : child.isLink = false := by
        cases rest with
        | nil =>
          cases at_last
          exact no_link
        | cons next others =>
          rw [Node.at?] at at_last
          split at at_last
          next => cases at_last
          next inner => exact Node.not_link_of_directory (Node.isDirectory_of_child? inner)
      rw [List.cons_append, walkWith, if_neg (by simp [Node.isDirectory_of_child? present]),
        if_neg (by simp [name_plain.not_void]), if_neg name_plain.not_up, present]
      have onward : tree.walkWith follow ⟨place.location ++ [name], child⟩ (rest ++ others) =
          tree.walkWith follow ⟨place.location ++ [name] ++ rest, last⟩ others :=
        ih rest_plain at_last
      rw [List.append_assoc, List.singleton_append] at onward
      cases child with
      | link target => cases child_no_link
      | directory entries => exact onward
      | file text => exact onward

/-- Names that lead to something other than a link lead there whatever segments follow. -/
theorem walk_names_append (links : Nat) (place : Place) {names : Location} (plain : names.Plain)
    {last : Node} (at_last : place.node.at? names = some last) (no_link : last.isLink = false)
    (others : List String) :
    tree.walk links place (names ++ others) =
      tree.walk links ⟨place.location ++ names, last⟩ others := by
  cases links <;> exact walkWith_names plain at_last no_link others

theorem walk_names (links : Nat) (place : Place) {names : Location} (plain : names.Plain)
    {last : Node} (at_last : place.node.at? names = some last) (no_link : last.isLink = false) :
    tree.walk links place names = some ⟨place.location ++ names, last⟩ := by
  have onward : tree.walk links place (names ++ []) = _ :=
    walk_names_append links place plain at_last no_link []
  rwa [List.append_nil, walk_nil] at onward

/-- The path of a location leads to what stands there. -/
theorem Sound.locate?_path (sound : Sound tree) {location : Location} {node : Node}
    (found : tree.node? location = some node) (no_link : node.isLink = false) :
    tree.locate? location.path = some ⟨location, node⟩ := by
  have plain := sound.plain found
  have rooted : (⟨[], tree.root⟩ : Place).node.isDirectory = true := sound.rooted
  rw [FileTree.locate?_path plain, walk_void linkLimit rooted, Location.segments]
  split
  next empty =>
    subst empty
    cases found
    rw [walk_void linkLimit rooted, walk_nil]
  next =>
    exact walk_names linkLimit ⟨[], tree.root⟩ plain found no_link

/-- A canonical path leads where the path itself leads. -/
theorem Sound.locate?_canonical (sound : Sound tree) {path : Path} {place : Place}
    (found : tree.locate? path = some place) :
    tree.locate? place.location.path = some place := by
  obtain ⟨at_place, no_link⟩ := sound.node?_of_locate? found
  exact sound.locate?_path at_place no_link

theorem canonicalOrSelf_of_locate? {path : Path} {place : Place}
    (found : tree.locate? path = some place) :
    tree.canonicalOrSelf path = place.location.path := by
  rw [canonicalOrSelf, canonical?, found]
  rfl

/-- A path that leads nowhere stands for itself. -/
theorem canonicalOrSelf_of_missing {path : Path} (missing : tree.locate? path = none) :
    tree.canonicalOrSelf path = path := by
  rw [canonicalOrSelf, canonical?, missing]
  rfl

end PackageAtlas.FileTree
