import PackageAtlas.Analyzer.Target
import PackageAtlas.Proofs.FileTree.Discovery

/-!
# Trees of one shape

Two file trees that differ in the text of one file lead every path to one place. So they have the
same packages and find the same modules, and any other file has one text in both.
-/
namespace PackageAtlas.FileTree

/-- What a node is, the texts of files left out. -/
inductive Shape where
  | directory
  | file
  | link (target : String)
deriving DecidableEq

def Node.shape : Node → Shape
  | .directory _ => .directory
  | .file _ => .file
  | .link target => .link target

theorem Node.isDirectory_iff_shape {node : Node} :
    node.isDirectory = true ↔ node.shape = .directory := by
  cases node <;> simp [isDirectory, shape]

theorem Node.isFile_iff_shape {node : Node} : node.isFile = true ↔ node.shape = .file := by
  cases node <;> simp [isFile, shape]

theorem Node.isDirectory_congr {first second : Node} (same : first.shape = second.shape) :
    first.isDirectory = second.isDirectory := by
  rw [Bool.eq_iff_iff, isDirectory_iff_shape, isDirectory_iff_shape, same]

theorem Node.isFile_congr {first second : Node} (same : first.shape = second.shape) :
    first.isFile = second.isFile := by
  rw [Bool.eq_iff_iff, isFile_iff_shape, isFile_iff_shape, same]

/-- Whether two file trees are the same but for the text of the file at one location. -/
structure SameBut (file : Location) (first second : FileTree) : Prop where
  here : first.here = second.here
  shapes (location : Location) :
    (first.node? location).map Node.shape = (second.node? location).map Node.shape
  texts {location : Location} : location ≠ file →
    (first.node? location).bind Node.text? = (second.node? location).bind Node.text?

variable {file : Location} {first second : FileTree}

theorem SameBut.symm (same : SameBut file first second) : SameBut file second first where
  here := same.here.symm
  shapes location := (same.shapes location).symm
  texts other := (same.texts other).symm

theorem SameBut.exists_node (same : SameBut file first second) {location : Location} {node : Node}
    (found : first.node? location = some node) :
    ∃ other, second.node? location = some other ∧ other.shape = node.shape := by
  have shapes := same.shapes location
  rw [found, Option.map_some] at shapes
  exact Option.map_eq_some_iff.mp shapes.symm

theorem SameBut.sound (same : SameBut file first second) (sound : first.Sound) : second.Sound where
  rooted := by
    have at_root : first.node? [] = some first.root := rfl
    obtain ⟨root, found, shape⟩ := same.exists_node at_root
    cases found
    rw [Node.isDirectory_congr shape]
    exact sound.rooted
  plain found := by
    obtain ⟨_, there, -⟩ := same.symm.exists_node found
    exact sound.plain there

/-! ### Writing a file anew -/

private theorem lookup_filter_ne {name other : String} (apart : other ≠ name)
    (entries : List (String × Node)) :
    (entries.filter (·.1 ≠ name)).lookup other = entries.lookup other := by
  induction entries with
  | nil => rfl
  | cons entry rest ih =>
    obtain ⟨first, child⟩ := entry
    by_cases there : first = name
    · have not_first : (other == first) = false := by simp [there, apart]
      rw [List.filter_cons_of_neg (by simp [there]), ih, List.lookup_cons, not_first]
    · rw [List.filter_cons_of_pos (by simp [there]), List.lookup_cons, List.lookup_cons, ih]

theorem lookup_setEntry (name other : String) (node : Node) (entries : List (String × Node)) :
    (Node.setEntry name (some node) entries).lookup other =
      if other = name then some node else entries.lookup other := by
  rw [Node.setEntry, Option.map_some, Option.toList_some, List.singleton_append, List.lookup_cons]
  by_cases same : other = name
  · rw [if_pos same, beq_iff_eq.mpr same]
  · rw [if_neg same, beq_eq_false_iff_ne.mpr same]
    exact lookup_filter_ne same entries

/-- In a directory, another node at a location is another one in the entry that leads there. -/
theorem Node.replace_cons {entries : List (String × Node)} {name : String} {child new : Node}
    (present : entries.lookup name = some child) (rest : Location) :
    (Node.directory entries).replace (some new) (name :: rest) =
      .directory (setEntry name (some (child.replace (some new) rest)) entries) := by
  cases rest with
  | nil => rfl
  | cons next others => rw [replace, present]; simp

/-- Writing the file at a location leaves shapes as they are, and the texts of other files. -/
theorem Node.at?_replace_file {node : Node} {file : Location} {old new : Option String}
    (found : node.at? file = some (.file old)) (location : Location) :
    ((node.replace (some (.file new)) file).at? location).map shape =
        (node.at? location).map shape ∧
      (location ≠ file → ((node.replace (some (.file new)) file).at? location).bind text? =
        (node.at? location).bind text?) := by
  induction file generalizing node location with
  | nil =>
    cases found
    cases location with
    | nil => exact ⟨rfl, fun other => absurd rfl other⟩
    | cons name rest => exact ⟨rfl, fun _ => rfl⟩
  | cons name rest ih =>
    rw [at?] at found
    split at found
    next => cases found
    next child present =>
      obtain ⟨entries, rfl, -⟩ := mem_of_child? present
      rw [replace_cons present]
      cases location with
      | nil => exact ⟨rfl, fun _ => rfl⟩
      | cons first others =>
        rw [at?, at?, child?, child?, lookup_setEntry]
        by_cases same : first = name
        · subst same
          obtain ⟨shapes, texts⟩ := ih found others
          have there : entries.lookup first = some child := present
          rw [if_pos rfl, there]
          exact ⟨shapes, fun other => texts fun rest_same => other (by rw [rest_same])⟩
        · rw [if_neg same]
          exact ⟨rfl, fun _ => rfl⟩

theorem sameBut_insert {tree : FileTree} {file : Location} {old : Option String}
    (found : tree.node? file = some (.file old)) (new : Option String) :
    SameBut file tree (tree.insert file (.file new)) where
  here := rfl
  shapes location := (Node.at?_replace_file found location).1.symm
  texts {location} other := ((Node.at?_replace_file found location).2 other).symm

/-! ### Where paths lead -/

/-- Whether two places have one location, and each the node that stands there in its tree. -/
structure Twin (first second : FileTree) (a b : Place) : Prop where
  location : a.location = b.location
  at_first : first.node? a.location = some a.node
  at_second : second.node? b.location = some b.node

theorem Twin.shape (same : SameBut file first second) {a b : Place} (twin : Twin first second a b) :
    a.node.shape = b.node.shape := by
  have shapes := same.shapes a.location
  rw [twin.at_first, twin.location, twin.at_second] at shapes
  exact Option.some.inj shapes

theorem Twin.child (same : SameBut file first second) {a b : Place} (twin : Twin first second a b)
    (name : String) :
    (a.node.child? name).map Node.shape = (b.node.child? name).map Node.shape := by
  have shapes := same.shapes (a.location ++ [name])
  rw [node?_concat, twin.at_first, twin.location, node?_concat, twin.at_second] at shapes
  exact shapes

private theorem SameBut.walkWith (same : SameBut file first second)
    {follow other : Place → Path → List String → Option Place}
    (follows : ∀ a b target rest, Twin first second a b →
      Option.Rel (Twin first second) (follow a target rest) (other b target rest))
    {a b : Place} (twin : Twin first second a b) (segments : List String) :
    Option.Rel (Twin first second) (first.walkWith follow a segments)
      (second.walkWith other b segments) := by
  induction segments generalizing a b with
  | nil => exact .some twin
  | cons segment rest ih =>
    rw [FileTree.walkWith, FileTree.walkWith, Node.isDirectory_congr (twin.shape same)]
    split
    next => exact .none
    next =>
      split
      next => exact ih twin
      next =>
        split
        next =>
          -- Both trees have a node above, or neither has.
          have above := same.shapes a.location.dropLast
          rw [← twin.location]
          cases at_first : first.node? a.location.dropLast <;>
            cases at_second : second.node? a.location.dropLast <;>
            rw [at_first, at_second] at above
          · exact .none
          · cases above
          · cases above
          · exact ih ⟨rfl, at_first, at_second⟩
        next =>
          have child := twin.child same segment
          cases in_first : a.node.child? segment <;> cases in_second : b.node.child? segment <;>
            rw [in_first, in_second] at child
          case none.none => exact .none
          case none.some => cases child
          case some.none => cases child
          case some.some below other_below =>
            have inner : Twin first second ⟨a.location ++ [segment], below⟩
                ⟨b.location ++ [segment], other_below⟩ := by
              refine ⟨by rw [twin.location], ?_, ?_⟩
              · rw [node?_concat, twin.at_first]
                exact in_first
              · rw [node?_concat, twin.at_second]
                exact in_second
            have shape := Option.some.inj child
            cases below <;> cases other_below <;> cases shape
            · exact ih inner
            · exact ih inner
            · exact follows _ _ _ _ twin

private theorem SameBut.walk (same : SameBut file first second) (links : Nat) {a b : Place}
    (twin : Twin first second a b) (segments : List String) :
    Option.Rel (Twin first second) (first.walk links a segments)
      (second.walk links b segments) := by
  induction links generalizing a b segments with
  | zero => exact same.walkWith (fun _ _ _ _ _ => .none) twin segments
  | succ links ih =>
    refine same.walkWith (fun a b target rest twin => ?_) twin segments
    dsimp only
    split
    next =>
      have roots : Twin first second ⟨[], first.root⟩ ⟨[], second.root⟩ := ⟨rfl, rfl, rfl⟩
      exact ih roots _
    next => exact ih twin _

/-- A path leads to one location in both trees, or nowhere in both. -/
theorem SameBut.locate? (same : SameBut file first second) (path : Path) :
    Option.Rel (Twin first second) (first.locate? path) (second.locate? path) := by
  unfold FileTree.locate? start?
  rw [same.here]
  split
  next => exact .none
  next =>
    dsimp only
    have shapes := same.shapes (if path.isAbsolute = true then [] else second.here)
    generalize (if path.isAbsolute = true then [] else second.here) = location at shapes ⊢
    cases at_first : first.node? location <;> cases at_second : second.node? location <;>
      rw [at_first, at_second] at shapes
    case none.none => exact .none
    case none.some => cases shapes
    case some.none => cases shapes
    case some.some node other =>
      have starts : Twin first second ⟨location, node⟩ ⟨location, other⟩ :=
        ⟨rfl, at_first, at_second⟩
      exact same.walk linkLimit starts _

theorem SameBut.isFile_eq (same : SameBut file first second) : first.isFile = second.isFile := by
  funext path
  have twins := same.locate? path
  unfold isFile
  generalize first.locate? path = a, second.locate? path = b at twins
  cases twins with
  | none => rfl
  | some twin => exact Node.isFile_congr (twin.shape same)

theorem SameBut.isDirectory_eq (same : SameBut file first second) :
    first.isDirectory = second.isDirectory := by
  funext path
  have twins := same.locate? path
  unfold isDirectory
  generalize first.locate? path = a, second.locate? path = b at twins
  cases twins with
  | none => rfl
  | some twin => exact Node.isDirectory_congr (twin.shape same)

theorem SameBut.canonicalOrSelf_eq (same : SameBut file first second) :
    first.canonicalOrSelf = second.canonicalOrSelf := by
  funext path
  have twins := same.locate? path
  unfold canonicalOrSelf canonical?
  generalize first.locate? path = a, second.locate? path = b at twins
  cases twins with
  | none => rfl
  | some twin => exact congrArg Location.path twin.location

/-- A file has one text in both trees, unless it is the one in which they differ. -/
theorem SameBut.text?_eq (same : SameBut file first second) {path : Path} {place : Place}
    (found : first.locate? path = some place) (other : place.location ≠ file) :
    first.text? path = second.text? path := by
  have twins := same.locate? path
  rw [found] at twins
  unfold text?
  rw [found]
  generalize second.locate? path = b at twins
  cases twins with
  | some twin =>
    have texts := same.texts other
    rwa [twin.at_first, twin.location, twin.at_second] at texts

/-! ### Modules -/

theorem SameBut.isPackage_eq (same : SameBut file first second) :
    first.isPackage = second.isPackage := by
  funext directory
  rw [isPackage, isPackage, same.isFile_eq]

theorem SameBut.moduleIn?_eq (same : SameBut file first second) :
    first.moduleIn? = second.moduleIn? := by
  funext directory parts
  induction parts generalizing directory with
  | nil => rfl
  | cons name rest ih =>
    cases rest with
    | nil => rw [moduleIn?, moduleIn?, same.isFile_eq]
    | cons next others =>
      have onward (tree : FileTree) : tree.moduleIn? directory (name :: next :: others) =
          if tree.isDirectory (directory.child name) then
            tree.moduleIn? (directory.child name) (next :: others)
          else none := rfl
      rw [onward, onward, same.isDirectory_eq, ih]

theorem SameBut.packageAbove?_eq (same : SameBut file first second) :
    first.packageAbove? = second.packageAbove? := by
  funext directory levels
  induction levels generalizing directory with
  | zero => rw [packageAbove?, packageAbove?, same.isPackage_eq]
  | succ levels ih => simp only [packageAbove?, same.isPackage_eq, ih]

/-- The names to try for an import are the same in both trees. -/
theorem SameBut.candidates_eq (same : SameBut file first second) (imported : Import)
    (context : Path) : imported.candidates first context = imported.candidates second context := by
  unfold Import.candidates absoluteName? packageNames
  rw [same.packageAbove?_eq, same.isPackage_eq]

theorem SameBut.new_eq (same : SameBut file first second) (searchPaths : List Path)
    (pythonVersion : Nat) :
    Analyzer.new first searchPaths pythonVersion =
      Analyzer.new second searchPaths pythonVersion := by
  rw [Analyzer.new, Analyzer.new, same.canonicalOrSelf_eq]

theorem SameBut.search_eq (same : SameBut file first second) (analyzer : Analyzer) :
    analyzer.search first = analyzer.search second := by
  funext name context
  unfold Analyzer.search Analyzer.searchDirectories importRoot
  rw [same.moduleIn?_eq, same.isPackage_eq, same.canonicalOrSelf_eq]

/-! ### Packages and files -/

theorem SameBut.enters_iff (same : SameBut file first second) {around : Location} {name : String} :
    first.Enters around name ↔ second.Enters around name := by
  have onward {before after : FileTree} (same : SameBut file before after)
      (enters : before.Enters around name) : after.Enters around name := by
    obtain ⟨⟨node, found, directory⟩, shown, kept⟩ := enters
    obtain ⟨other, there, shape⟩ := same.exists_node found
    exact ⟨⟨other, there, (Node.isDirectory_congr shape).trans directory⟩, shown, kept⟩
  exact ⟨onward same, onward same.symm⟩

theorem SameBut.markedDirectories_eq (same : SameBut file first second) :
    first.markedDirectories = second.markedDirectories := by
  funext top
  have along_iff (names : List String) :
      Along first.Enters top names ↔ Along second.Enters top names :=
    ⟨Along.mono fun _ _ => same.enters_iff.mp, Along.mono fun _ _ => same.enters_iff.mpr⟩
  refine eq_of_mem_iff (fun _ _ => Outward.asymm) (markedDirectories_outward top)
    (markedDirectories_outward top) fun directory => ?_
  simp only [mem_markedDirectories_iff, along_iff, same.isPackage_eq]

theorem SameBut.fileNames_eq (same : SameBut file first second) :
    first.fileNames = second.fileNames := by
  funext location
  have is_file {before after : FileTree} (same : SameBut file before after) {name : String}
      (found : ∃ text, before.node? (location ++ [name]) = some (.file text)) :
      ∃ text, after.node? (location ++ [name]) = some (.file text) := by
    obtain ⟨text, at_file⟩ := found
    obtain ⟨other, there, shape⟩ := same.exists_node at_file
    cases other with
    | file text => exact ⟨text, there⟩
    | directory entries => cases shape
    | link target => cases shape
  refine eq_of_mem_iff (fun _ _ => String.lt_asymm) (fileNames_ascending location)
    (fileNames_ascending location) fun name => ?_
  rw [mem_fileNames_iff, mem_fileNames_iff]
  exact and_congr_left fun _ => ⟨is_file same, is_file same.symm⟩

end PackageAtlas.FileTree
