import PackageAtlas.Proofs.Analyzer.Answers
import PackageAtlas.Proofs.Analyzer.SearchOrder
import PackageAtlas.Proofs.FileTree.Nodes
import PackageAtlas.Proofs.FileTree.Spelling

/-!
# Faithful caches

A cache is faithful if each of its entries is what would be found anew. Reading a file and looking
up a name keep the caches faithful, also a name in a directory that is spelled in its own way, whose
answer serves all spellings.
-/
namespace PackageAtlas.Analyzer

variable {origin analyzer : Analyzer} {tree : FileTree}

/-- Every directory may be searched, also one that is searched already. -/
theorem search_eq_findSome? (analyzer : Analyzer) (name : String) (context : Path) :
    analyzer.search tree name context =
      if analyzer.skips name then none
      else (context :: tree.importRoot context :: analyzer.searchPaths).findSome?
        fun directory =>
          (tree.moduleIn? directory (FileTree.nameParts name)).map tree.canonicalOrSelf := by
  rw [search, searchDirectories]
  change (if analyzer.skips name then none else _) = _
  rw [List.map_findSome?]
  split
  next => rfl
  next => exact Path.findSome?_distinct (fun a b same => same.moduleIn? _) _

/-- The search does not depend on how the directory it starts from is spelled. -/
theorem search_of_same (analyzer : Analyzer) {a b : Path} (same : a.Same b) (name : String) :
    analyzer.search tree name a = analyzer.search tree name b := by
  simp only [search_eq_findSome?, List.findSome?_cons, same.moduleIn?, same.importRoot.moduleIn?]

/-- Reading succeeds exactly for a file that has a text which can be parsed. -/
theorem readModule_eq_ok_iff (sound : tree.Sound) {path : Path} {module : ParsedModule} :
    readModule tree path = .ok module ↔
      ∃ place text, tree.locate? path = some place ∧ place.node.text? = some text ∧
        Python.imports? text = some module.imports ∧ module.path = place.location.path := by
  cases found : tree.locate? path with
  | none =>
    -- A path that leads nowhere stands for itself, and has no text.
    have itself := FileTree.canonicalOrSelf_of_missing found
    simp [readModule, itself, FileTree.text?, found]
  | some place =>
    have canonical := FileTree.canonicalOrSelf_of_locate? found
    have text_eq : tree.text? place.location.path = place.node.text? := by
      rw [FileTree.text?, sound.locate?_canonical found]
      rfl
    rw [readModule, canonical, text_eq]
    constructor
    · intro read
      split at read
      next => cases read
      next text has_text =>
        split at read
        next => cases read
        next imports parsed =>
          cases read
          exact ⟨place, text, rfl, has_text, parsed, rfl⟩
    · rintro ⟨_, text, same, has_text, parsed, path_eq⟩
      cases same
      rw [has_text]
      dsimp only
      rw [parsed, ← path_eq]

/-- A file is read alike by every path that leads to it. -/
theorem readModule_canonical (sound : tree.Sound) {path : Path} {place : FileTree.Place}
    (found : tree.locate? path = some place) {module : ParsedModule} :
    readModule tree place.location.path = .ok module ↔ readModule tree path = .ok module := by
  rw [readModule_eq_ok_iff sound, readModule_eq_ok_iff sound, found,
    sound.locate?_canonical found]

/-- A file is read by the path of its location as it stands there. -/
theorem readModule_path_iff (sound : tree.Sound) {location : Location} {node : FileTree.Node}
    (found : tree.node? location = some node) (no_link : node.isLink = false)
    {module : ParsedModule} :
    readModule tree location.path = .ok module ↔
      ∃ text, tree.text? location.path = some text ∧
        Python.imports? text = some module.imports ∧ module.path = location.path := by
  rw [readModule_eq_ok_iff sound, FileTree.text?, sound.locate?_path found no_link]
  constructor
  · rintro ⟨_, text, same, has_text, parsed, path_eq⟩
    cases same
    exact ⟨text, has_text, parsed, path_eq⟩
  · rintro ⟨text, has_text, parsed, path_eq⟩
    exact ⟨_, text, rfl, has_text, parsed, path_eq⟩

/-- Whether an analyzer keeps nothing but what `origin` finds anew in a file tree. -/
structure Faithful (origin : Analyzer) (tree : FileTree) (analyzer : Analyzer) : Prop where
  same_paths : analyzer.searchPaths = origin.searchPaths
  same_version : analyzer.pythonVersion = origin.pythonVersion
  modules {location : Location} {module : ParsedModule} : location.Plain →
    analyzer.parsed.lookup location.path.components = some module →
      readModule tree location.path = .ok module
  answers {location : Location} {name : String} {answer : Option Path} : location.Plain →
    analyzer.resolved.lookup (name, location.path.components) = some answer →
      answer = origin.search tree name location.path

theorem faithful_new (tree : FileTree) (searchPaths : List Path) (pythonVersion : Nat) :
    Faithful (new tree searchPaths pythonVersion) tree
      (new tree searchPaths pythonVersion) where
  same_paths := rfl
  same_version := rfl
  modules _ found := by cases found
  answers _ found := by cases found

theorem Faithful.serves (faithful : Faithful origin tree analyzer) {location : Location}
    (plain : location.Plain) : Serves origin tree location.path analyzer where
  same_paths := faithful.same_paths
  same_version := faithful.same_version
  answers := faithful.answers plain

/-! ### Accesses to the caches -/

theorem Faithful.parse (faithful : Faithful origin tree analyzer) (sound : tree.Sound)
    (path : Path) : Faithful origin tree (Analyzer.parse tree path analyzer).2 := by
  unfold Analyzer.parse
  dsimp only
  split
  next => exact faithful
  next =>
    split
    next => exact faithful
    next module read =>
      refine { faithful with modules := fun {location other} plain found => ?_ }
      rw [List.lookup_cons] at found
      split at found
      next same =>
        -- The module that was just read is kept under the canonical path of the file.
        cases found
        obtain ⟨place, _, located, -⟩ := (readModule_eq_ok_iff sound).mp read
        have place_plain := sound.plain (sound.node?_of_locate? located).1
        rw [FileTree.canonicalOrSelf_of_locate? located] at same
        rw [Location.eq_of_same plain place_plain (beq_iff_eq.mp same)]
        exact (readModule_canonical sound located).mpr read
      next => exact faithful.modules plain found

/-- A file that is there is read as it stands in the file tree. -/
theorem Faithful.parse_eq (faithful : Faithful origin tree analyzer) (sound : tree.Sound)
    {path : Path} {place : FileTree.Place} (located : tree.locate? path = some place) :
    (Analyzer.parse tree path analyzer).1 = readModule tree path := by
  unfold Analyzer.parse
  dsimp only
  split
  next module found =>
    have place_plain := sound.plain (sound.node?_of_locate? located).1
    rw [FileTree.canonicalOrSelf_of_locate? located] at found
    have read := faithful.modules place_plain found
    exact ((readModule_canonical sound located).mp read).symm
  next => split <;> simp [*]

theorem Faithful.resolve (faithful : Faithful origin tree analyzer) (name : String)
    (context : Path) : Faithful origin tree (Analyzer.resolve tree name context analyzer).2 := by
  unfold Analyzer.resolve
  dsimp only
  split
  next => exact faithful
  next =>
    refine { faithful with answers := fun {location other answer} plain found => ?_ }
    rw [List.lookup_cons] at found
    split at found
    next same =>
      cases found
      obtain ⟨rfl, components_eq⟩ := Prod.mk.inj (beq_iff_eq.mp same)
      have search_eq : analyzer.search tree other context = origin.search tree other context := by
        simp only [search, searchDirectories, faithful.same_paths, faithful.same_version]
      rw [search_eq]
      -- The name was looked up in the same directory, maybe by another spelling.
      exact origin.search_of_same components_eq.symm other
    next => exact faithful.answers plain found

end PackageAtlas.Analyzer
