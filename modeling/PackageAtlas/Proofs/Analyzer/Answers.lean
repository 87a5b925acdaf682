import PackageAtlas.Analyzer.Target

/-!
# Answers from the cache

As long as the cache of an analyzer has the answers of the search, resolving a name gives the answer
of the search and leaves the cache as good as it was. So the targets of a module are those the
search finds.
-/
namespace PackageAtlas.Analyzer

/-- Whether an analyzer answers as `origin` searches, in a directory of a file tree. -/
structure Serves (origin : Analyzer) (tree : FileTree) (context : Path) (analyzer : Analyzer) :
    Prop where
  same_paths : analyzer.searchPaths = origin.searchPaths
  same_version : analyzer.pythonVersion = origin.pythonVersion
  answers {name : String} {answer : Option Path} :
    analyzer.resolved.lookup (name, context.components) = some answer →
      answer = origin.search tree name context

theorem serves_new (tree : FileTree) (searchPaths : List Path) (pythonVersion : Nat)
    (context : Path) : Serves (new tree searchPaths pythonVersion) tree context
      (new tree searchPaths pythonVersion) :=
  ⟨rfl, rfl, fun found => by cases found⟩

variable {origin analyzer : Analyzer} {tree : FileTree} {context : Path}

theorem Serves.search_eq (serves : Serves origin tree context analyzer) (name : String) :
    analyzer.search tree name context = origin.search tree name context := by
  simp only [search, searchDirectories, serves.same_paths, serves.same_version]

theorem Serves.resolve (serves : Serves origin tree context analyzer) (name : String) :
    (resolve tree name context analyzer).1 = origin.search tree name context ∧
      Serves origin tree context (Analyzer.resolve tree name context analyzer).2 := by
  unfold Analyzer.resolve
  dsimp only
  split
  next answer found => exact ⟨serves.answers found, serves⟩
  next absent =>
    -- The new entry has the answer of the search, the others had it before.
    refine ⟨serves.search_eq name, serves.same_paths, serves.same_version, ?_⟩
    intro other answer found
    rw [List.lookup_cons] at found
    split at found
    next same =>
      have key_eq := beq_iff_eq.mp same
      cases key_eq
      cases found
      exact serves.search_eq name
    next => exact serves.answers found

/-- The target of the first name that the search finds a file for. -/
def contribution (analyzer : Analyzer) (tree : FileTree) (context : Path) (names : List String) :
    Option ImportTarget :=
  names.findSome? fun name => (analyzer.search tree name context).map (⟨name, ·⟩)

private theorem firstTarget_cons (name : String) (rest : List String) :
    firstTarget tree context (name :: rest) analyzer =
      match resolve tree name context analyzer with
      | (some path, after) => (some ⟨name, path⟩, after)
      | (none, after) => firstTarget tree context rest after := by
  simp only [firstTarget, bind, StateT.bind]
  cases resolve tree name context analyzer with
  | mk answer after => cases answer <;> rfl

theorem Serves.firstTarget (serves : Serves origin tree context analyzer) (names : List String) :
    (firstTarget tree context names analyzer).1 = origin.contribution tree context names ∧
      Serves origin tree context (Analyzer.firstTarget tree context names analyzer).2 := by
  -- Every lookup may extend the cache, so the analyzer changes from name to name.
  induction names generalizing analyzer with
  | nil => exact ⟨rfl, serves⟩
  | cons name rest ih =>
    obtain ⟨answer_eq, after⟩ := serves.resolve name
    rw [firstTarget_cons, contribution, List.findSome?_cons, ← answer_eq]
    split
    next path next_analyzer step =>
      rw [step] at after ⊢
      exact ⟨rfl, after⟩
    next next_analyzer step =>
      rw [step] at after ⊢
      exact ih after

/-- Going through the candidates one after the other, every answer is that of the search. -/
theorem Serves.mapM_firstTarget (serves : Serves origin tree context analyzer)
    (candidates : List (List String)) :
    (candidates.mapM (Analyzer.firstTarget tree context) analyzer).1 =
      candidates.map (origin.contribution tree context) := by
  induction candidates generalizing analyzer with
  | nil => rfl
  | cons names rest ih =>
    obtain ⟨found_eq, after⟩ := serves.firstTarget names
    rw [List.mapM_cons, List.map_cons, ← found_eq, ← ih after]
    rfl

/-- The targets of a module are what its imports contribute, each once. -/
theorem Serves.targets (serves : Serves origin tree context analyzer) {module : ParsedModule}
    (inside : module.path.parent? = some context) :
    (targets tree module analyzer).1 =
      ((module.imports.flatMap (·.candidates tree context)).filterMap
        (origin.contribution tree context)).eraseDups := by
  have answers := serves.mapM_firstTarget (module.imports.flatMap (·.candidates tree context))
  rw [Analyzer.targets, inside]
  change (((module.imports.flatMap (·.candidates tree context)).mapM
    (Analyzer.firstTarget tree context) analyzer).1.filterMap id).eraseDups = _
  rw [answers, List.filterMap_map]
  rfl

end PackageAtlas.Analyzer
