import PackageAtlas.Proofs.Analyzer.Faithful
import PackageAtlas.Proofs.FileTree.Inside

/-!
# What an analyzer tells in the course of time

Files change between the calls of an analyzer, which keeps what it told first. So each answer is
that of the first call for the same file or name, with the file tree of that time. As long as
nothing changes, this is the answer without caches, but for a path that leads nowhere because a
slash closes it behind a file that was read before.
-/
namespace PackageAtlas

/-- A path behind others is new, or one of them in another spelling. -/
theorem Path.distinct_concat (paths : List Path) (last : Path) :
    distinct (paths ++ [last]) =
      if ∃ path ∈ paths, path.Same last then distinct paths else distinct paths ++ [last] := by
  induction paths with
  | nil => rfl
  | cons first rest ih =>
    rw [List.cons_append, distinct, distinct, ih]
    by_cases known : ∃ path ∈ rest, path.Same last
    · rw [if_pos known, if_pos (known.imp fun _ there => ⟨List.mem_cons_of_mem _ there.1, there.2⟩)]
    · rw [if_neg known, List.filter_append]
      by_cases same : first.Same last
      · rw [if_pos ⟨first, List.mem_cons_self, same⟩, List.filter_cons_of_neg (by simp [same]),
          List.filter_nil, List.append_nil]
      · have unknown : ¬ ∃ path ∈ first :: rest, path.Same last := by
          rintro ⟨path, member, there⟩
          rcases List.mem_cons.mp member with rfl | member
          · exact same there
          · exact known ⟨path, member, there⟩
        rw [if_neg unknown, List.filter_cons_of_pos (by simp [same]), List.filter_nil]
        rfl

namespace Analyzer

/-! ### Sessions -/

/-- What happens to a file tree and an analyzer. -/
inductive Event where
  /-- Files are written or removed, which leaves this tree. -/
  | change (tree : FileTree)
  | parse (path : Path)
  | resolve (name : String) (context : Path)

def Event.isCall : Event → Bool
  | .change _ => false
  | _ => true

/-- A call to read a file, with the file tree of that time. -/
structure Reading where
  tree : FileTree
  path : Path
  outcome : Except SourceError ParsedModule

/-- The canonical path at the time of the call. -/
def Reading.canonical (reading : Reading) : Path :=
  reading.tree.canonicalOrSelf reading.path

/-- A call to find the file of a name, with the file tree of that time. -/
structure Lookup where
  tree : FileTree
  name : String
  context : Path
  answer : Option Path

/-- A file tree and an analyzer, with the calls that the analyzer has answered so far, in order. -/
structure Session where
  tree : FileTree
  analyzer : Analyzer
  readings : List Reading
  lookups : List Lookup

/-- The canonical paths of the readings that succeeded. -/
def parsedPaths (readings : List Reading) : List Path :=
  (readings.filter (·.outcome.isOk)).map (·.canonical)

/-- The first reading that succeeded for a canonical path. -/
def firstRead? (readings : List Reading) (canonical : Path) : Option Reading :=
  readings.find? fun reading => reading.outcome.isOk && decide (reading.canonical.Same canonical)

/-- The first lookup of a name in a directory. -/
def firstAsked? (lookups : List Lookup) (name : String) (context : Path) : Option Lookup :=
  lookups.find? fun lookup => decide (lookup.name = name) && decide (lookup.context.Same context)

namespace Session

def start (tree : FileTree) (searchPaths : List Path) (pythonVersion : Nat) : Session where
  tree
  analyzer := new tree searchPaths pythonVersion
  readings := []
  lookups := []

def perform (session : Session) : Event → Session
  | .change tree => { session with tree }
  | .parse path =>
    let (outcome, analyzer) := Analyzer.parse session.tree path session.analyzer
    { session with analyzer, readings := session.readings ++ [⟨session.tree, path, outcome⟩] }
  | .resolve name context =>
    let (answer, analyzer) := Analyzer.resolve session.tree name context session.analyzer
    { session with analyzer, lookups := session.lookups ++ [⟨session.tree, name, context, answer⟩] }

def run (session : Session) (events : List Event) : Session :=
  events.foldl perform session

/-- Whether an analyzer keeps to what it told first, searching as `origin` does. -/
structure Remembers (origin : Analyzer) (session : Session) : Prop where
  lookups {lookup : Lookup} : lookup ∈ session.lookups →
    ∃ first, firstAsked? session.lookups lookup.name lookup.context = some first ∧
      lookup.answer = origin.search first.tree lookup.name first.context
  readings {reading : Reading} {module : ParsedModule} : reading ∈ session.readings →
    reading.outcome = .ok module →
      ∃ first text, firstRead? session.readings reading.canonical = some first ∧
        first.tree.text? first.canonical = some text ∧
        Python.imports? text = some module.imports
  /-- Nothing is kept of a file that could not be parsed. -/
  failed {path : Path} {error : SourceError} :
    (Analyzer.parse session.tree path session.analyzer).1 = .error error →
      (Analyzer.parse session.tree path session.analyzer).2 = session.analyzer
  count : session.analyzer.parsedCount = (Path.distinct (parsedPaths session.readings)).length

/-- Whether all calls have met one file tree. -/
structure Met (tree : FileTree) (session : Session) : Prop where
  readings {reading : Reading} : reading ∈ session.readings → reading.tree = tree
  lookups {lookup : Lookup} : lookup ∈ session.lookups → lookup.tree = tree

end Session

/-- Whether a path that leads nowhere is taken for that of a file read before. -/
def Mistaken (tree : FileTree) (before : List Reading) (path : Path) : Prop :=
  tree.locate? path = none ∧
    ∃ earlier ∈ before, earlier.outcome.isOk = true ∧ earlier.canonical.Same path

variable {origin : Analyzer} {session : Session} {readings : List Reading} {lookups : List Lookup}
  {tree : FileTree}

/-! ### First calls -/

theorem firstRead?_of_same {a b : Path} (same : a.Same b) (readings : List Reading) :
    firstRead? readings a = firstRead? readings b := by
  have iff_same (path : Path) : path.Same a ↔ path.Same b := by
    rw [Path.Same, Path.Same, show a.components = b.components from same]
  simp only [firstRead?, iff_same]

theorem firstAsked?_of_same {a b : Path} (same : a.Same b) (lookups : List Lookup)
    (name : String) : firstAsked? lookups name a = firstAsked? lookups name b := by
  have iff_same (path : Path) : path.Same a ↔ path.Same b := by
    rw [Path.Same, Path.Same, show a.components = b.components from same]
  simp only [firstAsked?, iff_same]

theorem of_firstRead? {canonical : Path} {first : Reading}
    (found : firstRead? readings canonical = some first) :
    first ∈ readings ∧ first.outcome.isOk = true ∧ first.canonical.Same canonical := by
  have holds := List.find?_some found
  rw [Bool.and_eq_true, decide_eq_true_iff] at holds
  exact ⟨List.mem_of_find?_eq_some found, holds⟩

theorem of_firstAsked? {name : String} {context : Path} {first : Lookup}
    (found : firstAsked? lookups name context = some first) :
    first ∈ lookups ∧ first.name = name ∧ first.context.Same context := by
  have holds := List.find?_some found
  rw [Bool.and_eq_true, decide_eq_true_iff, decide_eq_true_iff] at holds
  exact ⟨List.mem_of_find?_eq_some found, holds⟩

theorem isSome_firstRead?_iff {canonical : Path} :
    (firstRead? readings canonical).isSome = true ↔
      ∃ path ∈ parsedPaths readings, path.Same canonical := by
  simp [firstRead?, parsedPaths, List.find?_isSome, and_assoc]

/-- Nothing is found before what is found first. -/
theorem exists_index_of_find? {α : Type} {p : α → Bool} {elements : List α} {first : α}
    (found : elements.find? p = some first) :
    ∃ i, elements[i]? = some first ∧ (elements.take i).find? p = none := by
  obtain ⟨-, before, after, rfl, none_before⟩ := List.find?_eq_some_iff_append.mp found
  refine ⟨before.length, by simp, ?_⟩
  rw [List.take_left]
  exact List.find?_eq_none.mpr fun a member => by simpa using none_before a member

theorem getElem?_concat_cases {α : Type} {elements : List α} {last element : α} {i : Nat}
    (here : (elements ++ [last])[i]? = some element) :
    elements[i]? = some element ∧ (elements ++ [last]).take i = elements.take i ∨
      element = last ∧ (elements ++ [last]).take i = elements := by
  rcases Nat.lt_or_ge i elements.length with inside | behind
  · rw [List.getElem?_append_left inside] at here
    exact Or.inl ⟨here, List.take_append_of_le_length (Nat.le_of_lt inside)⟩
  · rw [List.getElem?_append_right behind, List.getElem?_singleton] at here
    split at here
    next at_end =>
      have index : i = elements.length := by omega
      exact Or.inr ⟨(Option.some.inj here).symm, by rw [index, List.take_left]⟩
    next => cases here

theorem firstRead?_of_take {i : Nat} {canonical : Path} {first : Reading}
    (found : firstRead? (readings.take i) canonical = some first) :
    firstRead? readings canonical = some first := by
  rw [firstRead?] at found ⊢
  rw [← List.take_append_drop i readings, List.find?_append, found, Option.some_or]

theorem exists_module_of_isOk {outcome : Except SourceError ParsedModule}
    (succeeded : outcome.isOk = true) : ∃ module, outcome = .ok module := by
  cases outcome with
  | error error => cases succeeded
  | ok module => exact ⟨module, rfl⟩

/-- What is found first is found before an element that holds, or is this element. -/
theorem find?_eq_or {α : Type} {p : α → Bool} {elements : List α} {element : α} {i : Nat}
    (here : elements[i]? = some element) (holds : p element = true) :
    elements.find? p = ((elements.take i).find? p).or (some element) := by
  obtain ⟨inside, rfl⟩ := List.getElem?_eq_some_iff.mp here
  conv_lhs => rw [← List.take_append_drop i elements, List.drop_eq_getElem_cons inside]
  rw [List.find?_append, List.find?_cons_of_pos holds]

/-- A file that is read by one path is read by every other path that leads to it. -/
theorem readModule_of_same (sound : tree.Sound) {a b : Path} {module : ParsedModule}
    (read : readModule tree a = .ok module) {place : FileTree.Place}
    (located : tree.locate? b = some place)
    (same : (tree.canonicalOrSelf a).Same (tree.canonicalOrSelf b)) :
    readModule tree b = .ok module := by
  obtain ⟨other, _, other_located, -⟩ := (readModule_eq_ok_iff sound).mp read
  have node_here := (sound.node?_of_locate? located).1
  have node_there := (sound.node?_of_locate? other_located).1
  rw [FileTree.canonicalOrSelf_of_locate? located,
    FileTree.canonicalOrSelf_of_locate? other_located] at same
  have location_eq := Location.eq_of_same (sound.plain node_there) (sound.plain node_here) same
  rw [← readModule_canonical sound located, ← location_eq]
  exact (readModule_canonical sound other_located).mpr read

theorem exists_text_of_readModule {path : Path} {module : ParsedModule}
    (read : readModule tree path = .ok module) :
    ∃ text, tree.text? (tree.canonicalOrSelf path) = some text ∧
      Python.imports? text = some module.imports := by
  unfold readModule at read
  dsimp only at read
  split at read
  next => cases read
  next text has_text =>
    split at read
    next => cases read
    next imports parsed =>
      cases read
      exact ⟨text, has_text, parsed⟩

/-! ### One call -/

/-- What a reading gives after others: what the first one gave, or what is read anew. -/
def outcomeAfter (before : List Reading) (tree : FileTree) (path : Path) :
    Except SourceError ParsedModule :=
  match firstRead? before (tree.canonicalOrSelf path) with
  | some first => first.outcome
  | none => readModule tree path

def answerAfter (origin : Analyzer) (before : List Lookup) (tree : FileTree) (name : String)
    (context : Path) : Option Path :=
  match firstAsked? before name context with
  | some first => first.answer
  | none => origin.search tree name context

/-- Whether an analyzer keeps just what the calls of a session tell. -/
structure Session.Kept (origin : Analyzer) (session : Session) : Prop where
  same_paths : session.analyzer.searchPaths = origin.searchPaths
  same_version : session.analyzer.pythonVersion = origin.pythonVersion
  parsed (path : Path) : session.analyzer.parsed.lookup path.components =
    (firstRead? session.readings path).bind (·.outcome.toOption)
  resolved (name : String) (context : Path) :
    session.analyzer.resolved.lookup (name, context.components) =
      (firstAsked? session.lookups name context).map (·.answer)
  keys : session.analyzer.parsed.map Prod.fst =
    ((Path.distinct (parsedPaths session.readings)).map Path.components).reverse
  outcomes {i : Nat} {reading : Reading} : session.readings[i]? = some reading →
    reading.outcome = outcomeAfter (session.readings.take i) reading.tree reading.path
  answers {i : Nat} {lookup : Lookup} : session.lookups[i]? = some lookup →
    lookup.answer =
      answerAfter origin (session.lookups.take i) lookup.tree lookup.name lookup.context

namespace Session

theorem kept_start (tree : FileTree) (searchPaths : List Path) (pythonVersion : Nat) :
    (start tree searchPaths pythonVersion).Kept (new tree searchPaths pythonVersion) where
  same_paths := rfl
  same_version := rfl
  parsed _ := rfl
  resolved _ _ := rfl
  keys := rfl
  outcomes here := by cases here
  answers here := by cases here

/-- What was read before stays, and only a first success is added. -/
theorem Kept.parse_cases (kept : session.Kept origin) (path : Path) :
    (∃ first module,
        firstRead? session.readings (session.tree.canonicalOrSelf path) = some first ∧
        first.outcome = .ok module ∧
        Analyzer.parse session.tree path session.analyzer = (.ok module, session.analyzer)) ∨
      firstRead? session.readings (session.tree.canonicalOrSelf path) = none ∧
        ((∃ error, readModule session.tree path = .error error ∧
            Analyzer.parse session.tree path session.analyzer =
              (.error error, session.analyzer)) ∨
          ∃ module, readModule session.tree path = .ok module ∧
            Analyzer.parse session.tree path session.analyzer = (.ok module,
              { session.analyzer with
                parsed := ((session.tree.canonicalOrSelf path).components, module) ::
                  session.analyzer.parsed })) := by
  have parsed := kept.parsed (session.tree.canonicalOrSelf path)
  cases first : firstRead? session.readings (session.tree.canonicalOrSelf path) with
  | some reading =>
    obtain ⟨-, succeeded, -⟩ := of_firstRead? first
    obtain ⟨module, outcome⟩ := exists_module_of_isOk succeeded
    rw [first, Option.bind_some, outcome, Except.toOption] at parsed
    exact Or.inl ⟨reading, module, rfl, outcome, by simp only [Analyzer.parse, parsed]⟩
  | none =>
    rw [first, Option.bind_none] at parsed
    refine Or.inr ⟨rfl, ?_⟩
    cases read : readModule session.tree path with
    | error error => exact Or.inl ⟨error, rfl, by simp only [Analyzer.parse, parsed, read]⟩
    | ok module => exact Or.inr ⟨module, rfl, by simp only [Analyzer.parse, parsed, read]⟩

/-- A reading behind others is found first where it succeeded and none before it did. -/
theorem firstRead?_concat (readings : List Reading) (last : Reading) (path : Path) :
    firstRead? (readings ++ [last]) path =
      (firstRead? readings path).or
        (if last.outcome.isOk && decide (last.canonical.Same path) then some last else none) := by
  rw [firstRead?, List.find?_append, List.find?_singleton]
  rfl

theorem firstAsked?_concat (lookups : List Lookup) (last : Lookup) (name : String)
    (context : Path) : firstAsked? (lookups ++ [last]) name context =
      (firstAsked? lookups name context).or
        (if decide (last.name = name) && decide (last.context.Same context) then some last
        else none) := by
  rw [firstAsked?, List.find?_append, List.find?_singleton]
  rfl

theorem parsedPaths_concat (readings : List Reading) (last : Reading) :
    parsedPaths (readings ++ [last]) =
      parsedPaths readings ++ if last.outcome.isOk then [last.canonical] else [] := by
  rw [parsedPaths, List.filter_append, List.map_append, List.filter_cons, List.filter_nil]
  split <;> rfl

private theorem Kept.outcomes_concat (kept : session.Kept origin) {last : Reading}
    (told : last.outcome = outcomeAfter session.readings last.tree last.path) {i : Nat}
    {reading : Reading} (here : (session.readings ++ [last])[i]? = some reading) :
    reading.outcome =
      outcomeAfter ((session.readings ++ [last]).take i) reading.tree reading.path := by
  rcases getElem?_concat_cases here with ⟨before, taken⟩ | ⟨rfl, taken⟩
  · rw [taken]
    exact kept.outcomes before
  · rw [taken]
    exact told

/-- A reading that fails, or repeats another one, is never a first success. -/
theorem Kept.append_known (kept : session.Kept origin) (last : Reading)
    (told : last.outcome = outcomeAfter session.readings last.tree last.path)
    (known : last.outcome.isOk = true →
      (firstRead? session.readings last.canonical).isSome = true) :
    Kept origin { session with readings := session.readings ++ [last] } := by
  refine { kept with
    parsed := fun path => ?_, keys := ?_, outcomes := fun here => kept.outcomes_concat told here }
  · rw [kept.parsed, firstRead?_concat]
    split
    next repeated =>
      obtain ⟨succeeded, same⟩ := Bool.and_eq_true_iff.mp repeated
      obtain ⟨first, found⟩ := Option.isSome_iff_exists.mp (known succeeded)
      rw [firstRead?_of_same (of_decide_eq_true same)] at found
      rw [found, Option.some_or]
    next => rw [Option.or_none]
  · rw [kept.keys, parsedPaths_concat]
    split
    next succeeded =>
      rw [Path.distinct_concat, if_pos (isSome_firstRead?_iff.mp (known succeeded))]
    next => rw [List.append_nil]

/-- The first success for a canonical path is kept under it. -/
theorem Kept.append_new (kept : session.Kept origin) (last : Reading) {module : ParsedModule}
    (told : last.outcome = outcomeAfter session.readings last.tree last.path)
    (outcome : last.outcome = .ok module)
    (absent : firstRead? session.readings last.canonical = none) :
    Kept origin { session with
      analyzer := { session.analyzer with
        parsed := (last.canonical.components, module) :: session.analyzer.parsed }
      readings := session.readings ++ [last] } := by
  have succeeded : last.outcome.isOk = true := by
    rw [outcome]
    rfl
  refine { kept with
    parsed := fun path => ?_, keys := ?_, outcomes := fun here => kept.outcomes_concat told here }
  · rw [List.lookup_cons, firstRead?_concat, succeeded, Bool.true_and]
    by_cases same : last.canonical.Same path
    · have components_eq : (path.components == last.canonical.components) = true :=
        beq_iff_eq.mpr same.symm
      rw [if_pos (decide_eq_true same), ← firstRead?_of_same same, absent, Option.none_or,
        Option.bind_some, outcome, components_eq]
      rfl
    · have components_ne : (path.components == last.canonical.components) = false :=
        beq_eq_false_iff_ne.mpr fun components_eq => same components_eq.symm
      rw [if_neg (by simp [same]), Option.or_none, components_ne]
      exact kept.parsed path
  · -- The new key is behind all others in the history, but stands first in the cache.
    have unknown : ¬ ∃ path ∈ parsedPaths session.readings, path.Same last.canonical := by
      rw [← isSome_firstRead?_iff, absent]
      exact Bool.false_ne_true
    rw [List.map_cons, kept.keys, parsedPaths_concat, if_pos succeeded, Path.distinct_concat,
      if_neg unknown, List.map_append, List.reverse_append]
    rfl

theorem Kept.parse (kept : session.Kept origin) (path : Path) :
    (session.perform (.parse path)).Kept origin := by
  rw [perform]
  rcases kept.parse_cases path with ⟨first, module, found, outcome, parse_eq⟩ |
    ⟨absent, ⟨error, read, parse_eq⟩ | ⟨module, read, parse_eq⟩⟩
  · rw [parse_eq]
    refine kept.append_known ⟨session.tree, path, .ok module⟩ ?_ ?_
    · rw [outcomeAfter, found, ← outcome]
    · intro _
      exact Option.isSome_of_eq_some found
  · rw [parse_eq]
    refine kept.append_known ⟨session.tree, path, .error error⟩ ?_ ?_
    · rw [outcomeAfter, absent, ← read]
    · intro succeeded
      cases succeeded
  · rw [parse_eq]
    refine kept.append_new ⟨session.tree, path, .ok module⟩ ?_ rfl absent
    rw [outcomeAfter, absent, ← read]

/-- A name that was looked up before, found or not, has the answer of the first lookup. -/
theorem Kept.resolve_cases (kept : session.Kept origin) (name : String) (context : Path) :
    (∃ first, firstAsked? session.lookups name context = some first ∧
        Analyzer.resolve session.tree name context session.analyzer =
          (first.answer, session.analyzer)) ∨
      firstAsked? session.lookups name context = none ∧
        Analyzer.resolve session.tree name context session.analyzer =
          (origin.search session.tree name context, { session.analyzer with
            resolved := ((name, context.components), origin.search session.tree name context) ::
              session.analyzer.resolved }) := by
  have resolved := kept.resolved name context
  have search_eq : session.analyzer.search session.tree name context =
      origin.search session.tree name context := by
    simp only [search, searchDirectories, kept.same_paths, kept.same_version]
  cases first : firstAsked? session.lookups name context with
  | some lookup =>
    rw [first, Option.map_some] at resolved
    exact Or.inl ⟨lookup, rfl, by simp only [Analyzer.resolve, resolved]⟩
  | none =>
    rw [first, Option.map_none] at resolved
    exact Or.inr ⟨rfl, by simp only [Analyzer.resolve, resolved, search_eq]⟩

private theorem Kept.answers_concat (kept : session.Kept origin) {last : Lookup}
    (told : last.answer = answerAfter origin session.lookups last.tree last.name last.context)
    {i : Nat} {lookup : Lookup} (here : (session.lookups ++ [last])[i]? = some lookup) :
    lookup.answer = answerAfter origin ((session.lookups ++ [last]).take i) lookup.tree
      lookup.name lookup.context := by
  rcases getElem?_concat_cases here with ⟨before, taken⟩ | ⟨rfl, taken⟩
  · rw [taken]
    exact kept.answers before
  · rw [taken]
    exact told

theorem Kept.resolve (kept : session.Kept origin) (name : String) (context : Path) :
    (session.perform (.resolve name context)).Kept origin := by
  rw [perform]
  rcases kept.resolve_cases name context with ⟨first, found, resolve_eq⟩ | ⟨absent, resolve_eq⟩
  · rw [resolve_eq]
    refine { kept with
      resolved := fun other around => ?_
      answers := fun here => kept.answers_concat ?_ here }
    · rw [kept.resolved, firstAsked?_concat]
      split
      next repeated =>
        obtain ⟨same_name, same⟩ := Bool.and_eq_true_iff.mp repeated
        rw [← of_decide_eq_true same_name, ← firstAsked?_of_same (of_decide_eq_true same), found,
          Option.some_or]
      next => rw [Option.or_none]
    · rw [answerAfter, found]
  · rw [resolve_eq]
    refine { kept with
      resolved := fun other around => ?_
      answers := fun here => kept.answers_concat ?_ here }
    · rw [List.lookup_cons, firstAsked?_concat]
      by_cases same : name = other ∧ context.Same around
      · obtain ⟨rfl, same⟩ := same
        have key_eq : ((name, around.components) == (name, context.components)) = true :=
          beq_iff_eq.mpr (congrArg (Prod.mk name) same.symm)
        rw [if_pos (by simp [same]), ← firstAsked?_of_same same, absent, key_eq]
        rfl
      · -- Another key is looked up past the new entry.
        have key_ne : ((other, around.components) == (name, context.components)) = false := by
          refine beq_eq_false_iff_ne.mpr fun key_eq => same ?_
          obtain ⟨same_name, components_eq⟩ := Prod.mk.inj key_eq
          exact ⟨same_name.symm, components_eq.symm⟩
        rw [if_neg (by simpa using fun h => same ∘ And.intro h), Option.or_none, key_ne]
        exact kept.resolved other around
    · rw [answerAfter, absent]

/-! ### Whole sessions -/

theorem Kept.perform (kept : session.Kept origin) (event : Event) :
    (session.perform event).Kept origin := by
  cases event with
  | change tree => exact { kept with }
  | parse path => exact kept.parse path
  | resolve name context => exact kept.resolve name context

theorem Kept.run (kept : session.Kept origin) (events : List Event) :
    (session.run events).Kept origin := by
  induction events generalizing session with
  | nil => exact kept
  | cons event rest ih => exact ih (kept.perform event)

/-- The first success for a canonical path was read anew. -/
theorem Kept.firstRead?_fresh (kept : session.Kept origin) {canonical : Path} {first : Reading}
    (found : firstRead? session.readings canonical = some first) :
    first.outcome = readModule first.tree first.path := by
  obtain ⟨-, -, same⟩ := of_firstRead? found
  obtain ⟨i, here, none_before⟩ := exists_index_of_find? found
  have absent : firstRead? (session.readings.take i) (first.tree.canonicalOrSelf first.path) =
      none := (firstRead?_of_same same _).trans none_before
  rw [kept.outcomes here, outcomeAfter, absent]

theorem Kept.firstAsked?_fresh (kept : session.Kept origin) {name : String} {context : Path}
    {first : Lookup} (found : firstAsked? session.lookups name context = some first) :
    first.answer = origin.search first.tree name first.context := by
  obtain ⟨-, rfl, same⟩ := of_firstAsked? found
  obtain ⟨i, here, none_before⟩ := exists_index_of_find? found
  have absent : firstAsked? (session.lookups.take i) first.name first.context = none :=
    (firstAsked?_of_same same _ _).trans none_before
  rw [kept.answers here, answerAfter, absent]

theorem Kept.outcome_eq_first (kept : session.Kept origin) {reading : Reading}
    (member : reading ∈ session.readings) (succeeded : reading.outcome.isOk = true) :
    ∃ first, firstRead? session.readings reading.canonical = some first ∧
      reading.outcome = first.outcome := by
  -- The reading succeeded itself, so the first success is no later one.
  obtain ⟨i, here⟩ := List.mem_iff_getElem?.mp member
  have whole : firstRead? session.readings reading.canonical =
      (firstRead? (session.readings.take i) reading.canonical).or (some reading) :=
    find?_eq_or here (Bool.and_eq_true_iff.mpr ⟨succeeded, decide_eq_true rfl⟩)
  have told := kept.outcomes here
  cases before : firstRead? (session.readings.take i) reading.canonical with
  | none => exact ⟨reading, by rw [whole, before, Option.none_or], rfl⟩
  | some first =>
    rw [Reading.canonical] at before
    exact ⟨first, by rw [whole, Reading.canonical, before, Option.some_or],
      by rw [told, outcomeAfter, before]⟩

theorem Kept.answer_eq_first (kept : session.Kept origin) {lookup : Lookup}
    (member : lookup ∈ session.lookups) :
    ∃ first, firstAsked? session.lookups lookup.name lookup.context = some first ∧
      lookup.answer = first.answer := by
  obtain ⟨i, here⟩ := List.mem_iff_getElem?.mp member
  have whole : firstAsked? session.lookups lookup.name lookup.context =
      (firstAsked? (session.lookups.take i) lookup.name lookup.context).or (some lookup) :=
    find?_eq_or here (Bool.and_eq_true_iff.mpr ⟨decide_eq_true rfl, decide_eq_true rfl⟩)
  have told := kept.answers here
  cases before : firstAsked? (session.lookups.take i) lookup.name lookup.context with
  | none => exact ⟨lookup, by rw [whole, before, Option.none_or], rfl⟩
  | some first =>
    exact ⟨first, by rw [whole, before, Option.some_or], by rw [told, answerAfter, before]⟩

/-- What is kept is what was told first. -/
theorem Kept.remembers (kept : session.Kept origin) : session.Remembers origin where
  lookups member := by
    obtain ⟨first, found, answer_eq⟩ := kept.answer_eq_first member
    exact ⟨first, found, answer_eq.trans (kept.firstAsked?_fresh found)⟩
  readings {reading module} member outcome := by
    obtain ⟨first, found, outcome_eq⟩ :=
      kept.outcome_eq_first member (by rw [outcome]; rfl)
    have read : readModule first.tree first.path = .ok module :=
      (kept.firstRead?_fresh found).symm.trans (outcome_eq.symm.trans outcome)
    obtain ⟨text, has_text, parsed⟩ := exists_text_of_readModule read
    exact ⟨first, text, found, has_text, parsed⟩
  failed {path error} failed := by
    rcases kept.parse_cases path with ⟨_, _, _, _, parse_eq⟩ |
      ⟨-, ⟨_, _, parse_eq⟩ | ⟨_, _, parse_eq⟩⟩ <;> rw [parse_eq] at failed
    · cases failed
    · rw [parse_eq]
    · cases failed
  count := by
    have lengths := congrArg List.length kept.keys
    rwa [List.length_map, List.length_reverse, List.length_map] at lengths

/-! ### Sessions in which nothing changes -/

theorem met_start (tree : FileTree) (searchPaths : List Path) (pythonVersion : Nat) :
    (start tree searchPaths pythonVersion).Met tree where
  readings member := by cases member
  lookups member := by cases member

theorem Met.run (met : session.Met tree) (here : session.tree = tree) {events : List Event}
    (unchanged : ∀ event ∈ events, event.isCall = true) : (session.run events).Met tree := by
  induction events generalizing session with
  | nil => exact met
  | cons event rest ih =>
    obtain ⟨call, later⟩ := List.forall_mem_cons.mp unchanged
    cases event with
    | change other => cases call
    | parse path =>
      refine ih ⟨fun member => ?_, met.lookups⟩ here later
      rcases List.mem_append.mp member with before | last
      · exact met.readings before
      · rw [List.mem_singleton.mp last]
        exact here
    | resolve name context =>
      refine ih ⟨met.readings, fun member => ?_⟩ here later
      rcases List.mem_append.mp member with before | last
      · exact met.lookups before
      · rw [List.mem_singleton.mp last]
        exact here

/-- Every name is looked up as it would be anew. -/
theorem Kept.answer_of_met (kept : session.Kept origin) (met : session.Met tree) {lookup : Lookup}
    (member : lookup ∈ session.lookups) :
    lookup.answer = origin.search tree lookup.name lookup.context := by
  obtain ⟨first, found, answer_eq⟩ := kept.remembers.lookups member
  obtain ⟨first_member, -, same⟩ := of_firstAsked? found
  rw [answer_eq, met.lookups first_member]
  exact origin.search_of_same same lookup.name

/-- A file is read as it would be anew, unless its path is mistaken for another one. -/
theorem Kept.outcome_iff (kept : session.Kept origin) (sound : tree.Sound)
    (met : session.Met tree) {i : Nat} {reading : Reading}
    (here : session.readings[i]? = some reading) :
    reading.outcome = readModule tree reading.path ↔
      ¬ Mistaken tree (session.readings.take i) reading.path := by
  have told := kept.outcomes here
  rw [outcomeAfter, met.readings (List.mem_of_getElem? here)] at told
  cases before : firstRead? (session.readings.take i) (tree.canonicalOrSelf reading.path) with
  | none =>
    rw [before] at told
    refine iff_of_true told ?_
    -- A path that leads nowhere is its own key, so an earlier success with its components counts.
    rintro ⟨missing, earlier, member, succeeded, same⟩
    have known := isSome_firstRead?_iff.mpr ⟨earlier.canonical,
      List.mem_map_of_mem (List.mem_filter.mpr ⟨member, succeeded⟩), same⟩
    rw [← FileTree.canonicalOrSelf_of_missing missing, before] at known
    cases known
  | some first =>
    -- An earlier success answers, and that is right where the path leads to its file.
    rw [before] at told
    obtain ⟨member, succeeded, same⟩ := of_firstRead? before
    have first_tree := met.readings (List.mem_of_mem_take member)
    have fresh := kept.firstRead?_fresh (firstRead?_of_take before)
    rw [first_tree] at fresh
    obtain ⟨module, outcome⟩ := exists_module_of_isOk succeeded
    have read : readModule tree first.path = .ok module := fresh.symm.trans outcome
    rw [told.trans outcome]
    cases there : tree.locate? reading.path with
    | none =>
      refine iff_of_false (fun read_here => ?_)
        (not_not_intro ⟨there, first, member, succeeded, ?_⟩)
      · obtain ⟨_, _, found, -⟩ := (readModule_eq_ok_iff sound).mp read_here.symm
        rw [there] at found
        cases found
      · rwa [FileTree.canonicalOrSelf_of_missing there] at same
    | some place =>
      refine iff_of_true ?_ fun mistaken => ?_
      · rw [Reading.canonical, first_tree] at same
        exact (readModule_of_same sound read there same).symm
      · rw [mistaken.1] at there
        cases there

/-- Only the path of a file that is closed as that of a directory is mistaken. -/
theorem Kept.closed_of_mistaken (kept : session.Kept origin) (sound : tree.Sound)
    (met : session.Met tree) {i : Nat} {path : Path}
    (mistaken : Mistaken tree (session.readings.take i) path) :
    ∃ location text, tree.node? location = some (.file (some text)) ∧
      path.Same location.path ∧ path.AsksDirectory := by
  obtain ⟨missing, earlier, member, succeeded, same⟩ := mistaken
  obtain ⟨first, found, -⟩ := kept.outcome_eq_first (List.mem_of_mem_take member) succeeded
  obtain ⟨first_member, first_succeeded, first_same⟩ := of_firstRead? found
  obtain ⟨module, outcome⟩ := exists_module_of_isOk first_succeeded
  have read := (kept.firstRead?_fresh found).symm.trans outcome
  rw [met.readings first_member] at read
  obtain ⟨⟨location, node⟩, text, located, has_text, -⟩ := (readModule_eq_ok_iff sound).mp read
  rw [Reading.canonical, met.readings first_member,
    FileTree.canonicalOrSelf_of_locate? located] at first_same
  have path_same : path.Same location.path := (first_same.trans same).symm
  obtain ⟨at_place, no_link⟩ := sound.node?_of_locate? located
  have asks := (sound.asksDirectory_of_missing at_place no_link path_same missing).1
  cases node with
  | file content =>
    rw [show content = some text from has_text] at at_place
    exact ⟨location, text, at_place, path_same, asks⟩
  | directory entries => cases has_text
  | link target => cases has_text

end Session

/-- However files change between the calls, a name has the answer that was found first, and a file
the imports of the text that was parsed first. Where all calls meet one file tree, an answer differs
from the one without caches exactly for a path that is mistaken. -/
theorem session_answers (start : FileTree) (searchPaths : List Path) (pythonVersion : Nat)
    (events : List Event) :
    let origin := new start searchPaths pythonVersion
    let session := (Session.start start searchPaths pythonVersion).run events
    session.Remembers origin ∧
      ∀ tree : FileTree, tree.Sound → session.Met tree →
        (∀ lookup ∈ session.lookups,
          lookup.answer = origin.search tree lookup.name lookup.context) ∧
        ∀ (i : Nat) (reading : Reading), session.readings[i]? = some reading →
          (reading.outcome = readModule tree reading.path ↔
            ¬ Mistaken tree (session.readings.take i) reading.path) := by
  intro origin session
  have kept : session.Kept origin :=
    (Session.kept_start start searchPaths pythonVersion).run events
  refine ⟨kept.remembers, fun tree sound met => ⟨?lookups, ?readings⟩⟩
  case lookups => exact fun lookup member => kept.answer_of_met met member
  case readings => exact fun i reading here => kept.outcome_iff sound met here

/-- One file at the root. -/
def shelf : FileTree where
  root := .directory [("x.py", .file (some "import y\n"))]
  here := []

/-- As long as no path is closed behind the file, all is told as it would be found anew. -/
theorem shelf_told :
    let origin := new shelf [] 12
    let session := (Session.start shelf [] 12).run
      [.parse ⟨"/x.py"⟩, .resolve "x" ⟨"/"⟩, .parse ⟨"//x.py"⟩]
    session.Remembers origin ∧ shelf.Sound ∧ session.Met shelf ∧
      (∀ lookup ∈ session.lookups,
        lookup.answer = origin.search shelf lookup.name lookup.context) ∧
      ∃ reading, session.readings[1]? = some reading ∧ reading.path = ⟨"//x.py"⟩ ∧
        reading.outcome = readModule shelf ⟨"//x.py"⟩ := by
  intro origin session
  obtain ⟨remembers, unchanged⟩ := session_answers shelf [] 12
    [.parse ⟨"/x.py"⟩, .resolve "x" ⟨"/"⟩, .parse ⟨"//x.py"⟩]
  have sound : shelf.Sound := FileTree.sound_of_plainNames (by decide) (by decide)
  have met : session.Met shelf :=
    (Session.met_start shelf [] 12).run rfl (by decide)
  obtain ⟨lookups, readings⟩ := unchanged shelf sound met
  have told : session.readings.map (·.path) = [⟨"/x.py"⟩, ⟨"//x.py"⟩] := by decide +kernel
  have second := congrArg (·[1]?) told
  rw [List.getElem?_map] at second
  obtain ⟨reading, here, path_eq⟩ := Option.map_eq_some_iff.mp second
  refine ⟨remembers, sound, met, lookups, reading, here, path_eq, ?_⟩
  rw [(readings 1 reading here).mpr, path_eq]
  rintro ⟨missing, -⟩
  have found : (shelf.locate? ⟨"//x.py"⟩).isSome = true := by decide +kernel
  rw [← path_eq, missing] at found
  cases found

/-- The path that is closed behind the file leads nowhere, until the file is read by its own
path. -/
theorem shelf_mistaken :
    ((Session.start shelf [] 12).run
        [.parse ⟨"/x.py/"⟩, .parse ⟨"/x.py"⟩, .parse ⟨"/x.py/"⟩]).readings.map (·.outcome) =
      [.error (.unreadable ⟨"/x.py/"⟩), .ok ⟨⟨"/x.py"⟩, [⟨some "y", [], 0⟩]⟩,
        .ok ⟨⟨"/x.py"⟩, [⟨some "y", [], 0⟩]⟩] ∧
    readModule shelf ⟨"/x.py/"⟩ = .error (.unreadable ⟨"/x.py/"⟩) := by
  decide +kernel

end Analyzer

end PackageAtlas
