import Mathlib.Logic.Relation
import PackageAtlas.Proofs.Project.BuildTask

/-!
# Builds by several workers

In the two phases of a build the open tasks share the caches, and any of them may make the next
access. However they take turns, and whatever earlier calls have left in the caches, a build comes
to its end and gives the project that it gives without caches.
-/
namespace PackageAtlas

/-- How far a build has come. -/
inductive Stage where
  | reading (packages : Project) (tasks : List (Task (Option FoundFile)))
  | resolving (files : Project) (tasks : List (Task (FileId × List ImportTarget)))
  | built (project : Project)

namespace Stage

/-- The stage with all packages, and a task for each file that may become one of the project. -/
def start (tree : FileTree) (root : Location) : Stage :=
  let packages := Project.ofDirectory tree root
  .reading packages ((packages.fileCandidates tree).map fun (package, name) =>
    packages.readTask package name)

/-- One step of a build. What the tasks of a phase give is put into the project only when all of
them are done, in the order of the tasks. -/
inductive Advance (tree : FileTree) : Stage × Analyzer → Stage × Analyzer → Prop
  | read {packages : Project} {tasks next : List (Task (Option FoundFile))}
      {analyzer after : Analyzer} :
      Task.Turn tree (tasks, analyzer) (next, after) →
        Advance tree (.reading packages tasks, analyzer) (.reading packages next, after)
  | fill {packages files : Project} {found : List (Option FoundFile)} {analyzer : Analyzer} :
      files = (found.filterMap id).foldl Project.addFound packages →
        Advance tree (.reading packages (found.map .done), analyzer)
          (.resolving files (files.files.map (Project.targetsTask tree)), analyzer)
  | resolve {files : Project} {tasks next : List (Task (FileId × List ImportTarget))}
      {analyzer after : Analyzer} :
      Task.Turn tree (tasks, analyzer) (next, after) →
        Advance tree (.resolving files tasks, analyzer) (.resolving files next, after)
  | finish {files : Project} {targets : List (FileId × List ImportTarget)}
      {analyzer : Analyzer} :
      Advance tree (.resolving files (targets.map .done), analyzer)
        (.built (files.withTargets targets), analyzer)

/-- Whether a build that starts at one stage can come to another one. -/
def Runs (tree : FileTree) : Stage × Analyzer → Stage × Analyzer → Prop :=
  Relation.ReflTransGen (Advance tree)

variable {origin analyzer after : Analyzer} {tree : FileTree} {top : FileTree.Place}
  {root : Path} {stage next : Stage}

/-! ### One step -/

/-- Whether a build is on the way to the project that it gives without caches. -/
def Heads (origin : Analyzer) (tree : FileTree) (top : Location) :
    Stage → Analyzer → Prop
  | .reading packages tasks, analyzer =>
    packages = Project.ofDirectory tree top ∧
      Task.Underway origin tree ((packages.fileCandidates tree).map fun (package, name) =>
        (packages.readTask package name).answer origin tree) tasks analyzer
  | .resolving files tasks, analyzer =>
    files = Project.filesOfDirectory tree top ∧
      Task.Underway origin tree (files.files.map fun file =>
        (file.id, Project.searchedTargets origin tree file)) tasks analyzer
  | .built project, analyzer =>
    project = Project.uncached origin tree top ∧ origin.Faithful tree analyzer

/-- A bound for the number of steps that are left. -/
def stepsLeft (origin : Analyzer) (tree : FileTree) (top : Location) : Stage → Nat
  | .reading _ tasks =>
    Task.remaining origin tree tasks +
      (Task.remaining origin tree
        ((Project.filesOfDirectory tree top).files.map (Project.targetsTask tree)) + 2)
  | .resolving _ tasks => Task.remaining origin tree tasks + 1
  | .built _ => 0

theorem heads_start (sound : tree.Sound) (faithful : origin.Faithful tree analyzer)
    (found : tree.locate? root = some top) :
    Heads origin tree top.location (start tree top.location) analyzer := by
  refine ⟨rfl, faithful, fun task member => ?_, ?_⟩
  · obtain ⟨candidate, among, rfl⟩ := List.mem_map.mp member
    exact Project.posed_readTask sound found among
  · rw [List.map_map]
    rfl

/-- Every step keeps the build on its way, and brings it nearer to the end. -/
theorem Heads.advance (heads : Heads origin tree top.location stage analyzer)
    (sound : tree.Sound) (found : tree.locate? root = some top)
    (advance : Advance tree (stage, analyzer) (next, after)) :
    Heads origin tree top.location next after ∧
      stepsLeft origin tree top.location next < stepsLeft origin tree top.location stage := by
  generalize before_eq : (stage, analyzer) = before at advance
  generalize behind_eq : (next, after) = behind at advance
  cases advance with
  | read turn =>
    cases before_eq
    cases behind_eq
    obtain ⟨packages_eq, underway⟩ := heads
    obtain ⟨onward, fewer⟩ := underway.turn sound turn
    refine ⟨⟨packages_eq, onward⟩, ?_⟩
    rw [stepsLeft, stepsLeft]
    omega
  | fill files_eq =>
    cases before_eq
    cases behind_eq
    obtain ⟨rfl, underway⟩ := heads
    -- Whatever the turns were, the next phase begins with the same files.
    have all_found := underway.eq_of_done
    rw [all_found, Project.foldl_answer_readTask] at files_eq
    subst files_eq
    refine ⟨⟨rfl, underway.faithful, fun task member => ?_, ?_⟩, ?_⟩
    · obtain ⟨file, among, rfl⟩ := List.mem_map.mp member
      exact Project.posed_targetsTask sound found among
    · rw [List.map_map]
      exact List.map_congr_left fun file _ => Project.answer_targetsTask file
    · rw [stepsLeft, stepsLeft]
      omega
  | resolve turn =>
    cases before_eq
    cases behind_eq
    obtain ⟨files_eq, underway⟩ := heads
    obtain ⟨onward, fewer⟩ := underway.turn sound turn
    refine ⟨⟨files_eq, onward⟩, ?_⟩
    rw [stepsLeft, stepsLeft]
    omega
  | finish =>
    cases before_eq
    cases behind_eq
    obtain ⟨rfl, underway⟩ := heads
    rw [underway.eq_of_done]
    refine ⟨⟨rfl, underway.faithful⟩, ?_⟩
    rw [stepsLeft, stepsLeft]
    exact Nat.zero_lt_succ _

/-- A build that is not at its end can go on. -/
theorem advance_or_built (tree : FileTree) (stage : Stage) (analyzer : Analyzer) :
    (∃ next after, Advance tree (stage, analyzer) (next, after)) ∨
      ∃ project, stage = .built project := by
  cases stage with
  | reading packages tasks =>
    rcases Task.turn_or_done tree tasks analyzer with ⟨next, after, turn⟩ | ⟨found, rfl⟩
    · exact Or.inl ⟨_, _, .read turn⟩
    · exact Or.inl ⟨_, _, .fill rfl⟩
  | resolving files tasks =>
    rcases Task.turn_or_done tree tasks analyzer with ⟨next, after, turn⟩ | ⟨targets, rfl⟩
    · exact Or.inl ⟨_, _, .resolve turn⟩
    · exact Or.inl ⟨_, _, .finish⟩
  | built project => exact Or.inr ⟨project, rfl⟩

/-! ### Whole runs -/

theorem Heads.runs (heads : Heads origin tree top.location stage analyzer) (sound : tree.Sound)
    (found : tree.locate? root = some top)
    (runs : Runs tree (stage, analyzer) (next, after)) :
    Heads origin tree top.location next after := by
  generalize behind_eq : (next, after) = behind at runs
  induction runs generalizing next after with
  | refl =>
    cases behind_eq
    exact heads
  | @tail middle _ _ step ih =>
    subst behind_eq
    exact ((ih rfl).advance sound found step).1

/-- No build goes on forever. -/
theorem Heads.acc (heads : Heads origin tree top.location stage analyzer) (sound : tree.Sound)
    (found : tree.locate? root = some top) :
    Acc (fun next before => Advance tree before next) (stage, analyzer) := by
  -- By the number of steps that are left. Each step keeps the build on its way, so it is a bound
  -- for what follows as well.
  induction count : stepsLeft origin tree top.location stage using Nat.strongRecOn
    generalizing stage analyzer with
  | ind count ih =>
    constructor
    rintro ⟨next, after⟩ advance
    obtain ⟨onward, fewer⟩ := heads.advance sound found advance
    exact ih _ (count ▸ fewer) onward rfl

end Stage

/-! ### Used analyzers -/

/-- Analyzers as any calls on one file tree leave them: parsing files, looking up names, and builds,
also those that have not come to their end. -/
inductive Used (tree : FileTree) (searchPaths : List Path) (pythonVersion : Nat) :
    Analyzer → Prop
  | new : Used tree searchPaths pythonVersion (Analyzer.new tree searchPaths pythonVersion)
  | parse {analyzer : Analyzer} (path : Path) :
      Used tree searchPaths pythonVersion analyzer →
        Used tree searchPaths pythonVersion (Analyzer.parse tree path analyzer).2
  | resolve {analyzer : Analyzer} (name : String) (context : Path) :
      Used tree searchPaths pythonVersion analyzer →
        Used tree searchPaths pythonVersion (Analyzer.resolve tree name context analyzer).2
  | build {analyzer : Analyzer} (root : Path) :
      Used tree searchPaths pythonVersion analyzer →
        Used tree searchPaths pythonVersion (Project.build tree root analyzer).2
  | schedule {analyzer after : Analyzer} {root : Path} {top : FileTree.Place} {stage : Stage} :
      Used tree searchPaths pythonVersion analyzer → tree.locate? root = some top →
        Stage.Runs tree (Stage.start tree top.location, analyzer) (stage, after) →
          Used tree searchPaths pythonVersion after

variable {tree : FileTree} {searchPaths : List Path} {pythonVersion : Nat} {analyzer : Analyzer}

theorem Stage.Heads.faithful {origin : Analyzer} {top : Location} {stage : Stage}
    (heads : Stage.Heads origin tree top stage analyzer) : origin.Faithful tree analyzer := by
  cases stage with
  | reading packages tasks => exact heads.2.faithful
  | resolving files tasks => exact heads.2.faithful
  | built project => exact heads.2

/-- Nothing but what would be found anew is ever kept. -/
theorem Used.faithful (used : Used tree searchPaths pythonVersion analyzer)
    (sound : tree.Sound) :
    (Analyzer.new tree searchPaths pythonVersion).Faithful tree analyzer := by
  induction used with
  | new => exact Analyzer.faithful_new tree searchPaths pythonVersion
  | parse path _ ih => exact ih.parse sound path
  | resolve name context _ ih => exact ih.resolve name context
  | @build analyzer root _ ih =>
    cases found : tree.locate? root with
    | none =>
      rw [Project.build_of_missing found]
      exact ih
    | some top => exact (Project.build_of_faithful sound ih found).2
  | schedule _ found runs ih =>
    -- A build that was left somewhere on its way has kept nothing else either.
    exact ((Stage.heads_start sound ih found).runs sound found runs).faithful

namespace Project

/-- What is built depends neither on what an analyzer has kept from earlier calls nor on how the
tasks of the build take turns, and every build comes to its end. -/
theorem build_unscheduled (sound : tree.Sound)
    (used : Used tree searchPaths pythonVersion analyzer) (root : Path) :
    (build tree root analyzer).1 =
        (build tree root (Analyzer.new tree searchPaths pythonVersion)).1 ∧
      ∀ top, tree.locate? root = some top →
        ∃ project, (build tree root analyzer).1 = some project ∧
          (∀ stage after,
            Stage.Runs tree (Stage.start tree top.location, analyzer) (stage, after) →
              stage = .built project ∨
                (∀ other, stage ≠ .built other) ∧
                  ∃ next, Stage.Advance tree (stage, after) next) ∧
          Acc (fun next before => Stage.Advance tree before next)
            (Stage.start tree top.location, analyzer) := by
  have faithful := used.faithful sound
  have fresh := Analyzer.faithful_new tree searchPaths pythonVersion
  refine ⟨?_, fun top found => ?_⟩
  · cases found : tree.locate? root with
    | none => rw [build_of_missing found, build_of_missing found]
    | some top =>
      rw [(build_of_faithful sound faithful found).1, (build_of_faithful sound fresh found).1]
  · have heads := Stage.heads_start sound faithful found
    refine ⟨_, (build_of_faithful sound faithful found).1, fun stage after runs => ?_,
      heads.acc sound found⟩
    have arrived := heads.runs sound found runs
    rcases Stage.advance_or_built tree stage after with ⟨next, later, advance⟩ | ⟨project, rfl⟩
    · refine Or.inr ⟨?_, (next, later), advance⟩
      rintro other rfl
      cases advance
    · exact Or.inl (congrArg Stage.built arrived.1)

/-- A package in a package, where files and directories can also be reached by links. -/
def storefront : FileTree where
  root := .directory [("shop", .directory [
    ("__init__.py", .file (some "")),
    ("stock.py", .file (some "import alias\nimport linked.items\n")),
    ("alias.py", .link "cart/items.py"),
    ("linked", .link "cart"),
    ("cart", .directory [
      ("__init__.py", .link "../__init__.py"),
      ("items.py", .file (some "from .. import stock\n"))])])]
  here := []

theorem storefront_sound : storefront.Sound :=
  FileTree.sound_of_plainNames (by decide) (by decide)

theorem exists_storefront :
    ∃ place, storefront.locate? ⟨"/shop"⟩ = some place ∧ place.location = ["shop"] :=
  Option.map_eq_some_iff.mp (by decide +kernel)

/-- A link will do as the marker of a package. -/
theorem storefront_cart : storefront.PackageBelow ["shop"] ["cart"] := by
  refine ⟨?_, trivial⟩
  exact {
    directory := ⟨_, rfl, rfl⟩
    shown := by decide
    kept := by decide
    marked := by decide +kernel }

theorem storefront_items :
    storefront.text? ⟨"/shop/cart/items.py"⟩ = some "from .. import stock\n" ∧
      Python.imports? "from .. import stock\n" = some [⟨none, [("stock", none)], 2⟩] := by
  decide +kernel

/-- An analyzer that has parsed a file by a link and looked up a name in a directory that is spelled
with more slashes than it needs builds what a new one builds, whatever the turns. -/
theorem storefront_build_unscheduled :
    let fresh := Analyzer.new storefront [] 12
    let analyzer := (Analyzer.resolve storefront "items" ⟨"/shop//cart/."⟩
      (Analyzer.parse storefront ⟨"/shop/alias.py"⟩ fresh).2).2
    analyzer.parsedCount = 1 ∧ analyzer.resolved.length = 1 ∧
      ∃ project, (build storefront ⟨"/shop"⟩ fresh).1 = some project ∧
        ∀ other after,
          Stage.Runs storefront (Stage.start storefront ["shop"], analyzer) (.built other, after) →
            other = project := by
  intro fresh analyzer
  have used : Used storefront [] 12 analyzer := .resolve _ _ (.parse _ .new)
  obtain ⟨place, found, at_shop⟩ := exists_storefront
  obtain ⟨same, onward⟩ := build_unscheduled storefront_sound used ⟨"/shop"⟩
  obtain ⟨project, built, always, -⟩ := onward place found
  rw [at_shop] at always
  refine ⟨by decide +kernel, by decide +kernel, project, same.symm.trans built, ?_⟩
  intro other after runs
  rcases always _ _ runs with ended | ⟨not_built, -⟩
  · exact Stage.built.inj ended
  · exact absurd rfl (not_built other)

end Project

end PackageAtlas
