import PackageAtlas.Command.Run
import PackageAtlas.Proofs.Config.Applied
import PackageAtlas.Proofs.FileTree.Saving
import PackageAtlas.Proofs.View.Changes
import PackageAtlas.Proofs.View.PlainViews

/-!
# Comparing two checkouts

The views that differ are drawn and reported, in the order of the configuration. An older checkout
may lack what a view shows, but not what a policy or the scope names: these are looked up in it as
well, although nothing is checked in a comparison.
-/
namespace PackageAtlas

def OutputFormat.extension : OutputFormat → String
  | .plantUml => "puml"
  | .json => "json"

/-- The name of the file that holds the comparison of a view. -/
def Config.diffName (config : Config) (viewName : String) : String :=
  config.name ++ "-" ++ ("diff-" ++ viewName) ++ "." ++ config.format.extension

def Config.diffPath (config : Config) (viewName : String) : Path :=
  config.saveLocation.child (config.diffName viewName)

/-- Whether one view of two projects shows other packages, or other counts of dependencies. -/
def ViewSpec.Differs (spec : ViewSpec) (project baseline : Project) : Prop :=
  ((project.view spec).table fun dependency => dependency.count) ≠
    (baseline.view spec).table fun dependency => dependency.count

instance (spec : ViewSpec) (project baseline : Project) :
    Decidable (spec.Differs project baseline) :=
  inferInstanceAs (Decidable (_ ≠ _))

/-- The views of a configuration that differ, in order. -/
def Config.changedViews (config : Config) (project baseline : Project) :
    List (String × ViewSpec) :=
  config.views.filter fun view => view.2.Differs project baseline

namespace Command

/-- Whether documents can be saved at paths in a row, whatever their texts and whichever of them
there are. -/
def Writable : FileTree → List Path → Prop
  | _, [] => True
  | tree, path :: rest => Writable tree rest ∧
      ∀ text, ∃ after, tree.save? path (some text) = some after ∧ Writable after rest

/-- What a directory receives can be written, one after the other. -/
theorem writable_of_receives {tree : FileTree} {base : Path} {names chosen : List String}
    (receives : tree.Receives base names) (among : chosen ⊆ names) :
    Writable tree (chosen.map base.child) := by
  induction chosen generalizing tree with
  | nil => trivial
  | cons name rest ih =>
    -- The document may be left out. Where it is saved, the directory receives the rest as before.
    obtain ⟨here, later⟩ := List.cons_subset.mp among
    refine ⟨ih receives later, fun text => ?_⟩
    obtain ⟨after, saved, receives_after⟩ := receives.save here (some text)
    exact ⟨after, saved, ih receives_after later⟩

def saveAll (config : Config) (drawings : List Drawing) (tree : FileTree) : Option FileTree :=
  drawings.foldlM (fun tree drawing =>
    tree.save? (outputPath config drawing) (some drawing.document.text)) tree

/-- The document of a view's comparison, reported by the name of the view. -/
def comparison (config : Config) (project baseline : Project) (view : String × ViewSpec) :
    Drawing where
  stem := "diff-" ++ view.1
  document := config.render view.1
    (((project.view view.2).diff (baseline.view view.2)).applyLabels view.2.labelsByPath)
  report := some view.1

/-! ### Drawing one view after another -/

/-- What is drawn without an error is saved and reported. -/
theorem drawAll_eq_success {config : Config}
    {draw : String → ViewSpec → Except LookupError (Option Drawing)}
    {chosen : String × ViewSpec → Bool} {drawing : String × ViewSpec → Drawing}
    {views : List (String × ViewSpec)}
    (draws : ∀ view ∈ views,
      draw view.1 view.2 = .ok (if chosen view then some (drawing view) else none))
    {tree : FileTree}
    (writable : Writable tree (views.map fun view => outputPath config (drawing view))) :
    let drawings := (views.filter chosen).map drawing
    ∃ after, saveAll config drawings tree = some after ∧
      drawAll config draw tree views = .success after
        (String.join ((drawings.filterMap (·.report)).map (· ++ "\n"))) := by
  induction views generalizing tree with
  | nil => exact ⟨tree, rfl, rfl⟩
  | cons view rest ih =>
    obtain ⟨here, later⟩ := List.forall_mem_cons.mp draws
    rw [List.map_cons, Writable] at writable
    obtain ⟨name, spec⟩ := view
    rw [drawAll, show draw name spec = _ from here, List.filter_cons]
    cases wanted : chosen (name, spec) with
    | false => exact ih later writable.1
    | true =>
      obtain ⟨saved, save_eq, writable_after⟩ := writable.2 (drawing (name, spec)).document.text
      obtain ⟨after, saves, drawAll_eq⟩ := ih later writable_after
      refine ⟨after, ?_, ?_⟩
      · rw [if_pos rfl, List.map_cons, saveAll, List.foldlM_cons, save_eq]
        exact saves
      · simp only [if_true, save_eq, drawAll_eq]
        rw [List.map_cons, List.filterMap_cons]
        cases (drawing (name, spec)).report with
        | none => rfl
        | some line => simp [Outcome.behindLine, Outcome.success, String.append_assoc]

variable {config : Config} {project baseline : Project}

theorem outputPath_comparison (config : Config) (project baseline : Project)
    (view : String × ViewSpec) :
    outputPath config (comparison config project baseline view) = config.diffPath view.1 := by
  have extension_eq (name : String) (drawn : View) :
      (config.render name drawn).extension = config.format.extension := by
    rw [Config.render]
    cases config.format <;> rfl
  rw [outputPath, comparison, extension_eq]
  rfl

/-- A view is drawn exactly if it differs. -/
theorem drawDiff_eq (reachable : Project.Reachable PlainName project)
    (baseline_reachable : Project.Reachable PlainName baseline) {name : String} {spec : ViewSpec}
    (valid : project.validateSpec name spec = .ok ()) :
    drawDiff config project baseline name spec =
      .ok (if decide (spec.Differs project baseline) then
        some (comparison config project baseline (name, spec)) else none) := by
  have plain {any : Project} (made : Project.Reachable PlainName any) : (any.view spec).Plain :=
    (made.mono fun _ name => name.single.relativeName).view_plain spec
  have unchanged_iff :=
    (plain reachable).hasChanges_diff_eq_false_iff (plain baseline_reachable)
  have changes_eq : ((project.view spec).diff (baseline.view spec)).hasChanges =
      decide (spec.Differs project baseline) := by
    rw [Bool.eq_iff_iff, ← Bool.not_eq_false, unchanged_iff, decide_eq_true_iff]
    rfl
  rw [drawDiff, valid]
  simp only [bind, Except.bind, pure, Except.pure, changes_eq]
  split <;> rfl

/-- The views that differ are drawn, whichever they are. -/
theorem drawAll_drawDiff {tree : FileTree} (reachable : Project.Reachable PlainName project)
    (baseline_reachable : Project.Reachable PlainName baseline)
    (valid : ∀ view ∈ config.views, project.validateSpec view.1 view.2 = .ok ())
    (writable : Writable tree (config.views.map fun view => config.diffPath view.1)) :
    let changed := config.changedViews project baseline
    ∃ after,
      saveAll config (changed.map (comparison config project baseline)) tree = some after ∧
      drawAll config (drawDiff config project baseline) tree config.views =
        .success after (String.join (changed.map (·.1 ++ "\n"))) := by
  intro changed
  have places_eq : (config.views.map fun view => config.diffPath view.1) = config.views.map
      fun view => outputPath config (comparison config project baseline view) := by
    simp only [outputPath_comparison]
  rw [places_eq] at writable
  obtain ⟨after, saves, drawAll_eq⟩ := drawAll_eq_success (fun view member =>
    drawDiff_eq reachable baseline_reachable (valid view member)) writable
  have reports_eq : (changed.map (comparison config project baseline)).filterMap (·.report) =
      changed.map (·.1) := by
    rw [List.filterMap_map]
    exact congrFun (List.filterMap_eq_map (f := fun view : String × ViewSpec => view.1)) changed
  refine ⟨after, saves, drawAll_eq.trans ?_⟩
  rw [show config.views.filter _ = changed from rfl, reports_eq, List.map_map]
  rfl

/-- What a comparison asks for: a project that can be built and has what its views show, a root
folder in the other checkout, and a place for documents. -/
structure Comparable (tree : FileTree) (config : Config) (directory base : Path)
    (project : Project) : Prop where
  sound : tree.Sound
  built : config.project tree = .ok project
  valid : ∀ view ∈ config.views, project.validateSpec view.1 view.2 = .ok ()
  accessible : ∃ place, tree.locate? (config.rebased directory base).rootFolder = some place
  writable : Writable tree (config.views.map fun view => config.diffPath view.1)

/-- A comparison succeeds exactly if the older project has what policies and scope name. It draws
and reports the views that differ then, and nothing otherwise. -/
theorem Comparable.compare_exact {tree : FileTree} {directory base : Path}
    (comparable : Comparable tree config directory base project) :
    ∃ older, (config.rebased directory base).model? tree = some older ∧
      (config.Fits older → ∃ baseline after, config.applied older = .ok baseline ∧
        saveAll config ((config.changedViews project baseline).map
          (comparison config project baseline)) tree = some after ∧
        compare tree config directory base = .success after
          (String.join ((config.changedViews project baseline).map (·.1 ++ "\n")))) ∧
      (¬ config.Fits older → ∃ error, compare tree config directory base =
        .failure tree ("Failed to build the baseline model: " ++ ProjectError.message error)) := by
  obtain ⟨sound, built, valid, accessible, writable⟩ := comparable
  obtain ⟨older, built_older⟩ := (Config.exists_model?_iff sound).mpr accessible
  -- The older project is built whatever it lacks. What can fail is what is applied to it.
  have baseline_eq : (config.rebased directory base).project tree = config.applied older :=
    (Config.project_of_model? built_older).trans (Config.applied_rebased directory base)
  refine ⟨older, built_older, fun fits => ?fits, fun lacks => ?lacks⟩
  case fits =>
    obtain ⟨baseline, applied⟩ := Config.exists_applied_iff.mpr fits
    have older_reachable := Config.reachable_model? sound built_older
    obtain ⟨after, saves, drawAll_eq⟩ := drawAll_drawDiff (Config.reachable_project sound built)
      (Config.reachable_applied older_reachable applied) valid writable
    refine ⟨baseline, after, applied, saves, ?_⟩
    rw [compare, built, baseline_eq, applied]
    exact drawAll_eq
  case lacks =>
    cases failed : config.applied older with
    | ok baseline => exact absurd (Config.exists_applied_iff.mp ⟨baseline, failed⟩) lacks
    | error error => exact ⟨error, by rw [compare, built, baseline_eq, failed]⟩

/-- A command that asks for a comparison succeeds exactly if the older project has what policies and
scope name. It saves the documents of the views that differ then, and prints their names. -/
theorem diff_exact {tree : FileTree} {arguments : List String} {base path : Path}
    {format : Option OutputFormat} {loaded : Config}
    (asked : Request.ofArguments arguments = .run (.diff base) path format)
    (read : Config.load tree path = .ok loaded)
    (formatted : { loaded with format := format.getD loaded.format } = config)
    (comparable : Comparable tree config (path.parent?.getD ⟨""⟩) base project) :
    ∃ older, (config.rebased (path.parent?.getD ⟨""⟩) base).model? tree = some older ∧
      ((run tree arguments).exitCode = 0 ↔ config.Fits older) ∧
      ∀ baseline, config.applied older = .ok baseline →
        let changed := config.changedViews project baseline
        ∃ after,
          saveAll config (changed.map (comparison config project baseline)) tree = some after ∧
          run tree arguments = .success after (String.join (changed.map (·.1 ++ "\n"))) := by
  have run_eq : run tree arguments = compare tree config (path.parent?.getD ⟨""⟩) base := by
    rw [run, asked, ← formatted]
    simp only [read]
  obtain ⟨older, built_older, succeeds, fails⟩ := comparable.compare_exact
  refine ⟨older, built_older, ?code, fun baseline applied => ?documents⟩
  case code =>
    rw [run_eq]
    by_cases fits : config.Fits older
    · obtain ⟨baseline, after, -, -, compared⟩ := succeeds fits
      exact iff_of_true (by rw [compared]; rfl) fits
    · obtain ⟨error, compared⟩ := fails fits
      exact iff_of_false (by rw [compared]; exact Nat.one_ne_zero) fits
  case documents =>
    obtain ⟨same, after, applied_too, saved, compared⟩ :=
      succeeds (Config.exists_applied_iff.mp ⟨baseline, applied⟩)
    cases applied.symm.trans applied_too
    exact ⟨after, saved, run_eq.trans compared⟩

/-! ### A package that the other checkout lacks -/

/-- The checkouts of two branches. A package was added to the one that is worked on. -/
def branches (settings : String) : FileTree :=
  let changed := FileTree.Node.directory [
    ("archlens.toml", .file (some (settings ++ "[views]\nadded.packages = ['web']\n"))),
    ("diagrams", .directory []),
    ("shop", .directory [("web", .directory [("__init__.py", .file (some ""))])])]
  ⟨.directory [("main", .directory [("shop", .directory [])]), ("pr", changed)], ["pr"]⟩

theorem branches_sound (settings : String) : (branches settings).Sound :=
  FileTree.sound_of_plainNames rfl rfl

/-- What the configuration of the branches says, with a scope or without one. -/
def branchesConfig (scope : Option String) : Config :=
  { Config.standard with
    rootFolder := ⟨"shop"⟩
    scope
    views := [("added", ⟨[.byPrefix "web"], [], none⟩)] }

theorem branches_writable {settings : String}
    (prepared : ((branches settings).locate? ⟨"./diagrams"⟩).map
      (fun place => (place.location, place.node.isDirectory)) = some (["pr", "diagrams"], true))
    (scope : Option String) :
    Writable (branches settings)
      ((branchesConfig scope).views.map fun view => (branchesConfig scope).diffPath view.1) := by
  obtain ⟨place, found, there⟩ := Option.map_eq_some_iff.mp prepared
  obtain ⟨location_eq, directory⟩ := Prod.mk.inj there
  have receives : (branches settings).Receives ⟨"./diagrams"⟩ ["-diff-added.puml"] := {
    sound := branches_sound settings
    names_plain := fun {name} member => by
      obtain rfl := List.mem_singleton.mp member
      exact ⟨⟨by decide, by decide, by decide⟩, by decide +kernel⟩
    directory := ⟨place, found, directory, fun name member node present => by
      obtain rfl := List.mem_singleton.mp member
      rw [location_eq] at present
      cases present⟩ }
  exact writable_of_receives receives (List.Subset.refl _)

theorem branches_comparable {settings : String} {scope : Option String}
    (builds : ((branchesConfig scope).project (branches settings)).map (fun project =>
      project.validateSpec "added" ⟨[.byPrefix "web"], [], none⟩) = .ok (.ok ()))
    (accessible : ((branches settings).locate?
      ((branchesConfig scope).rebased ⟨""⟩ ⟨"../main"⟩).rootFolder).isSome = true)
    (prepared : ((branches settings).locate? ⟨"./diagrams"⟩).map
      (fun place => (place.location, place.node.isDirectory)) = some (["pr", "diagrams"], true)) :
    ∃ project,
      Comparable (branches settings) (branchesConfig scope) ⟨""⟩ ⟨"../main"⟩ project := by
  cases built : (branchesConfig scope).project (branches settings) with
  | error error =>
    rw [built] at builds
    cases builds
  | ok project =>
    rw [built] at builds
    have valid : project.validateSpec "added" ⟨[.byPrefix "web"], [], none⟩ = .ok () :=
      Except.ok.inj builds
    exact ⟨project, {
      sound := branches_sound settings
      built
      valid := List.forall_mem_singleton.mpr valid
      accessible := Option.isSome_iff_exists.mp accessible
      writable := branches_writable prepared scope }⟩

/-- The view of the added package is drawn and reported. -/
theorem branches_compared :
    ∃ after, run (branches "root-folder = 'shop'\n") ["diff", "--base", "../main"] =
      .success after "added\n" := by
  let tree := branches "root-folder = 'shop'\n"
  let config := branchesConfig none
  have asked : Request.ofArguments ["diff", "--base", "../main"] =
      .run (.diff ⟨"../main"⟩) ⟨"archlens.toml"⟩ none := by
    decide +kernel
  have read : Config.load tree ⟨"archlens.toml"⟩ = .ok config := by
    decide +kernel
  obtain ⟨project, comparable⟩ : ∃ project, Comparable tree config ⟨""⟩ ⟨"../main"⟩ project :=
    branches_comparable (by decide +kernel) (by decide +kernel) (by decide +kernel)
  have formatted : { config with format := none.getD config.format } = config := rfl
  obtain ⟨older, built_older, -, compared⟩ := diff_exact asked read formatted comparable
  change (config.rebased ⟨""⟩ ⟨"../main"⟩).model? tree = some older at built_older
  have names : ((config.project tree).bind fun project =>
      ((config.rebased ⟨""⟩ ⟨"../main"⟩).project tree).map fun baseline =>
        (config.changedViews project baseline).map (·.1)) = .ok ["added"] := by
    decide +kernel
  rw [comparable.built, Config.project_of_model? built_older, Config.applied_rebased] at names
  cases applied : config.applied older with
  | error error =>
    rw [applied] at names
    cases names
  | ok baseline =>
    rw [applied] at names
    have names_eq : (config.changedViews project baseline).map (·.1) = ["added"] :=
      Except.ok.inj names
    obtain ⟨after, -, printed⟩ := compared baseline applied
    refine ⟨after, printed.trans ?_⟩
    rw [show (fun view : String × ViewSpec => view.1 ++ "\n") = (· ++ "\n") ∘ (·.1) from rfl,
      ← List.map_map, names_eq]
    rfl

/-- With the added package as the scope there is nothing to compare with. -/
theorem branches_refused :
    let tree := branches "root-folder = 'shop'\nscope = 'web'\n"
    ∃ config project, Config.load tree ⟨"archlens.toml"⟩ = .ok config ∧
      Comparable tree config ⟨""⟩ ⟨"../main"⟩ project ∧
      (run tree ["diff", "--base", "../main"]).exitCode = 1 := by
  intro tree
  have read : Config.load tree ⟨"archlens.toml"⟩ = .ok (branchesConfig (some "web")) := by
    decide +kernel
  obtain ⟨project, comparable⟩ :
      ∃ project, Comparable tree (branchesConfig (some "web")) ⟨""⟩ ⟨"../main"⟩ project :=
    branches_comparable (by decide +kernel) (by decide +kernel) (by decide +kernel)
  exact ⟨_, project, read, comparable, by decide +kernel⟩

end Command

end PackageAtlas
