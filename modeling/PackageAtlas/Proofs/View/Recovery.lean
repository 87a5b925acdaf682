import PackageAtlas.Proofs.View.PlainViews
import PackageAtlas.Proofs.View.Table

/-!
# Both sides of a comparison

A comparison loses nothing of its two sides. Without what is deleted and without its marks it is
the view that was compared; without what is created it has the packages of the baseline and, with
the differences taken off, the same counts.
-/
namespace PackageAtlas

theorem View.eq_of_packages {a b : View} (same : a.packages = b.packages) : a = b := by
  cases a
  cases b
  cases same
  rfl

/-! ### Taking a comparison apart -/

namespace ViewDependency

/-- A dependency as it is before any comparison. -/
def unmarked (dependency : ViewDependency) : ViewDependency :=
  { dependency with state := .neutral, mark := none }

/-- The count in the baseline, as the mark of a dependency tells it. -/
def countBefore (dependency : ViewDependency) : Int :=
  match dependency.mark with
  | some ⟨.countChanged, delta, _⟩ => dependency.count - delta
  | _ => dependency.count

end ViewDependency

namespace ViewPackage

/-- A package less its dependencies in one state. -/
def without (state : EntityState) (package : ViewPackage) : ViewPackage :=
  { package with dependencies := package.dependencies.filter (·.state ≠ state) }

def unmarked (package : ViewPackage) : ViewPackage :=
  { package with
    state := .neutral
    dependencies := package.dependencies.map ViewDependency.unmarked }

end ViewPackage

namespace View

/-- A view less its packages and dependencies in one state. -/
def without (state : EntityState) (view : View) : View where
  packages := (view.packages.filter (·.state ≠ state)).map (·.without state)
  ordered := List.pairwise_map.mpr (view.ordered.filter _)

def unmarked (view : View) : View where
  packages := view.packages.map ViewPackage.unmarked
  ordered := List.pairwise_map.mpr view.ordered

/-- Whether no count is too large to be taken into account as it is. -/
def Bounded (view : View) : Prop :=
  ∀ package ∈ view.packages, ∀ dependency ∈ package.dependencies, dependency.count ≤ maxDelta

end View

/-! ### Parts in one state -/

namespace ViewPackage

variable {package : ViewPackage}

theorem Tidy.without (tidy : package.Tidy) (state : EntityState) :
    (package.without state).Tidy where
  source_eq member := tidy.source_eq (List.mem_of_mem_filter member)
  ascending := tidy.ascending.filter _

theorem Tidy.dependency?_without (tidy : package.Tidy) (state : EntityState)
    (destination : String) :
    (package.without state).dependency? destination =
      (package.dependency? destination).filter (·.state ≠ state) :=
  find?_key_filter tidy.destinations_nodup _ destination

theorem dependency?_unmarked (package : ViewPackage) (destination : String) :
    package.unmarked.dependency? destination =
      (package.dependency? destination).map ViewDependency.unmarked :=
  find?_key_map (fun _ => rfl) destination

end ViewPackage

namespace View

variable {view current baseline : View}

theorem find?_without (view : View) (state : EntityState) (path : String) :
    (view.without state).find? path =
      ((view.find? path).filter (·.state ≠ state)).map (·.without state) := by
  refine (find?_key_map (fun package => (rfl : (package.without state).path = package.path))
    path).trans ?_
  rw [find?_key_filter view.paths_nodup]
  rfl

theorem find?_unmarked (view : View) (path : String) :
    view.unmarked.find? path = (view.find? path).map ViewPackage.unmarked :=
  find?_key_map (fun _ => rfl) path

theorem Tidy.without (tidy : view.Tidy) (state : EntityState) : (view.without state).Tidy := by
  intro package member
  obtain ⟨whole, whole_member, rfl⟩ := List.mem_map.mp member
  exact (tidy whole (List.mem_of_mem_filter whole_member)).without state

end View

/-! ### This side -/

/-- What a comparison draws is, less what is deleted and without its mark, what this side draws. -/
theorem ViewDependency.unmarked_compared {source destination : String}
    {here : Option ViewDependency}
    (plain : ∀ dependency ∈ here, dependency.Plain source destination)
    (there : Option ViewDependency) :
    ((compared source here there).filter (·.state ≠ .deleted)).map unmarked = here := by
  cases here with
  | none => cases there <;> rfl
  | some dependency =>
    obtain ⟨-, -, neutral, unmarked⟩ := plain dependency rfl
    have restored : { dependency with state := .neutral, mark := none } = dependency := by
      rw [← neutral, ← unmarked]
    cases there with
    | none => exact congrArg some restored
    | some old =>
      rw [compared_some_some]
      split
      all_goals
        rw [Option.filter_some, if_pos (by simp [recounted, neutral])]
        exact congrArg some restored

/-- A package of a comparison that was made from one of this side is that package again, as soon as
its dependencies are. -/
theorem ViewPackage.Plain.unmarked_without {package whole : ViewPackage} (plain : package.Plain)
    (tidy : whole.Tidy)
    (made : { whole with state := .neutral, dependencies := package.dependencies } = package)
    (drawn : ∀ destination, ∃ there, whole.dependency? destination =
      ViewDependency.compared package.path (package.dependency? destination) there) :
    (whole.without .deleted).unmarked = package := by
  have ascending : (whole.without .deleted).unmarked.dependencies.Pairwise
      (·.destination < ·.destination) :=
    List.pairwise_map.mpr (tidy.without .deleted).ascending
  have same : (whole.without .deleted).unmarked.dependencies = package.dependencies := by
    refine eq_of_find? ascending plain.ascending fun destination => ?_
    obtain ⟨there, drawn_eq⟩ := drawn destination
    refine ((whole.without .deleted).dependency?_unmarked destination).trans ?_
    rw [tidy.dependency?_without, drawn_eq]
    exact ViewDependency.unmarked_compared plain.dependency? there
  rw [← made, ← same]
  rfl

namespace View

variable {current baseline : View}

/-- Less what is deleted and without marks, a comparison is the view that was compared. -/
theorem Plain.unmarked_diff (plain : current.Plain) (baseline_plain : baseline.Plain) :
    ((current.diff baseline).without .deleted).unmarked = current := by
  refine eq_of_packages (eq_of_find? (View.ordered _) current.ordered fun path => ?_)
  refine (find?_unmarked _ path).trans ?_
  rw [find?_without, find?_diff]
  change _ = current.find? path
  cases here : current.find? path with
  | none => cases baseline.find? path <;> rfl
  | some package =>
    have package_plain := plain.of_find? package here
    cases there : baseline.find? path with
    | none =>
      refine congrArg some (package_plain.unmarked_without package_plain.created ?_ ?_)
      · rw [← package_plain.neutral]; rfl
      · intro destination
        refine ⟨none, (package.dependency?_created destination).trans ?_⟩
        cases package.dependency? destination <;> rfl
    | some old =>
      have old_tidy := baseline_plain.tidy.of_find? old there
      have tidy := package_plain.comparedTo old_tidy
      refine congrArg some (package_plain.unmarked_without tidy ?_ ?_)
      · rw [← package_plain.neutral]; rfl
      · intro destination
        exact ⟨_, package_plain.dependency?_comparedTo old_tidy destination⟩

end View

/-! ### The baseline -/

theorem countDelta_of_le {count : Nat} (bounded : count ≤ maxDelta) : countDelta count = count := by
  exact Int.min_eq_left (Int.ofNat_le.mpr bounded)

/-- What a comparison draws has, less what is created, the count of the baseline before it. -/
theorem ViewDependency.countBefore_compared {source destination : String}
    {here there : Option ViewDependency}
    (plain : ∀ dependency ∈ here, dependency.Plain source destination)
    (there_plain : ∀ dependency ∈ there, dependency.Plain source destination)
    (bounded : ∀ dependency ∈ here, dependency.count ≤ maxDelta)
    (there_bounded : ∀ dependency ∈ there, dependency.count ≤ maxDelta) :
    ((compared source here there).filter (·.state ≠ .created)).map countBefore =
      there.map fun old => (old.count : Int) := by
  cases here with
  | none => cases there <;> rfl
  | some dependency =>
    obtain ⟨-, -, neutral, unmarked⟩ := plain dependency rfl
    cases there with
    | none => rfl
    | some old =>
      rw [compared_some_some, Option.map_some]
      split
      next same =>
        rw [Option.filter_some, if_pos (by simp [neutral]), Option.map_some, countBefore, unmarked,
          same]
      next =>
        -- Both counts are taken into account as they are, so their difference is exact.
        have exact_delta : (dependency.recounted old).countBefore = old.count := by
          simp only [countBefore, recounted, countDelta_of_le (bounded dependency rfl),
            countDelta_of_le (there_bounded old rfl)]
          omega
        rw [Option.filter_some, if_pos (by simp [recounted, neutral]), Option.map_some, exact_delta]

namespace View

variable {view current baseline : View}

theorem Tidy.dependency?_without (tidy : view.Tidy) {state : EntityState} {source : String}
    (kept : ∀ package ∈ view.find? source, package.state ≠ state) (destination : String) :
    (view.without state).dependency? source destination =
      (view.dependency? source destination).filter (·.state ≠ state) := by
  rw [dependency?, dependency?, find?_without]
  cases found : view.find? source with
  | none => rfl
  | some package =>
    rw [Option.filter_some, if_pos (decide_eq_true (kept package found))]
    exact (tidy.of_find? package found).dependency?_without state destination

theorem Bounded.dependency? (bounded : view.Bounded) {source destination : String} :
    ∀ dependency ∈ view.dependency? source destination, dependency.count ≤ maxDelta := by
  intro dependency between
  obtain ⟨package, found, drawn⟩ := Option.bind_eq_some_iff.mp between
  exact bounded package (List.mem_of_find?_eq_some found) dependency
    (List.mem_of_find?_eq_some drawn)

/-- Less what is created, a comparison has the packages of the baseline and their counts. -/
theorem Plain.table_diff (plain : current.Plain) (baseline_plain : baseline.Plain)
    (bounded : current.Bounded) (baseline_bounded : baseline.Bounded) :
    ((current.diff baseline).without .created).table ViewDependency.countBefore =
      baseline.table fun dependency => dependency.count := by
  have tidy := plain.tidy.diff baseline_plain.tidy
  refine ((tidy.without .created).table_eq_iff baseline_plain.tidy).mpr
    ⟨fun path => ?paths, fun source destination => ?counts⟩
  case paths =>
    rw [find?_without, find?_diff]
    cases current.find? path <;> cases baseline.find? path <;> rfl
  case counts =>
    cases there : baseline.find? source with
    | none =>
      -- The package is missing or created, and goes together with its dependencies.
      rw [View.dependency?, View.dependency?, find?_without, find?_diff, there]
      cases current.find? source <;> rfl
    | some old =>
      have kept : ∀ package ∈ (current.diff baseline).find? source, package.state ≠ .created := by
        intro package found created
        rw [find?_diff, there] at found
        rcases ViewPackage.compared_cases found with ⟨_, _, -, -, rfl⟩ | ⟨_, -, missing, -⟩ |
          ⟨_, -, -, rfl⟩
        · cases created
        · cases missing
        · cases created
      rw [tidy.dependency?_without kept, plain.tidy.dependency?_diff baseline_plain.tidy]
      exact ViewDependency.countBefore_compared plain.dependency? baseline_plain.dependency?
        bounded.dependency? baseline_bounded.dependency?

/-- A package that is deleted is one of the baseline, drawn as deleted. -/
theorem exists_of_deleted {package : ViewPackage}
    (member : package ∈ (current.diff baseline).packages) (deleted : package.state = .deleted) :
    ∃ old, baseline.find? package.path = some old ∧ old.deleted = package := by
  rcases ViewPackage.compared_cases (mem_diff_iff.mp member) with
    ⟨_, _, -, -, rfl⟩ | ⟨_, -, -, rfl⟩ | ⟨old, -, found, made⟩
  · cases deleted
  · cases deleted
  · exact ⟨old, found, made⟩

/-- A dependency that is deleted is one of the baseline, drawn as deleted. -/
theorem Plain.exists_of_deleted (plain : current.Plain) (baseline_plain : baseline.Plain)
    {package : ViewPackage} {dependency : ViewDependency}
    (member : package ∈ (current.diff baseline).packages)
    (drawn : dependency ∈ package.dependencies) (deleted : dependency.state = .deleted) :
    ∃ old, baseline.dependency? package.path dependency.destination = some old ∧
      { old.deleted with source := package.path } = dependency := by
  have tidy := plain.tidy.diff baseline_plain.tidy
  have made : (current.diff baseline).dependency? package.path dependency.destination =
      some dependency :=
    tidy.dependency?_eq_some_iff.mpr ⟨package, member, rfl, drawn, rfl⟩
  rw [plain.tidy.dependency?_diff baseline_plain.tidy] at made
  rcases ViewDependency.compared_cases made with
    ⟨own, old, found, -, rfl⟩ | ⟨_, -, -, rfl⟩ | ⟨old, -, found, made⟩
  · have neutral := (plain.dependency? own found).neutral
    split at deleted
    · cases neutral.symm.trans deleted
    · cases neutral.symm.trans deleted
  · cases deleted
  · exact ⟨old, found, made⟩

/-- A comparison loses nothing of its two sides. -/
theorem Plain.diff_lossless (plain : current.Plain) (baseline_plain : baseline.Plain)
    (bounded : current.Bounded) (baseline_bounded : baseline.Bounded) :
    let comparison := current.diff baseline
    (comparison.without .deleted).unmarked = current ∧
      (comparison.without .created).table ViewDependency.countBefore =
        baseline.table (fun dependency => dependency.count) ∧
      ∀ package ∈ comparison.packages,
        (package.state = .deleted → ∃ old, baseline.find? package.path = some old ∧
          package.name = old.name ∧ package.label = old.label ∧ package.origin = old.origin) ∧
        ∀ dependency ∈ package.dependencies, dependency.state = .deleted →
          ∃ old, baseline.dependency? package.path dependency.destination = some old ∧
            dependency.count = old.count ∧ dependency.relations = old.relations := by
  refine ⟨plain.unmarked_diff baseline_plain,
    plain.table_diff baseline_plain bounded baseline_bounded, fun package member => ⟨?_, ?_⟩⟩
  · intro deleted
    obtain ⟨old, found, rfl⟩ := View.exists_of_deleted member deleted
    exact ⟨old, found, rfl, rfl, rfl⟩
  · intro dependency drawn deleted
    obtain ⟨old, found, rfl⟩ := plain.exists_of_deleted baseline_plain member drawn deleted
    exact ⟨old, found, rfl, rfl⟩

end View

/-! ### Views of projects -/

namespace Project

variable {project : Project}

/-- No dependency of a view counts more than all dependencies between files. -/
theorem LogicallyPlaced.view_bounded (placed : LogicallyPlaced project)
    (wellFormed : WellFormed project) (spec : ViewSpec) (few : project.edges.length ≤ maxDelta) :
    (project.view spec).Bounded := by
  intro package member dependency drawn
  have rollsUp := placed.rollsUp wellFormed member
  obtain ⟨-, target, target_shown, destination_eq⟩ := rollsUp.ends drawn
  rw [(rollsUp.summarizes target_shown drawn destination_eq).count_eq]
  exact Nat.le_trans (List.length_filter_le _ _) few

/-- The root package of `sample` is shown by one of two views. It is deleted when the other one is
compared to that, and keeps its name. -/
theorem sample_diff_lossless :
    let comparison := (sample.view sampleSpec).diff (sample.view sampleAround)
    (∃ package ∈ comparison.packages, package.state = .deleted ∧ package.name = "p") ∧
      (comparison.without .deleted).unmarked = sample.view sampleSpec ∧
      (comparison.without .created).table ViewDependency.countBefore =
        (sample.view sampleAround).table fun dependency => dependency.count := by
  have placed := sample_reachable.logicallyPlaced
  have wellFormed := sample_reachable.wellFormed
  have few : sample.edges.length ≤ maxDelta := by decide +kernel
  have plain := placed.view_plain wellFormed
  have bounded (spec : ViewSpec) := placed.view_bounded wellFormed spec few
  obtain ⟨restored, before, -⟩ := View.Plain.diff_lossless (plain sampleSpec) (plain sampleAround)
    (bounded sampleSpec) (bounded sampleAround)
  exact ⟨by decide +kernel, restored, before⟩

end Project

end PackageAtlas
