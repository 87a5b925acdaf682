import PackageAtlas.Proofs.View.PlainViews
import PackageAtlas.Proofs.View.Table

/-!
# The changes that a comparison lists

A comparison lists each difference between its two sides once and nothing else, package by package.
A package comes before its dependencies, and these stand in the order of their destinations.
-/
namespace PackageAtlas

/-! ### Where a change is listed -/

namespace Change

/-- The package that a change is listed with. -/
def path : Change → String
  | packageCreated path | packageDeleted path => path
  | dependencyCreated source _ _ | dependencyDeleted source _ _ | countChanged source _ _ => source

/-- Where the dependency that changed leads, unless it is the package that did. -/
def destination? : Change → Option String
  | packageCreated _ | packageDeleted _ => none
  | dependencyCreated _ destination _ | dependencyDeleted _ destination _
  | countChanged _ destination _ => some destination

/-- Whether one change is listed before another. -/
inductive Before (first second : Change) : Prop
  | package : first.path < second.path → Before first second
  | dependency {destination : String} : first.path = second.path → first.destination? = none →
      second.destination? = some destination → Before first second
  | destination {one other : String} : first.path = second.path →
      first.destination? = some one → second.destination? = some other → one < other →
      Before first second

theorem Before.ne {first second : Change} (before : Before first second) : first ≠ second := by
  rintro rfl
  cases before with
  | package less => exact String.lt_irrefl _ less
  | dependency _ nowhere somewhere => cases nowhere.symm.trans somewhere
  | destination _ at_one at_other less =>
    cases at_one.symm.trans at_other
    exact String.lt_irrefl _ less

end Change

/-- The differences between two views: what only one of them has, and counts that differ. -/
inductive View.Differs (current baseline : View) : Change → Prop
  | packageCreated {path : String} :
      (current.find? path).isSome → baseline.find? path = none →
      Differs current baseline (.packageCreated path)
  | packageDeleted {path : String} :
      current.find? path = none → (baseline.find? path).isSome →
      Differs current baseline (.packageDeleted path)
  | dependencyCreated {source destination : String} {own : ViewDependency} :
      current.dependency? source destination = some own →
      baseline.dependency? source destination = none →
      Differs current baseline (.dependencyCreated source destination own.count)
  | dependencyDeleted {source destination : String} {old : ViewDependency} :
      current.dependency? source destination = none →
      baseline.dependency? source destination = some old →
      Differs current baseline (.dependencyDeleted source destination old.count)
  | countChanged {source destination : String} {own old : ViewDependency} :
      current.dependency? source destination = some own →
      baseline.dependency? source destination = some old → own.count ≠ old.count →
      Differs current baseline
        (.countChanged source destination (countDelta own.count - countDelta old.count))

/-! ### Changes of one package -/

namespace ViewDependency

variable {dependency : ViewDependency} {change : Change}

theorem change?_path (told : dependency.change? = some change) :
    change.path = dependency.source := by
  obtain ⟨⟨kind, _, _⟩, -, rfl⟩ := Option.map_eq_some_iff.mp told
  cases kind <;> rfl

theorem change?_destination (told : dependency.change? = some change) :
    change.destination? = some dependency.destination := by
  obtain ⟨⟨kind, _, _⟩, -, rfl⟩ := Option.map_eq_some_iff.mp told
  cases kind <;> rfl

end ViewDependency

namespace ViewPackage

variable {package : ViewPackage} {change : Change}

/-- The change of a package itself, if there is one. -/
def change? (package : ViewPackage) : Option Change :=
  match package.state with
  | .created => some (.packageCreated package.path)
  | .deleted => some (.packageDeleted package.path)
  | .neutral => none

theorem changes_eq (package : ViewPackage) :
    package.changes =
      package.change?.toList ++ package.dependencies.filterMap ViewDependency.change? := by
  rw [changes, change?]
  cases package.state <;> rfl

theorem mem_changes_iff :
    change ∈ package.changes ↔ package.change? = some change ∨
      ∃ dependency ∈ package.dependencies, dependency.change? = some change := by
  rw [changes_eq, List.mem_append, Option.mem_toList, List.mem_filterMap]

theorem change?_path (told : package.change? = some change) : change.path = package.path := by
  unfold change? at told
  split at told <;> cases told <;> rfl

theorem change?_destination (told : package.change? = some change) :
    change.destination? = none := by
  unfold change? at told
  split at told <;> cases told <;> rfl

theorem Tidy.changes_path (tidy : package.Tidy) (member : change ∈ package.changes) :
    change.path = package.path := by
  rcases mem_changes_iff.mp member with own | ⟨dependency, drawn, told⟩
  · exact change?_path own
  · exact (ViewDependency.change?_path told).trans (tidy.source_eq drawn)

theorem Tidy.changes_ordered (tidy : package.Tidy) : package.changes.Pairwise Change.Before := by
  rw [changes_eq, List.pairwise_append]
  refine ⟨?own, ?drawn, ?between⟩
  case own => cases package.change? <;> simp
  case drawn =>
    rw [List.pairwise_filterMap]
    refine tidy.ascending.imp_of_mem ?_
    intro a b in_a in_b less first first_told second second_told
    have same_path : first.path = second.path := by
      rw [ViewDependency.change?_path first_told, ViewDependency.change?_path second_told,
        tidy.source_eq in_a, tidy.source_eq in_b]
    exact .destination same_path (ViewDependency.change?_destination first_told)
      (ViewDependency.change?_destination second_told) less
  case between =>
    intro first own second told
    rw [Option.mem_toList] at own
    obtain ⟨dependency, drawn, told⟩ := List.mem_filterMap.mp told
    have same_path : first.path = second.path := by
      rw [change?_path own, ViewDependency.change?_path told, tidy.source_eq drawn]
    exact .dependency same_path (change?_destination own) (ViewDependency.change?_destination told)

theorem change?_eq_none_iff : package.change? = none ↔ package.state = .neutral := by
  unfold change?
  cases package.state <;> simp

theorem changes_eq_nil_iff :
    package.changes = [] ↔
      package.state = .neutral ∧ ∀ dependency ∈ package.dependencies, dependency.mark = none := by
  rw [changes_eq, List.append_eq_nil_iff, Option.toList_eq_nil_iff, change?_eq_none_iff,
    List.filterMap_eq_nil_iff]
  simp only [ViewDependency.change?, Option.map_eq_none_iff]

end ViewPackage

/-! ### Changes of a view -/

namespace View

variable {view : View} {change : Change}

theorem Tidy.changes_ordered (tidy : view.Tidy) : view.changes.Pairwise Change.Before := by
  rw [changes, List.pairwise_flatMap]
  refine ⟨fun package member => (tidy package member).changes_ordered,
    view.ordered.imp_of_mem ?_⟩
  intro a b in_a in_b less first first_listed second second_listed
  rw [← (tidy a in_a).changes_path first_listed, ← (tidy b in_b).changes_path second_listed] at less
  exact .package less

theorem hasChanges_eq_false_iff : view.hasChanges = false ↔ view.changes = [] := by
  rw [changes, List.flatMap_eq_nil_iff, hasChanges, List.any_eq_false]
  refine forall₂_congr fun package member => ?_
  rw [ViewPackage.changes_eq_nil_iff]
  simp

theorem Tidy.mem_changes_iff (tidy : view.Tidy) :
    change ∈ view.changes ↔
      (∃ path package, view.find? path = some package ∧ package.change? = some change) ∨
        ∃ source destination dependency, view.dependency? source destination = some dependency ∧
          dependency.change? = some change := by
  simp only [changes, List.mem_flatMap, ViewPackage.mem_changes_iff]
  constructor
  · rintro ⟨package, member, own | ⟨dependency, drawn, told⟩⟩
    · exact .inl ⟨package.path, package, (view.find?_eq_some_iff _ _).mpr ⟨member, rfl⟩, own⟩
    · exact .inr ⟨package.path, dependency.destination, dependency,
        tidy.dependency?_eq_some_iff.mpr ⟨package, member, rfl, drawn, rfl⟩, told⟩
  · rintro (⟨path, package, found, own⟩ | ⟨source, destination, dependency, between, told⟩)
    · exact ⟨package, List.mem_of_find?_eq_some found, .inl own⟩
    · obtain ⟨package, member, -, drawn, -⟩ := tidy.dependency?_eq_some_iff.mp between
      exact ⟨package, member, .inr ⟨dependency, drawn, told⟩⟩

/-! ### Changes of a comparison -/

variable {current baseline : View}

/-- No change is invented. -/
theorem Plain.differs_of_mem (plain : current.Plain) (baseline_plain : baseline.Plain)
    (listed : change ∈ (current.diff baseline).changes) : Differs current baseline change := by
  have tidy := plain.tidy.diff baseline_plain.tidy
  rcases tidy.mem_changes_iff.mp listed with
    ⟨path, package, found, told⟩ | ⟨source, destination, dependency, between, told⟩
  · have path_eq := ((find?_eq_some_iff _ _ _).mp found).2
    rw [find?_diff] at found
    rcases ViewPackage.compared_cases found with ⟨_, _, -, -, rfl⟩ | ⟨own, here, there, rfl⟩ |
      ⟨old, here, there, rfl⟩
    · cases told
    · cases told
      cases path_eq
      exact .packageCreated (Option.isSome_of_eq_some here) there
    · cases told
      cases path_eq
      exact .packageDeleted here (Option.isSome_of_eq_some there)
  · rw [plain.tidy.dependency?_diff baseline_plain.tidy] at between
    rcases ViewDependency.compared_cases between with ⟨own, old, here, there, rfl⟩ |
      ⟨own, here, there, rfl⟩ | ⟨old, here, there, rfl⟩
    · obtain ⟨rfl, rfl, -, unmarked⟩ := plain.dependency? own here
      split at told
      next =>
        -- Equal counts leave the dependency as it was, which is without a mark.
        rw [ViewDependency.change?, unmarked] at told
        cases told
      next different =>
        cases told
        exact .countChanged here there (Ne.symm different)
    · obtain ⟨rfl, rfl, -, -⟩ := plain.dependency? own here
      have made : .dependencyCreated own.source own.destination own.count = change :=
        Option.some.inj told
      exact made ▸ .dependencyCreated here there
    · obtain ⟨rfl, rfl, -, -⟩ := baseline_plain.dependency? old there
      have made : .dependencyDeleted old.source old.destination old.count = change :=
        Option.some.inj told
      exact made ▸ .dependencyDeleted here there

/-- No change is missed. -/
theorem Plain.mem_of_differs (plain : current.Plain) (baseline_plain : baseline.Plain)
    (differs : Differs current baseline change) : change ∈ (current.diff baseline).changes := by
  have tidy := plain.tidy.diff baseline_plain.tidy
  refine tidy.mem_changes_iff.mpr ?_
  cases differs with
  | @packageCreated path here there =>
    obtain ⟨own, here⟩ := Option.isSome_iff_exists.mp here
    obtain ⟨-, rfl⟩ := (find?_eq_some_iff _ _ _).mp here
    exact .inl ⟨own.path, own.created, by rw [find?_diff, here, there]; rfl, rfl⟩
  | @packageDeleted path here there =>
    obtain ⟨old, there⟩ := Option.isSome_iff_exists.mp there
    obtain ⟨-, rfl⟩ := (find?_eq_some_iff _ _ _).mp there
    exact .inl ⟨old.path, old.deleted, by rw [find?_diff, here, there]; rfl, rfl⟩
  | @dependencyCreated source destination own here there =>
    refine .inr ⟨source, destination, own.created, ?_, ?_⟩
    · rw [plain.tidy.dependency?_diff baseline_plain.tidy, here, there]
      rfl
    · obtain ⟨rfl, rfl, -, -⟩ := plain.dependency? own here
      rfl
  | @dependencyDeleted source destination old here there =>
    refine .inr ⟨source, destination, { old.deleted with source }, ?_, ?_⟩
    · rw [plain.tidy.dependency?_diff baseline_plain.tidy, here, there]
      rfl
    · obtain ⟨-, rfl, -, -⟩ := baseline_plain.dependency? old there
      rfl
  | @countChanged source destination own old here there different =>
    refine .inr ⟨source, destination, own.recounted old, ?_, ?_⟩
    · rw [plain.tidy.dependency?_diff baseline_plain.tidy, here, there,
        ViewDependency.compared_some_some, if_neg (Ne.symm different)]
    · obtain ⟨rfl, rfl, -, -⟩ := plain.dependency? own here
      rfl

/-- Views without any difference have the same packages and the same counts. -/
theorem not_differs_iff :
    (∀ change, ¬ Differs current baseline change) ↔
      (∀ path, (current.find? path).isSome = (baseline.find? path).isSome) ∧
        ∀ source destination,
          (current.dependency? source destination).map (fun own => (own.count : Int)) =
            (baseline.dependency? source destination).map fun old => (old.count : Int) := by
  constructor
  · intro none_differs
    refine ⟨fun path => ?paths, fun source destination => ?counts⟩
    case paths =>
      cases here : current.find? path with
      | none =>
        cases there : baseline.find? path with
        | none => rfl
        | some old =>
          exact absurd (.packageDeleted here (Option.isSome_of_eq_some there)) (none_differs _)
      | some own =>
        cases there : baseline.find? path with
        | none =>
          exact absurd (.packageCreated (Option.isSome_of_eq_some here) there) (none_differs _)
        | some old => rfl
    case counts =>
      cases here : current.dependency? source destination with
      | none =>
        cases there : baseline.dependency? source destination with
        | none => rfl
        | some old => exact absurd (.dependencyDeleted here there) (none_differs _)
      | some own =>
        cases there : baseline.dependency? source destination with
        | none => exact absurd (.dependencyCreated here there) (none_differs _)
        | some old =>
          by_contra different
          refine none_differs _ (.countChanged here there fun same => different ?_)
          exact congrArg (fun count : Nat => some (count : Int)) same
  · rintro ⟨paths, counts⟩ change differs
    cases differs with
    | @packageCreated path here there => exact absurd (paths path) (by simp [here, there])
    | @packageDeleted path here there => exact absurd (paths path) (by simp [here, there])
    | @dependencyCreated source destination own here there =>
      exact absurd (counts source destination) (by simp [here, there])
    | @dependencyDeleted source destination old here there =>
      exact absurd (counts source destination) (by simp [here, there])
    | @countChanged source destination own old here there different =>
      have same := counts source destination
      rw [here, there] at same
      exact different (Int.ofNat.inj (Option.some.inj same))

/-- What a comparison lists are the differences of its two sides. -/
theorem Plain.mem_changes_iff (plain : current.Plain) (baseline_plain : baseline.Plain)
    (change : Change) :
    change ∈ (current.diff baseline).changes ↔ Differs current baseline change :=
  ⟨plain.differs_of_mem baseline_plain, plain.mem_of_differs baseline_plain⟩

theorem Plain.hasChanges_diff_eq_false_iff (plain : current.Plain)
    (baseline_plain : baseline.Plain) :
    (current.diff baseline).hasChanges = false ↔
      (current.table fun dependency => dependency.count) =
        baseline.table fun dependency => dependency.count := by
  rw [hasChanges_eq_false_iff, List.eq_nil_iff_forall_not_mem,
    plain.tidy.table_eq_iff baseline_plain.tidy, ← not_differs_iff]
  exact forall_congr' fun change => not_congr (plain.mem_changes_iff baseline_plain change)

/-- A comparison has no changes exactly if its two sides have the same packages and counts, and it
lists each of their differences once, in order. -/
theorem Plain.changes_exact (plain : current.Plain) (baseline_plain : baseline.Plain) :
    let comparison := current.diff baseline
    (comparison.hasChanges = false ↔
      (current.table fun dependency => dependency.count) =
        baseline.table fun dependency => dependency.count) ∧
      (∀ change, change ∈ comparison.changes ↔ Differs current baseline change) ∧
      comparison.changes.Nodup ∧ comparison.changes.Pairwise Change.Before := by
  have ordered := (plain.tidy.diff baseline_plain.tidy).changes_ordered
  exact ⟨plain.hasChanges_diff_eq_false_iff baseline_plain, plain.mem_changes_iff baseline_plain,
    ordered.imp Change.Before.ne, ordered⟩

end View

/-- One of two views of `sample` has the package `a/c/d`, the other one has the root package. -/
theorem Project.sample_changes_exact :
    let comparison := (sample.view sampleSpec).diff (sample.view sampleAround)
    comparison.hasChanges = true ∧
      Change.packageDeleted "" ∈ comparison.changes ∧
      Change.packageCreated "a/c/d" ∈ comparison.changes ∧
      comparison.changes.Pairwise Change.Before := by
  obtain ⟨-, mem_iff, -, ordered⟩ := View.Plain.changes_exact
    (sample_reachable.view_plain sampleSpec) (sample_reachable.view_plain sampleAround)
  refine ⟨by decide +kernel, (mem_iff _).mpr (.packageDeleted ?_ ?_),
    (mem_iff _).mpr (.packageCreated ?_ ?_), ordered⟩
  all_goals decide +kernel

end PackageAtlas
