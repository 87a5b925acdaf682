import PackageAtlas.Proofs.View.PlainViews

/-!
# Comparing the other way round

When the two sides of a comparison change places, it shows the same packages and dependencies in
the same order. What was created is deleted, what was deleted is created, and every difference has
the other sign.
-/
namespace PackageAtlas

/-! ### The other way round -/

def EntityState.mirror : EntityState → EntityState
  | .neutral => .neutral
  | .created => .deleted
  | .deleted => .created

def EdgeChange.mirror : EdgeChange → EdgeChange
  | .created => .deleted
  | .deleted => .created
  | .countChanged => .countChanged

def Change.mirror : Change → Change
  | .packageCreated path => .packageDeleted path
  | .packageDeleted path => .packageCreated path
  | .dependencyCreated source destination count => .dependencyDeleted source destination count
  | .dependencyDeleted source destination count => .dependencyCreated source destination count
  | .countChanged source destination delta => .countChanged source destination (-delta)

/-- Whether the second of two dependencies shows the difference that the first one shows, the other
way round. -/
structure ViewDependency.Mirrors (a b : ViewDependency) : Prop where
  source_eq : b.source = a.source
  destination_eq : b.destination = a.destination
  state_eq : b.state = a.state.mirror
  mark_eq : b.mark.map (fun mark => (mark.change, mark.delta)) =
    a.mark.map fun mark => (mark.change.mirror, -mark.delta)
  change_eq : b.change? = a.change?.map Change.mirror

/-- Whether the second of two packages shows the differences that the first one shows, the other
way round and in the same order. -/
structure ViewPackage.Mirrors (a b : ViewPackage) : Prop where
  path_eq : b.path = a.path
  state_eq : b.state = a.state.mirror
  dependencies : List.Forall₂ ViewDependency.Mirrors a.dependencies b.dependencies

/-! ### Dependencies -/

namespace ViewDependency

theorem mirrors_compared {source destination : String} {here there : Option ViewDependency}
    (plain : ∀ dependency ∈ here, dependency.Plain source destination)
    (there_plain : ∀ dependency ∈ there, dependency.Plain source destination)
    {a b : ViewDependency} (forth : compared source here there = some a)
    (back : compared source there here = some b) : a.Mirrors b := by
  rcases compared_cases forth with ⟨own, old, rfl, rfl, rfl⟩ | ⟨own, rfl, rfl, rfl⟩ |
    ⟨old, rfl, rfl, rfl⟩
  · -- Both sides draw it, so each count is compared to the other.
    have own_plain := plain own rfl
    have old_plain := there_plain old rfl
    have source_eq := old_plain.source_eq.trans own_plain.source_eq.symm
    have destination_eq := old_plain.destination_eq.trans own_plain.destination_eq.symm
    have state_eq : old.state = own.state.mirror := by
      rw [old_plain.neutral, own_plain.neutral]
      rfl
    rw [compared_some_some, Option.some.injEq] at back
    rw [← back]
    by_cases same : old.count = own.count
    · rw [if_pos same, if_pos same.symm]
      exact {
        source_eq, destination_eq, state_eq
        mark_eq := by
          rw [old_plain.unmarked, own_plain.unmarked]
          rfl
        change_eq := by
          rw [change?, change?, old_plain.unmarked, own_plain.unmarked]
          rfl }
    · rw [if_neg same, if_neg (Ne.symm same)]
      have delta_eq : countDelta old.count - countDelta own.count =
          -(countDelta own.count - countDelta old.count) :=
        (Int.neg_sub _ _).symm
      exact {
        source_eq, destination_eq, state_eq
        mark_eq := congrArg (fun delta => some (EdgeChange.countChanged, delta)) delta_eq
        change_eq := by
          change some (Change.countChanged old.source old.destination _) =
            some (Change.countChanged own.source own.destination _)
          rw [source_eq, destination_eq, delta_eq] }
  · -- Only this side draws it.
    obtain rfl : { own.deleted with source } = b := Option.some.inj back
    have source_eq := (plain own rfl).source_eq
    exact {
      source_eq := source_eq.symm
      destination_eq := rfl
      state_eq := rfl
      mark_eq := rfl
      change_eq := by
        rw [← source_eq]
        rfl }
  · -- Only the baseline draws it.
    obtain rfl : old.created = b := Option.some.inj back
    have source_eq := (there_plain old rfl).source_eq
    exact {
      source_eq
      destination_eq := rfl
      state_eq := rfl
      mark_eq := congrArg (fun delta => some (EdgeChange.created, delta)) (Int.neg_neg _).symm
      change_eq := by
        rw [← source_eq]
        rfl }

end ViewDependency

/-! ### Packages -/

theorem ViewPackage.state_compared {here there : Option ViewPackage} {a b : ViewPackage}
    (forth : compared here there = some a) (back : compared there here = some b) :
    b.state = a.state.mirror := by
  rcases compared_cases forth with ⟨own, old, rfl, rfl, rfl⟩ | ⟨own, rfl, rfl, rfl⟩ |
    ⟨old, rfl, rfl, rfl⟩
  all_goals
    cases back
    rfl

theorem ViewDependency.changes_mirrored {first second : List ViewDependency}
    (mirrors : List.Forall₂ Mirrors first second) :
    second.filterMap change? = (first.filterMap change?).map Change.mirror := by
  induction mirrors with
  | nil => rfl
  | @cons a b _ _ head _ ih =>
    rw [List.filterMap_cons, List.filterMap_cons, head.change_eq, ih]
    cases a.change? <;> rfl

theorem ViewPackage.Mirrors.changes_eq {a b : ViewPackage} (mirrors : a.Mirrors b) :
    b.changes = a.changes.map Change.mirror := by
  rw [changes, changes, ViewDependency.changes_mirrored mirrors.dependencies, mirrors.state_eq,
    mirrors.path_eq, List.map_append]
  cases a.state <;> rfl

theorem ViewPackage.changes_mirrored {first second : List ViewPackage}
    (mirrors : List.Forall₂ Mirrors first second) :
    second.flatMap changes = (first.flatMap changes).map Change.mirror := by
  induction mirrors with
  | nil => rfl
  | cons head _ ih =>
    rw [List.flatMap_cons, List.flatMap_cons, List.map_append, head.changes_eq, ih]

namespace View

variable {current baseline : View}

theorem Plain.mirrors_of_mem (plain : current.Plain) (baseline_plain : baseline.Plain)
    {a b : ViewPackage} (forth : a ∈ (current.diff baseline).packages)
    (back : b ∈ (baseline.diff current).packages) (path_eq : a.path = b.path) : a.Mirrors b := by
  have tidy := (plain.tidy.diff baseline_plain.tidy) a forth
  have back_tidy := (baseline_plain.tidy.diff plain.tidy) b back
  have drawn (destination : String) := plain.tidy.dependency?_diff baseline_plain.tidy
    a.path destination
  have drawn_back (destination : String) := baseline_plain.tidy.dependency?_diff plain.tidy
    a.path destination
  simp only [dependency?_of_mem forth] at drawn
  simp only [path_eq, dependency?_of_mem back] at drawn_back
  refine ⟨path_eq.symm, ?state, forall₂_of_find? tidy.ascending back_tidy.ascending
    (fun destination => ?both) fun x in_a y in_b destination_eq => ?related⟩
  case state =>
    have made_back := mem_diff_iff.mp back
    rw [← path_eq] at made_back
    exact ViewPackage.state_compared (mem_diff_iff.mp forth) made_back
  case both =>
    change (a.dependency? destination).isSome = (b.dependency? destination).isSome
    rw [drawn, drawn_back, path_eq]
    exact isSome_ofSides.trans ((Bool.or_comm _ _).trans isSome_ofSides.symm)
  case related =>
    have x_drawn := tidy.dependency?_eq_some_iff.mpr ⟨in_a, destination_eq⟩
    have y_drawn := back_tidy.dependency?_eq_some_iff.mpr ⟨in_b, rfl⟩
    rw [drawn, path_eq] at x_drawn
    rw [drawn_back] at y_drawn
    exact ViewDependency.mirrors_compared plain.dependency? baseline_plain.dependency? x_drawn
      y_drawn

/-- Comparing the other way round shows the same packages and dependencies in the same order, with
every difference the other way round. -/
theorem Plain.diff_swap (plain : current.Plain) (baseline_plain : baseline.Plain) :
    List.Forall₂ ViewPackage.Mirrors (current.diff baseline).packages
        (baseline.diff current).packages ∧
      (baseline.diff current).changes = (current.diff baseline).changes.map Change.mirror := by
  have mirrors : List.Forall₂ ViewPackage.Mirrors (current.diff baseline).packages
      (baseline.diff current).packages := by
    refine forall₂_of_find? (View.ordered _) (View.ordered _) (fun path => ?_)
      fun a forth b back path_eq => plain.mirrors_of_mem baseline_plain forth back path_eq
    change ((current.diff baseline).find? path).isSome = ((baseline.diff current).find? path).isSome
    rw [find?_diff, find?_diff]
    exact isSome_ofSides.trans ((Bool.or_comm _ _).trans isSome_ofSides.symm)
  exact ⟨mirrors, ViewPackage.changes_mirrored mirrors⟩

end View

/-- The root package of `sample` is shown by one of two views, so it is deleted the one way round
and created the other. -/
theorem Project.sample_diff_swap :
    Change.packageDeleted "" ∈ ((sample.view sampleSpec).diff (sample.view sampleAround)).changes ∧
      Change.packageCreated "" ∈
        ((sample.view sampleAround).diff (sample.view sampleSpec)).changes := by
  have deleted : Change.packageDeleted "" ∈
      ((sample.view sampleSpec).diff (sample.view sampleAround)).changes := by
    decide +kernel
  obtain ⟨-, changes_eq⟩ := View.Plain.diff_swap (sample_reachable.view_plain sampleSpec)
    (sample_reachable.view_plain sampleAround)
  exact ⟨deleted, changes_eq ▸ List.mem_map_of_mem deleted⟩

end PackageAtlas
