import PackageAtlas.Proofs.View.Changes
import PackageAtlas.Proofs.View.Recovery

/-!
# Comparing what was compared before

A comparison is a view and can be compared again. Most of what the first comparison left on it is
written over. Where both sides draw a dependency its state is kept though, and so is its mark as
long as the two counts are equal.
-/
namespace PackageAtlas

/-- What comparisons leave on the dependency to a destination. -/
structure ViewDependency.Trace where
  destination : String
  state : EntityState
  mark : Option Mark
deriving DecidableEq, Repr

/-- What comparisons leave on the package at a path and on its dependencies. -/
structure ViewPackage.Trace where
  path : String
  state : EntityState
  dependencies : List ViewDependency.Trace
deriving DecidableEq, Repr

/-! ### Dependencies -/

namespace ViewDependency

def trace (dependency : ViewDependency) : Trace :=
  ⟨dependency.destination, dependency.state, dependency.mark⟩

/-- Whether nothing of a former comparison shows on a dependency that is compared to `old`. -/
structure FreshBeside (dependency old : ViewDependency) : Prop where
  neutral : dependency.state = .neutral
  unmarked : old.count = dependency.count → dependency.mark = none

variable {dependency : ViewDependency} {baseline : Option ViewDependency}

theorem unmarked_comparedTo_some (dependency old : ViewDependency) :
    dependency.unmarked.comparedTo (some old.unmarked) =
      if old.count = dependency.count then dependency.unmarked
      else { dependency.recounted old with state := .neutral } := rfl

theorem unmarked_comparedTo (fresh : ∀ old ∈ baseline, dependency.FreshBeside old) :
    dependency.unmarked.comparedTo (baseline.map unmarked) = dependency.comparedTo baseline := by
  cases baseline with
  | none => rfl
  | some old =>
    obtain ⟨neutral, unmarked⟩ := fresh old rfl
    rw [Option.map_some, unmarked_comparedTo_some, comparedTo_some]
    split
    next same => rw [ViewDependency.unmarked, ← neutral, ← unmarked same]
    next => rw [← neutral]; rfl

theorem trace_comparedTo_iff :
    (dependency.comparedTo baseline).trace =
        (dependency.unmarked.comparedTo (baseline.map unmarked)).trace ↔
      ∀ old ∈ baseline, dependency.FreshBeside old := by
  refine ⟨fun same old found => ?_, fun fresh => by rw [unmarked_comparedTo fresh]⟩
  cases found
  rw [Option.map_some, unmarked_comparedTo_some, comparedTo_some] at same
  split at same
  next =>
    obtain ⟨-, neutral, unmarked⟩ := Trace.mk.inj same
    exact ⟨neutral, fun _ => unmarked⟩
  next different =>
    obtain ⟨-, neutral, -⟩ := Trace.mk.inj same
    exact ⟨neutral, fun equal => absurd equal different⟩

end ViewDependency

/-! ### Packages -/

namespace ViewPackage

def trace (package : ViewPackage) : Trace :=
  ⟨package.path, package.state, package.dependencies.map ViewDependency.trace⟩

def FreshBeside (package old : ViewPackage) : Prop :=
  ∀ dependency ∈ package.dependencies, ∀ former ∈ old.dependency? dependency.destination,
    dependency.FreshBeside former

variable {package baseline : ViewPackage}

theorem unmarked_dependencies (package : ViewPackage) :
    package.unmarked.dependencies = package.dependencies.map ViewDependency.unmarked := rfl

theorem keptSince_unmarked (package baseline : ViewPackage) :
    package.unmarked.keptSince baseline.unmarked =
      package.dependencies.map fun dependency =>
        dependency.unmarked.comparedTo
          ((baseline.dependency? dependency.destination).map ViewDependency.unmarked) := by
  rw [keptSince, unmarked_dependencies, List.map_map]
  refine List.map_congr_left fun dependency _ => ?_
  exact congrArg dependency.unmarked.comparedTo
    (baseline.dependency?_unmarked dependency.destination)

theorem removedSince_unmarked (package baseline : ViewPackage) :
    package.unmarked.removedSince baseline.unmarked = package.removedSince baseline := by
  have gone (old : ViewDependency) :
      (package.unmarked.dependency? old.destination).isNone =
        (package.dependency? old.destination).isNone := by
    rw [dependency?_unmarked, Option.isNone_map]
  rw [removedSince, removedSince, unmarked_dependencies, List.filter_map, List.map_map]
  exact congrArg (List.map _) (List.filter_congr fun old _ => gone old)

theorem comparedTo_eq (package baseline : ViewPackage) :
    package.comparedTo baseline = { package with
      state := .neutral
      dependencies := (package.keptSince baseline ++ package.removedSince baseline).mergeSort
        fun a b => decide (a.destination ≤ b.destination) } := rfl

/-- Where nothing of former comparisons shows, they make no difference at all. -/
theorem FreshBeside.unmarked_comparedTo (fresh : package.FreshBeside baseline) :
    package.unmarked.comparedTo baseline.unmarked = package.comparedTo baseline := by
  have kept : package.unmarked.keptSince baseline.unmarked = package.keptSince baseline := by
    rw [keptSince_unmarked]
    exact List.map_congr_left fun dependency member =>
      ViewDependency.unmarked_comparedTo (fresh dependency member)
  rw [comparedTo_eq, comparedTo_eq, kept, removedSince_unmarked]
  rfl

/-- The dependencies of a comparison, each beside what it is without former comparisons. -/
def pairsSince (package baseline : ViewPackage) : List (ViewDependency × ViewDependency) :=
  (package.dependencies.map fun dependency =>
      let former := baseline.dependency? dependency.destination
      (dependency.comparedTo former,
        dependency.unmarked.comparedTo (former.map ViewDependency.unmarked))) ++
    (package.removedSince baseline).map fun removed => (removed, removed)

theorem map_fst_pairsSince (package baseline : ViewPackage) :
    (package.pairsSince baseline).map (·.1) =
      package.keptSince baseline ++ package.removedSince baseline := by
  rw [pairsSince, List.map_append, List.map_map, List.map_map]
  exact congrArg _ (List.map_id _)

theorem map_snd_pairsSince (package baseline : ViewPackage) :
    (package.pairsSince baseline).map (·.2) =
      package.unmarked.keptSince baseline.unmarked ++
        package.unmarked.removedSince baseline.unmarked := by
  rw [pairsSince, List.map_append, List.map_map, List.map_map, keptSince_unmarked,
    removedSince_unmarked]
  exact congrArg _ (List.map_id _)

theorem destination_eq_of_mem_pairsSince {pair : ViewDependency × ViewDependency}
    (member : pair ∈ package.pairsSince baseline) : pair.2.destination = pair.1.destination := by
  rcases List.mem_append.mp member with kept | removed
  · obtain ⟨dependency, -, rfl⟩ := List.mem_map.mp kept
    rw [ViewDependency.comparedTo_destination, ViewDependency.comparedTo_destination]
    rfl
  · obtain ⟨dependency, -, rfl⟩ := List.mem_map.mp removed
    rfl

/-- Former comparisons show exactly on the dependencies of this side that are not fresh. -/
theorem trace_comparedTo_iff :
    (package.comparedTo baseline).trace =
        (package.unmarked.comparedTo baseline.unmarked).trace ↔
      package.FreshBeside baseline := by
  refine ⟨fun same dependency member => ?_, fun fresh => by rw [fresh.unmarked_comparedTo]⟩
  have same_list := congrArg Trace.dependencies same
  simp only [trace, comparedTo_eq] at same_list
  rw [← map_fst_pairsSince, ← map_snd_pairsSince] at same_list
  -- Both lists are sorted by destination, which is the same in each pair.
  rw [mergeSort_map (fun _ _ => rfl), mergeSort_map fun _ => destination_eq_of_mem_pairsSince,
    List.map_map, List.map_map, List.map_inj_left] at same_list
  exact ViewDependency.trace_comparedTo_iff.mp
    (same_list _ (List.mem_mergeSort.mpr (List.mem_append_left _ (List.mem_map_of_mem member))))

theorem created_unmarked (package : ViewPackage) : package.unmarked.created = package.created := by
  rw [created, created, unmarked_dependencies, List.map_map]
  rfl

theorem deleted_unmarked (package : ViewPackage) : package.unmarked.deleted = package.deleted := by
  rw [deleted, deleted, unmarked_dependencies, List.map_map]
  rfl

theorem compared_unmarked {here there : Option ViewPackage}
    (fresh : ∀ package ∈ here, ∀ old ∈ there, package.FreshBeside old) :
    compared (here.map unmarked) (there.map unmarked) = compared here there := by
  cases here with
  | none =>
    cases there with
    | none => rfl
    | some old => exact congrArg some old.deleted_unmarked
  | some package =>
    cases there with
    | none => exact congrArg some package.created_unmarked
    | some old => exact congrArg some (fresh package rfl old rfl).unmarked_comparedTo

end ViewPackage

/-! ### Whole comparisons -/

namespace View

/-- What comparisons leave on a view. -/
def traces (view : View) : List ViewPackage.Trace :=
  view.packages.map ViewPackage.trace

def FreshBeside (current baseline : View) : Prop :=
  ∀ package ∈ current.packages, ∀ old ∈ baseline.find? package.path, package.FreshBeside old

def Unmarked (view : View) : Prop :=
  ∀ package ∈ view.packages, ∀ dependency ∈ package.dependencies, dependency.mark = none

/-- Whether no package has two dependencies with one destination. -/
def Unambiguous (view : View) : Prop :=
  ∀ package ∈ view.packages, (package.dependencies.map (·.destination)).Nodup

variable {current baseline : View}

theorem FreshBeside.diff_unmarked (fresh : current.FreshBeside baseline) :
    current.unmarked.diff baseline.unmarked = current.diff baseline := by
  refine eq_of_packages (eq_of_find? (View.ordered _) (View.ordered _) fun path => ?_)
  change (current.unmarked.diff baseline.unmarked).find? path = (current.diff baseline).find? path
  rw [find?_diff, find?_diff, find?_unmarked, find?_unmarked]
  refine ViewPackage.compared_unmarked fun package here old there => ?_
  obtain ⟨member, rfl⟩ := (current.find?_eq_some_iff _ _).mp here
  exact fresh package member old there

theorem traces_diff_iff :
    (current.diff baseline).traces = (current.unmarked.diff baseline.unmarked).traces ↔
      current.FreshBeside baseline := by
  refine ⟨fun same package member old found => ?_, fun fresh => by rw [fresh.diff_unmarked]⟩
  have here := (current.find?_eq_some_iff _ _).mpr ⟨member, rfl⟩
  have compared_member : package.comparedTo old ∈ (current.diff baseline).packages := by
    rw [mem_diff_iff]
    change ViewPackage.compared (current.find? package.path) (baseline.find? package.path) = _
    rw [here, found]
    rfl
  have listed : (package.comparedTo old).trace ∈
      (current.unmarked.diff baseline.unmarked).traces :=
    same ▸ List.mem_map_of_mem compared_member
  -- The package with this trace has the same path, so it is the one compared there.
  obtain ⟨other, other_member, trace_eq⟩ := List.mem_map.mp listed
  have path_eq : other.path = package.path := congrArg ViewPackage.Trace.path trace_eq
  rw [mem_diff_iff, path_eq, find?_unmarked, find?_unmarked, here, found] at other_member
  cases other_member
  exact ViewPackage.trace_comparedTo_iff.mp trace_eq.symm

end View

/-! ### A view beside itself -/

theorem ViewPackage.comparedTo_self_perm {package : ViewPackage}
    (nodup : (package.dependencies.map (·.destination)).Nodup) :
    (package.comparedTo package).dependencies.Perm package.dependencies := by
  have found {dependency : ViewDependency} (member : dependency ∈ package.dependencies) :
      package.dependency? dependency.destination = some dependency :=
    (find?_key_eq_some_iff nodup).mpr ⟨member, rfl⟩
  have kept : package.keptSince package = package.dependencies := by
    refine (List.map_congr_left fun dependency member => ?_).trans (List.map_id _)
    rw [found member, ViewDependency.comparedTo_some, if_pos rfl, id]
  have removed : package.removedSince package = [] := by
    rw [removedSince, List.map_eq_nil_iff, List.filter_eq_nil_iff]
    intro dependency member
    rw [found member]
    exact Bool.false_ne_true
  have perm := comparedTo_perm package package
  rwa [kept, removed, List.append_nil] at perm

namespace View

variable {view current baseline : View}

theorem mem_diff_self_iff {package : ViewPackage} :
    package ∈ (view.diff view).packages ↔ ∃ own ∈ view.packages, own.comparedTo own = package := by
  rw [mem_diff_iff]
  constructor
  · intro made
    -- Both sides are one view, so none has a package that the other lacks.
    rcases ViewPackage.compared_cases made with ⟨own, old, here, there, made⟩ |
      ⟨_, here, there, -⟩ | ⟨_, here, there, -⟩
    all_goals cases here.symm.trans there
    exact ⟨own, List.mem_of_find?_eq_some here, made⟩
  · rintro ⟨own, member, rfl⟩
    have found := (view.find?_eq_some_iff _ _).mpr ⟨member, rfl⟩
    change ViewPackage.compared (view.find? own.path) (view.find? own.path) = _
    rw [found]
    rfl

theorem Unambiguous.changes_diff_self (unambiguous : view.Unambiguous) :
    (view.diff view).changes = [] ↔ view.Unmarked := by
  rw [changes, List.flatMap_eq_nil_iff]
  simp only [mem_diff_self_iff, forall_exists_index, and_imp, forall_apply_eq_imp_iff₂]
  refine forall₂_congr fun package member => ?_
  have perm := ViewPackage.comparedTo_self_perm (unambiguous package member)
  rw [ViewPackage.changes_eq_nil_iff]
  simp only [perm.mem_iff]
  exact and_iff_right rfl

/-- A comparison is what it would be without former comparisons exactly if their traces on this side
are all written over. A view differs from itself exactly by the marks it already has. -/
theorem Unambiguous.diff_traces (unambiguous : current.Unambiguous) (baseline : View) :
    ((current.diff baseline).traces = (current.unmarked.diff baseline.unmarked).traces ↔
        current.FreshBeside baseline) ∧
      ((current.diff current).hasChanges = false ↔ current.Unmarked) ∧
        ((current.diff current).changes = [] ↔ current.Unmarked) := by
  have changes_iff := unambiguous.changes_diff_self
  exact ⟨traces_diff_iff, hasChanges_eq_false_iff.trans changes_iff, changes_iff⟩

/-! ### Small views -/

/-- The packages `a` and `b`, where `a` has the given dependencies. -/
def pairView (dependencies : List ViewDependency) : View where
  packages := [⟨"a", "a", "a", .neutral, dependencies, Project.root⟩,
    ⟨"b", "b", "b", .neutral, [], Project.root⟩]
  ordered := List.pairwise_pair.mpr (by decide : "a" < "b")

/-- A dependency from `a` to `b` is new since there was none. -/
def linkAdded : View :=
  (pairView [⟨"a", "b", 1, [⟨"a/x.py", "b/y.py"⟩], .neutral, none⟩]).diff (pairView [])

/-- Compared once more to the view without the dependency, it is found to be new once more. -/
theorem linkAdded_diff_again :
    linkAdded.Unambiguous ∧ linkAdded.FreshBeside (pairView []) ∧
      (linkAdded.diff (pairView [])).traces =
        (linkAdded.unmarked.diff (pairView []).unmarked).traces := by
  have unambiguous : linkAdded.Unambiguous := by
    unfold Unambiguous
    decide +kernel
  have fresh : linkAdded.FreshBeside (pairView []) := by
    intro package _ old found former_side _ former drawn
    obtain ⟨member, -⟩ := ((pairView []).find?_eq_some_iff _ _).mp found
    have nothing : ∀ old ∈ (pairView []).packages, old.dependencies = [] := by decide
    rw [ViewPackage.dependency?, nothing old member] at drawn
    cases drawn
  exact ⟨unambiguous, fresh, (unambiguous.diff_traces (pairView [])).1.mpr fresh⟩

/-- Compared to itself, the dependency is still told to be new. -/
theorem linkAdded_diff_self :
    linkAdded.Unambiguous ∧
      (linkAdded.diff linkAdded).traces ≠ (linkAdded.unmarked.diff linkAdded.unmarked).traces ∧
      (linkAdded.diff linkAdded).hasChanges = true ∧
      (linkAdded.diff linkAdded).changes = [.dependencyCreated "a" "b" 1] := by
  refine ⟨?_, ?_, ?_, ?_⟩
  · unfold Unambiguous
    decide +kernel
  · decide +kernel
  · decide +kernel
  · decide +kernel

end View

end PackageAtlas
