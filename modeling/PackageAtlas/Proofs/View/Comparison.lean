import PackageAtlas.Proofs.View.Ordered
import PackageAtlas.View.Diff

/-!
# Comparisons by path

What a comparison holds at a path depends only on what its two sides have there, and the same is
true of the dependency between two paths. All else about comparisons follows from these two laws.
-/
namespace PackageAtlas

/-- Whether the dependencies of a package leave from it, in the order of their destinations. -/
structure ViewPackage.Tidy (package : ViewPackage) : Prop where
  source_eq {dependency : ViewDependency} :
    dependency ∈ package.dependencies → dependency.source = package.path
  ascending : package.dependencies.Pairwise (·.destination < ·.destination)

/-- Whether a package is as it was before any comparison. -/
structure ViewPackage.Plain (package : ViewPackage) : Prop extends package.Tidy where
  neutral : package.state = .neutral
  unmarked {dependency : ViewDependency} :
    dependency ∈ package.dependencies → dependency.state = .neutral ∧ dependency.mark = none

/-- Whether a dependency is drawn between two paths, as it was before any comparison. -/
structure ViewDependency.Plain (source destination : String) (dependency : ViewDependency) :
    Prop where
  source_eq : dependency.source = source
  destination_eq : dependency.destination = destination
  neutral : dependency.state = .neutral
  unmarked : dependency.mark = none

namespace View

def Tidy (view : View) : Prop :=
  ∀ package ∈ view.packages, package.Tidy

def Plain (view : View) : Prop :=
  ∀ package ∈ view.packages, package.Plain

theorem Plain.tidy {view : View} (plain : view.Plain) : view.Tidy :=
  fun package member => (plain package member).toTidy

end View

/-! ### Two sides -/

section

variable {α β : Type} {both : α → α → β} {created deleted : α → β} {here there : Option α}

/-- What two sides come to, by which of them has something. -/
def ofSides (both : α → α → β) (created deleted : α → β) : Option α → Option α → Option β
  | some own, some old => some (both own old)
  | some own, none => some (created own)
  | none, some old => some (deleted old)
  | none, none => none

theorem isSome_ofSides :
    (ofSides both created deleted here there).isSome = (here.isSome || there.isSome) := by
  cases here <;> cases there <;> rfl

theorem ofSides_cases {made : β} (made_eq : ofSides both created deleted here there = some made) :
    (∃ own old, here = some own ∧ there = some old ∧ both own old = made) ∨
      (∃ own, here = some own ∧ there = none ∧ created own = made) ∨
        ∃ old, here = none ∧ there = some old ∧ deleted old = made := by
  cases here with
  | none =>
    cases there with
    | none => cases made_eq
    | some old => exact Or.inr (Or.inr ⟨old, rfl, rfl, Option.some.inj made_eq⟩)
  | some own =>
    cases there with
    | none => exact Or.inr (Or.inl ⟨own, rfl, rfl, Option.some.inj made_eq⟩)
    | some old => exact Or.inl ⟨own, old, rfl, rfl, Option.some.inj made_eq⟩

end

/-! ### Dependencies of a package of both sides -/

namespace ViewDependency

/-- A dependency of both sides whose counts differ. -/
def recounted (dependency baseline : ViewDependency) : ViewDependency :=
  let delta := countDelta dependency.count - countDelta baseline.count
  { dependency with
    mark := some {
      change := .countChanged
      delta
      label := toString dependency.count ++ " (" ++ signedText delta ++ ")" } }

@[simp] theorem deleted_destination (dependency : ViewDependency) :
    dependency.deleted.destination = dependency.destination := rfl

theorem comparedTo_some (dependency baseline : ViewDependency) :
    dependency.comparedTo (some baseline) =
      if baseline.count = dependency.count then dependency else dependency.recounted baseline := rfl

@[simp] theorem comparedTo_destination (dependency : ViewDependency)
    (baseline : Option ViewDependency) :
    (dependency.comparedTo baseline).destination = dependency.destination := by
  cases baseline with
  | none => rfl
  | some baseline => rw [comparedTo_some]; split <;> rfl

@[simp] theorem comparedTo_source (dependency : ViewDependency)
    (baseline : Option ViewDependency) :
    (dependency.comparedTo baseline).source = dependency.source := by
  cases baseline with
  | none => rfl
  | some baseline => rw [comparedTo_some]; split <;> rfl

/-- What a comparison draws from `source` to a destination, by what the two sides draw. -/
def compared (source : String) : Option ViewDependency → Option ViewDependency →
    Option ViewDependency :=
  ofSides (fun own old => own.comparedTo (some old)) created
    fun old => { old.deleted with source }

/-- All that a dependency of a comparison can be. -/
theorem compared_cases {source : String} {here there : Option ViewDependency}
    {dependency : ViewDependency} (made : compared source here there = some dependency) :
    (∃ own old, here = some own ∧ there = some old ∧
        (if old.count = own.count then own else own.recounted old) = dependency) ∨
      (∃ own, here = some own ∧ there = none ∧ own.created = dependency) ∨
        ∃ old, here = none ∧ there = some old ∧ { old.deleted with source } = dependency :=
  ofSides_cases made

theorem compared_some_some (source : String) (own old : ViewDependency) :
    compared source (some own) (some old) =
      some (if old.count = own.count then own else own.recounted old) := rfl

end ViewDependency

namespace ViewPackage

variable {package baseline : ViewPackage}

theorem Tidy.destinations_nodup (tidy : package.Tidy) :
    (package.dependencies.map (·.destination)).Nodup :=
  nodup_keys_of_ascending tidy.ascending

theorem Tidy.dependency?_eq_some_iff (tidy : package.Tidy) {destination : String}
    {dependency : ViewDependency} :
    package.dependency? destination = some dependency ↔
      dependency ∈ package.dependencies ∧ dependency.destination = destination :=
  find?_key_eq_some_iff tidy.destinations_nodup

theorem Plain.dependency? (plain : package.Plain) {destination : String} :
    ∀ dependency ∈ package.dependency? destination,
      dependency.Plain package.path destination := by
  intro dependency drawn
  obtain ⟨member, destination_eq⟩ := plain.dependency?_eq_some_iff.mp drawn
  obtain ⟨neutral, unmarked⟩ := plain.unmarked member
  exact ⟨plain.source_eq member, destination_eq, neutral, unmarked⟩

/-- The dependencies of this side as they are compared to those of the baseline. -/
def keptSince (package baseline : ViewPackage) : List ViewDependency :=
  package.dependencies.map fun dependency =>
    dependency.comparedTo (baseline.dependency? dependency.destination)

theorem comparedTo_perm (package baseline : ViewPackage) :
    (package.comparedTo baseline).dependencies.Perm
      (package.keptSince baseline ++ package.removedSince baseline) :=
  List.mergeSort_perm _ _

theorem map_destination_keptSince (package baseline : ViewPackage) :
    (package.keptSince baseline).map (·.destination) =
      package.dependencies.map (·.destination) := by
  simp [keptSince, Function.comp_def]

theorem map_destination_removedSince (package baseline : ViewPackage) :
    (package.removedSince baseline).map (·.destination) =
      (baseline.dependencies.filter fun old => (package.dependency? old.destination).isNone).map
        (·.destination) := by
  simp [removedSince, Function.comp_def]

theorem Tidy.destinations_apart (tidy : package.Tidy) (baseline_tidy : baseline.Tidy) :
    ((package.keptSince baseline ++ package.removedSince baseline).map (·.destination)).Nodup := by
  rw [List.map_append, map_destination_keptSince, map_destination_removedSince, List.nodup_append']
  refine ⟨tidy.destinations_nodup,
    baseline_tidy.destinations_nodup.sublist (List.filter_sublist.map _), ?_⟩
  intro destination kept removed
  obtain ⟨dependency, member, same⟩ := List.mem_map.mp kept
  obtain ⟨old, old_member, rfl⟩ := List.mem_map.mp removed
  have found := tidy.dependency?_eq_some_iff.mpr ⟨member, same⟩
  have gone := (List.mem_filter.mp old_member).2
  rw [found] at gone
  cases gone

theorem find?_keptSince (package baseline : ViewPackage) (destination : String) :
    (package.keptSince baseline).find? (·.destination = destination) =
      (package.dependency? destination).map (·.comparedTo (baseline.dependency? destination)) := by
  rw [keptSince, find?_key_map fun dependency => dependency.comparedTo_destination _]
  apply Option.map_congr
  intro dependency found
  have destination_eq : dependency.destination = destination := by
    simpa using List.find?_some found
  rw [destination_eq]

theorem find?_removedSince (baseline_tidy : baseline.Tidy) {destination : String}
    (gone : package.dependency? destination = none) :
    (package.removedSince baseline).find? (·.destination = destination) =
      (baseline.dependency? destination).map fun old =>
        { old.deleted with source := package.path } := by
  rw [removedSince, find?_key_map fun old => old.deleted_destination,
    find?_key_filter baseline_tidy.destinations_nodup]
  change (Option.filter _ (baseline.dependency? destination)).map _ = _
  cases found : baseline.dependency? destination with
  | none => rfl
  | some old =>
    obtain ⟨-, rfl⟩ := baseline_tidy.dependency?_eq_some_iff.mp found
    rw [Option.filter_some, gone]
    rfl

/-- The dependency of a package of both sides to a destination, by the two that are compared. -/
theorem Tidy.dependency?_comparedTo (tidy : package.Tidy) (baseline_tidy : baseline.Tidy)
    (destination : String) :
    (package.comparedTo baseline).dependency? destination =
      ViewDependency.compared package.path (package.dependency? destination)
        (baseline.dependency? destination) := by
  rw [dependency?, ← find?_key_perm (comparedTo_perm package baseline).symm
    (tidy.destinations_apart baseline_tidy), List.find?_append, find?_keptSince]
  cases here : package.dependency? destination with
  | some dependency => cases baseline.dependency? destination <;> rfl
  | none =>
    rw [find?_removedSince baseline_tidy here]
    cases baseline.dependency? destination <;> rfl

theorem Tidy.comparedTo (tidy : package.Tidy) (baseline_tidy : baseline.Tidy) :
    (package.comparedTo baseline).Tidy where
  source_eq {dependency} member := by
    rcases List.mem_append.mp ((comparedTo_perm package baseline).mem_iff.mp member) with
      kept | removed
    · obtain ⟨own, own_member, rfl⟩ := List.mem_map.mp kept
      rw [ViewDependency.comparedTo_source]
      exact tidy.source_eq own_member
    · obtain ⟨old, -, rfl⟩ := List.mem_map.mp removed
      rfl
  ascending := ascending_mergeSort (tidy.destinations_apart baseline_tidy)

/-- Dependencies that stay where they are keep their order, whatever else becomes of them. -/
theorem Tidy.map (tidy : package.Tidy) (state : EntityState) {f : ViewDependency → ViewDependency}
    (same_source : ∀ dependency, (f dependency).source = dependency.source)
    (same_destination : ∀ dependency, (f dependency).destination = dependency.destination) :
    { package with state, dependencies := package.dependencies.map f }.Tidy where
  source_eq {dependency} member := by
    obtain ⟨own, own_member, rfl⟩ := List.mem_map.mp member
    exact (same_source own).trans (tidy.source_eq own_member)
  ascending := by
    refine List.pairwise_map.mpr (tidy.ascending.imp fun {a b} less => ?_)
    rwa [same_destination, same_destination]

theorem Tidy.created (tidy : package.Tidy) : package.created.Tidy :=
  tidy.map .created (fun _ => rfl) fun _ => rfl

theorem Tidy.deleted (tidy : package.Tidy) : package.deleted.Tidy :=
  tidy.map .deleted (fun _ => rfl) fun _ => rfl

theorem dependency?_created (package : ViewPackage) (destination : String) :
    package.created.dependency? destination =
      (package.dependency? destination).map ViewDependency.created :=
  find?_key_map (fun _ => rfl) destination

theorem dependency?_deleted (package : ViewPackage) (destination : String) :
    package.deleted.dependency? destination =
      (package.dependency? destination).map ViewDependency.deleted :=
  find?_key_map (fun _ => rfl) destination

/-- What a comparison holds at a path, by what the two sides have there. -/
def compared : Option ViewPackage → Option ViewPackage → Option ViewPackage :=
  ofSides comparedTo created deleted

/-- All that a package of a comparison can be. -/
theorem compared_cases {here there : Option ViewPackage} {package : ViewPackage}
    (made : compared here there = some package) :
    (∃ own old, here = some own ∧ there = some old ∧ own.comparedTo old = package) ∨
      (∃ own, here = some own ∧ there = none ∧ own.created = package) ∨
        ∃ old, here = none ∧ there = some old ∧ old.deleted = package :=
  ofSides_cases made

theorem Tidy.compared {here there : Option ViewPackage} (tidy : ∀ package ∈ here, package.Tidy)
    (baseline_tidy : ∀ package ∈ there, package.Tidy) {package : ViewPackage}
    (made : ViewPackage.compared here there = some package) : package.Tidy := by
  rcases compared_cases made with ⟨own, old, rfl, rfl, rfl⟩ | ⟨own, rfl, rfl, rfl⟩ |
    ⟨old, rfl, rfl, rfl⟩
  · exact (tidy own rfl).comparedTo (baseline_tidy old rfl)
  · exact (tidy own rfl).created
  · exact (baseline_tidy old rfl).deleted

end ViewPackage

/-! ### Whole comparisons -/

namespace View

variable (current baseline : View)

/-- A package of this side as it stands in the comparison. -/
def against (package : ViewPackage) : ViewPackage :=
  match baseline.find? package.path with
  | some old => package.comparedTo old
  | none => package.created

@[simp] theorem against_path (package : ViewPackage) :
    (baseline.against package).path = package.path := by
  unfold against
  split <;> rfl

/-- The packages of the baseline that are gone, as they stand in the comparison. -/
def gone : List ViewPackage :=
  (baseline.packages.filter fun old => (current.find? old.path).isNone).map ViewPackage.deleted

theorem paths_apart : ((current.packages.map baseline.against ++ current.gone baseline).map
    (·.path)).Nodup := by
  have present_paths : (current.packages.map baseline.against).map (·.path) =
      current.packages.map (·.path) := by
    simp [Function.comp_def]
  have gone_paths : (current.gone baseline).map (·.path) =
      (baseline.packages.filter fun old => (current.find? old.path).isNone).map (·.path) := by
    simp [gone, Function.comp_def, ViewPackage.deleted]
  rw [List.map_append, present_paths, gone_paths, List.nodup_append']
  refine ⟨current.paths_nodup, baseline.paths_nodup.sublist (List.filter_sublist.map _), ?_⟩
  intro path present gone
  obtain ⟨package, member, same⟩ := List.mem_map.mp present
  obtain ⟨old, old_member, rfl⟩ := List.mem_map.mp gone
  have found := (current.find?_eq_some_iff old.path package).mpr ⟨member, same⟩
  have missing := (List.mem_filter.mp old_member).2
  rw [found] at missing
  cases missing

theorem find?_gone {path : String} (missing : current.find? path = none) :
    (current.gone baseline).find? (·.path = path) =
      (baseline.find? path).map ViewPackage.deleted := by
  rw [gone, find?_key_map fun old => (rfl : old.deleted.path = old.path),
    find?_key_filter baseline.paths_nodup]
  change (Option.filter _ (baseline.find? path)).map _ = _
  cases found : baseline.find? path with
  | none => rfl
  | some old =>
    obtain ⟨-, rfl⟩ := (baseline.find?_eq_some_iff _ _).mp found
    rw [Option.filter_some, missing]
    rfl

/-- What a comparison holds at a path depends on what the two sides have there. -/
theorem find?_diff (path : String) :
    (current.diff baseline).find? path =
      ViewPackage.compared (current.find? path) (baseline.find? path) := by
  have apart := current.paths_apart baseline
  have found_eq := find?_key_perm (ofList_perm apart).symm apart path
  rw [List.find?_append, find?_key_map baseline.against_path] at found_eq
  refine found_eq.symm.trans ?_
  change ((current.find? path).map baseline.against).or _ = _
  cases here : current.find? path with
  | none =>
    rw [find?_gone current baseline here]
    cases baseline.find? path <;> rfl
  | some package =>
    obtain ⟨-, rfl⟩ := (current.find?_eq_some_iff _ _).mp here
    rw [Option.map_some, Option.some_or, against]
    cases baseline.find? package.path <;> rfl

variable {current baseline : View}

theorem mem_diff_iff {package : ViewPackage} :
    package ∈ (current.diff baseline).packages ↔
      ViewPackage.compared (current.find? package.path) (baseline.find? package.path) =
        some package := by
  rw [← find?_diff, find?_eq_some_iff, and_iff_left rfl]

theorem Tidy.of_find? {view : View} (tidy : view.Tidy) {path : String} :
    ∀ package ∈ view.find? path, package.Tidy :=
  fun package found => tidy package (List.mem_of_find?_eq_some found)

theorem Tidy.dependency?_eq_some_iff {view : View} (tidy : view.Tidy) {source destination : String}
    {dependency : ViewDependency} :
    view.dependency? source destination = some dependency ↔
      ∃ package ∈ view.packages, package.path = source ∧
        dependency ∈ package.dependencies ∧ dependency.destination = destination := by
  rw [dependency?, Option.bind_eq_some_iff]
  constructor
  · rintro ⟨package, found, drawn⟩
    obtain ⟨member, path_eq⟩ := (view.find?_eq_some_iff _ _).mp found
    exact ⟨package, member, path_eq, (tidy package member).dependency?_eq_some_iff.mp drawn⟩
  · rintro ⟨package, member, path_eq, drawn⟩
    exact ⟨package, (view.find?_eq_some_iff _ _).mpr ⟨member, path_eq⟩,
      (tidy package member).dependency?_eq_some_iff.mpr drawn⟩

theorem dependency?_of_mem {view : View} {package : ViewPackage} (member : package ∈ view.packages)
    (destination : String) :
    view.dependency? package.path destination = package.dependency? destination := by
  rw [dependency?, (view.find?_eq_some_iff _ _).mpr ⟨member, rfl⟩, Option.bind_some]

theorem Plain.of_find? {view : View} (plain : view.Plain) {path : String} :
    ∀ package ∈ view.find? path, package.Plain :=
  fun package found => plain package (List.mem_of_find?_eq_some found)

theorem Plain.dependency? {view : View} (plain : view.Plain) {source destination : String} :
    ∀ dependency ∈ view.dependency? source destination,
      dependency.Plain source destination := by
  intro dependency between
  obtain ⟨package, found, drawn⟩ := Option.bind_eq_some_iff.mp between
  obtain ⟨member, rfl⟩ := (view.find?_eq_some_iff _ _).mp found
  exact (plain package member).dependency? dependency drawn

theorem Tidy.diff (tidy : current.Tidy) (baseline_tidy : baseline.Tidy) :
    (current.diff baseline).Tidy :=
  fun _ member => ViewPackage.Tidy.compared tidy.of_find? baseline_tidy.of_find?
    (mem_diff_iff.mp member)

/-- The dependency that a comparison draws between two paths depends on those that the two sides
draw there. -/
theorem Tidy.dependency?_diff (tidy : current.Tidy) (baseline_tidy : baseline.Tidy)
    (source destination : String) :
    (current.diff baseline).dependency? source destination =
      ViewDependency.compared source (current.dependency? source destination)
        (baseline.dependency? source destination) := by
  rw [dependency?, dependency?, dependency?, find?_diff]
  cases here : current.find? source with
  | none =>
    cases there : baseline.find? source with
    | none => rfl
    | some old =>
      -- A package that is gone keeps its own source, which is the path it was found at.
      obtain ⟨member, rfl⟩ := (baseline.find?_eq_some_iff _ _).mp there
      refine (old.dependency?_deleted destination).trans ?_
      rw [Option.bind_none, Option.bind_some]
      cases drawn : old.dependency? destination with
      | none => rfl
      | some dependency =>
        have old_tidy := baseline_tidy old member
        have source_eq := old_tidy.source_eq (old_tidy.dependency?_eq_some_iff.mp drawn).1
        rw [ViewDependency.compared, ← source_eq]
        rfl
  | some package =>
    cases there : baseline.find? source with
    | none =>
      refine (package.dependency?_created destination).trans ?_
      rw [Option.bind_none, Option.bind_some]
      cases package.dependency? destination <;> rfl
    | some old =>
      obtain ⟨member, path_eq⟩ := (current.find?_eq_some_iff _ _).mp here
      have old_tidy := baseline_tidy old (List.mem_of_find?_eq_some there)
      have compared_eq := (tidy package member).dependency?_comparedTo old_tidy destination
      rw [path_eq] at compared_eq
      exact compared_eq

end View

end PackageAtlas
