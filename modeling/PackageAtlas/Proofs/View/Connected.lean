import PackageAtlas.Diagram.Basic
import PackageAtlas.Proofs.View.PlainViews

/-!
# Views without loose ends

Every dependency of a view leaves from the package that carries it and leads to another package of
the view. So it is with views of projects, and comparing or labelling views leaves it so.
-/
namespace PackageAtlas

/-- Whether a dependency counts what it lists, which is something and in order. -/
structure ViewDependency.Counted (dependency : ViewDependency) : Prop where
  pos : 0 < dependency.count
  count_eq : dependency.count = dependency.relations.length
  ascending : dependency.relations.Pairwise FileRelation.Before

namespace View

def Counted (view : View) : Prop :=
  ∀ package ∈ view.packages, ∀ dependency ∈ package.dependencies, dependency.Counted

/-- Whether packages stand at their paths, and dependencies in order between two packages. -/
structure Connected (view : View) : Prop where
  path_eq {path : String} {package : ViewPackage} :
    view.find? path = some package → package.path = path
  tidy : view.Tidy
  destination_ne {package : ViewPackage} {dependency : ViewDependency} :
    package ∈ view.packages → dependency ∈ package.dependencies →
      dependency.destination ≠ package.path
  destination_found {package : ViewPackage} {dependency : ViewDependency} :
    package ∈ view.packages → dependency ∈ package.dependencies →
      (view.find? dependency.destination).isSome

end View

/-! ### Comparisons -/

/-- Whether two dependencies lead to one place and stand for the same. -/
def ViewDependency.Recalls (a b : ViewDependency) : Prop :=
  a.destination = b.destination ∧ a.count = b.count ∧ a.relations = b.relations

theorem ViewDependency.comparedTo_recalls (dependency : ViewDependency)
    (baseline : Option ViewDependency) : (dependency.comparedTo baseline).Recalls dependency := by
  cases baseline with
  | none => exact ⟨rfl, rfl, rfl⟩
  | some baseline =>
    rw [comparedTo_some]
    split <;> exact ⟨rfl, rfl, rfl⟩

/-- Every dependency of a comparison was drawn before by one of its two sides. -/
theorem ViewPackage.exists_recalled {here there : Option ViewPackage} {package : ViewPackage}
    (made : compared here there = some package) {dependency : ViewDependency}
    (drawn : dependency ∈ package.dependencies) :
    (∃ own ∈ here, ∃ former ∈ own.dependencies, dependency.Recalls former) ∨
      ∃ old ∈ there, ∃ former ∈ old.dependencies, dependency.Recalls former := by
  rcases compared_cases made with ⟨own, old, rfl, rfl, rfl⟩ | ⟨own, rfl, rfl, rfl⟩ |
    ⟨old, rfl, rfl, rfl⟩
  · rcases List.mem_append.mp ((comparedTo_perm own old).mem_iff.mp drawn) with kept | removed
    · obtain ⟨former, member, rfl⟩ := List.mem_map.mp kept
      exact Or.inl ⟨own, rfl, former, member, former.comparedTo_recalls _⟩
    · obtain ⟨former, member, rfl⟩ := List.mem_map.mp removed
      exact Or.inr ⟨old, rfl, former, List.mem_of_mem_filter member, rfl, rfl, rfl⟩
  · obtain ⟨former, member, rfl⟩ := List.mem_map.mp drawn
    exact Or.inl ⟨own, rfl, former, member, rfl, rfl, rfl⟩
  · obtain ⟨former, member, rfl⟩ := List.mem_map.mp drawn
    exact Or.inr ⟨old, rfl, former, member, rfl, rfl, rfl⟩

namespace View

variable {current baseline : View}

theorem Counted.diff (counted : current.Counted) (baseline_counted : baseline.Counted) :
    (current.diff baseline).Counted := by
  intro package member dependency drawn
  have of_former {view : View} (view_counted : view.Counted) {side : ViewPackage}
      (found : side ∈ view.find? package.path) {former : ViewDependency}
      (former_drawn : former ∈ side.dependencies) (recalls : dependency.Recalls former) :
      dependency.Counted := by
    obtain ⟨pos, count_eq, ascending⟩ :=
      view_counted side (List.mem_of_find?_eq_some found) former former_drawn
    obtain ⟨-, same_count, same_relations⟩ := recalls
    rw [← same_count] at pos count_eq
    rw [← same_relations] at count_eq ascending
    exact ⟨pos, count_eq, ascending⟩
  rcases ViewPackage.exists_recalled (mem_diff_iff.mp member) drawn with
    ⟨own, here, former, former_drawn, recalls⟩ | ⟨old, there, former, former_drawn, recalls⟩
  · exact of_former counted here former_drawn recalls
  · exact of_former baseline_counted there former_drawn recalls

theorem Connected.diff (connected : current.Connected) (baseline_connected : baseline.Connected) :
    (current.diff baseline).Connected := by
  have origin {package : ViewPackage} {dependency : ViewDependency}
      (member : package ∈ (current.diff baseline).packages)
      (drawn : dependency ∈ package.dependencies) :
      dependency.destination ≠ package.path ∧
        ((current.find? dependency.destination).isSome ∨
          (baseline.find? dependency.destination).isSome) := by
    rcases ViewPackage.exists_recalled (mem_diff_iff.mp member) drawn with
      ⟨own, here, former, former_drawn, same, -⟩ | ⟨old, there, former, former_drawn, same, -⟩
    · have own_member := List.mem_of_find?_eq_some here
      rw [same, ← connected.path_eq here]
      exact ⟨connected.destination_ne own_member former_drawn,
        Or.inl (connected.destination_found own_member former_drawn)⟩
    · have old_member := List.mem_of_find?_eq_some there
      rw [same, ← baseline_connected.path_eq there]
      exact ⟨baseline_connected.destination_ne old_member former_drawn,
        Or.inr (baseline_connected.destination_found old_member former_drawn)⟩
  exact {
    path_eq found := ((find?_eq_some_iff _ _ _).mp found).2
    tidy := connected.tidy.diff baseline_connected.tidy
    destination_ne member drawn := (origin member drawn).1
    -- A package of either side is a package of the comparison.
    destination_found member drawn := by
      rw [find?_diff]
      exact isSome_ofSides.trans ((Bool.or_eq_true _ _).mpr (origin member drawn).2) }

/-! ### Labels -/

variable {view : View}

theorem find?_relabel (label : ViewPackage → String) (path : String) :
    (view.relabel label).find? path =
      (view.find? path).map fun package => { package with label := label package } :=
  find?_key_map (fun _ => rfl) path

theorem Connected.relabel (connected : view.Connected) (label : ViewPackage → String) :
    (view.relabel label).Connected where
  path_eq found := ((find?_eq_some_iff _ _ _).mp found).2
  tidy _ member := by
    obtain ⟨former, former_member, rfl⟩ := List.mem_map.mp member
    exact { connected.tidy former former_member with }
  destination_ne {_ dependency} member drawn := by
    obtain ⟨former, former_member, rfl⟩ := List.mem_map.mp member
    have former_drawn : dependency ∈ former.dependencies := drawn
    have apart := connected.destination_ne former_member former_drawn
    exact apart
  destination_found {_ dependency} member drawn := by
    obtain ⟨former, former_member, rfl⟩ := List.mem_map.mp member
    have former_drawn : dependency ∈ former.dependencies := drawn
    rw [find?_relabel, Option.isSome_map]
    exact connected.destination_found former_member former_drawn

/-- Both ends of a dependency are drawn under the labels of packages, never under bare paths. -/
theorem Connected.ends_labelled (connected : view.Connected) {dependency : ViewDependency}
    (drawn : dependency ∈ view.packages.flatMap (·.dependencies)) :
    ∃ source ∈ view.packages, ∃ destination ∈ view.packages,
      Diagram.labelOf view dependency.source = source.label ∧
        Diagram.labelOf view dependency.destination = destination.label := by
  obtain ⟨source, member, drawn⟩ := List.mem_flatMap.mp drawn
  have source_found := (view.find?_eq_some_iff _ _).mpr ⟨member, rfl⟩
  obtain ⟨destination, found⟩ := Option.isSome_iff_exists.mp
    (connected.destination_found member drawn)
  refine ⟨source, member, destination, List.mem_of_find?_eq_some found, ?_, ?_⟩
  · rw [(connected.tidy source member).source_eq drawn, Diagram.labelOf, source_found]
  · rw [Diagram.labelOf, found]

end View

/-! ### Views of projects -/

namespace Project

variable {project baseline : Project}

theorem LogicallyPlaced.view_connected (placed : LogicallyPlaced project)
    (wellFormed : WellFormed project) (spec : ViewSpec) : (project.view spec).Connected where
  path_eq found := ((View.find?_eq_some_iff _ _ _).mp found).2
  tidy := (placed.view_plain wellFormed spec).tidy
  destination_ne {package dependency} member drawn same := by
    have rollsUp := placed.rollsUp wellFormed member
    obtain ⟨origin_shown, path_eq, -⟩ := placed.mem_view_packages wellFormed member
    -- A package that leads to itself would carry what stays inside it.
    have leads := (rollsUp.exists_iff origin_shown).mp ⟨dependency, drawn, same.trans path_eq⟩
    exact leads.1 rfl
  destination_found {package dependency} member drawn := by
    obtain ⟨-, target, target_shown, destination_eq⟩ :=
      (placed.rollsUp wellFormed member).ends drawn
    obtain ⟨reached, found, -⟩ := placed.find?_view wellFormed target_shown
    rw [destination_eq, found]
    rfl

theorem LogicallyPlaced.view_counted (placed : LogicallyPlaced project)
    (wellFormed : WellFormed project) (spec : ViewSpec) : (project.view spec).Counted := by
  intro package member dependency drawn
  have rollsUp := placed.rollsUp wellFormed member
  obtain ⟨-, target, target_shown, destination_eq⟩ := rollsUp.ends drawn
  have summarizes := rollsUp.summarizes target_shown drawn destination_eq
  have something := ((rollsUp.exists_iff target_shown).mp ⟨dependency, drawn, destination_eq⟩).2
  refine ⟨?_, summarizes.count_eq_length, summarizes.ascending⟩
  rw [summarizes.count_eq]
  exact List.length_pos_of_ne_nil ((foldedEdges_ne_nil_iff _ _).mpr something)

/-- All that is drawn is well formed: views of projects, comparisons of two of them, and either
under new labels. -/
theorem Reachable.views_connected (reachable : Reachable RelativeName project)
    (baseline_reachable : Reachable RelativeName baseline) (spec other : ViewSpec) :
    let view := project.view spec
    let comparison := view.diff (baseline.view other)
    (view.Connected ∧ view.Counted) ∧ (comparison.Connected ∧ comparison.Counted) ∧
      ∀ usePath, (view.applyLabels usePath).Connected ∧
        (comparison.applyLabels usePath).Connected := by
  have connected (spec : ViewSpec) :=
    reachable.logicallyPlaced.view_connected reachable.wellFormed spec
  have baseline_connected :=
    baseline_reachable.logicallyPlaced.view_connected baseline_reachable.wellFormed other
  have counted := reachable.logicallyPlaced.view_counted reachable.wellFormed spec
  have baseline_counted :=
    baseline_reachable.logicallyPlaced.view_counted baseline_reachable.wellFormed other
  have compared := (connected spec).diff baseline_connected
  exact ⟨⟨connected spec, counted⟩, ⟨compared, counted.diff baseline_counted⟩,
    fun usePath => ⟨(connected spec).relabel _, compared.relabel _⟩⟩

/-- Two views of `sample` show different packages. Their comparison has the packages of both, and
all that `a/c/d` leads to is one of them. -/
theorem sample_views_connected :
    let comparison := (sample.view sampleSpec).diff (sample.view sampleAround)
    comparison.packages.map (·.path) = ["", "a", "a/c/d", "b"] ∧
      ((comparison.find? "a/c/d").map fun package => package.dependencies.map (·.destination)) =
        some ["b"] ∧
      comparison.Connected := by
  have views_connected :=
    sample_reachable.views_connected sample_reachable sampleSpec sampleAround
  exact ⟨by decide +kernel, by decide +kernel, views_connected.2.1.1⟩

end Project

end PackageAtlas
