import Mathlib.Data.List.Infix
import PackageAtlas.Proofs.View.Selection

/-!
# Validation and selection agree

A specification is checked against the whole project before it is used. If the scope is the root
package, it passes exactly if each of its selectors without stars shows something by itself, and
what is reported is the first one that does not.
-/
namespace PackageAtlas

/-- The text of a selector, as the user wrote it. -/
def PackageSelector.spelling : PackageSelector → String
  | .anchored path _ => path
  | .byPrefix text => text

def PackageSelector.Starless (selector : PackageSelector) : Prop :=
  '*' ∉ selector.spelling.toList

/-- The specification with one selector only and without ignore patterns. -/
def ViewSpec.alone (spec : ViewSpec) (selector : PackageSelector) : ViewSpec :=
  { spec with packages := [selector], ignorePackages := [] }

theorem contains_star_iff {text : String} : Text.contains "*" text = true ↔ '*' ∈ text.toList := by
  rw [Text.contains_iff]
  exact List.singleton_infix_iff _ _

theorem anchorPath_of_starless {path : String} (starless : '*' ∉ path.toList) :
    anchorPath path = LogicalPath.normalize path := by
  have nothing_dropped : path.toList.filter (· ≠ '*') = path.toList := by
    refine List.filter_eq_self.mpr fun c inside => decide_eq_true ?_
    rintro rfl
    exact starless inside
  rw [anchorPath, nothing_dropped, String.ofList_toList]

namespace Project

variable {project : Project}

/-! ### Single selectors -/

/-- The empty path is that of the root package. -/
theorem Reachable.findPackage_empty (reachable : Reachable RelativeName project) {spelling : String}
    (empty : LogicalPath.normalize spelling = "") : project.findPackage spelling = .ok root := by
  have tree := reachable.wellFormed.tree
  refine findPackage_eq_ok_iff.mpr (Or.inl ?_)
  rw [empty, packageWithRelative?_eq_some_iff reachable.logicallyPlaced tree]
  exact ⟨tree.has_root, reachable.stepwise.root_relative⟩

/-- Without stars an anchor is the package that its path means, also if the path is empty. -/
theorem Reachable.isAnchor_iff (reachable : Reachable RelativeName project)
    (at_root : project.scope = root) {path : String} (starless : '*' ∉ path.toList)
    {anchor : PackageId} :
    project.IsAnchor path anchor ↔ project.findPackage path = .ok anchor := by
  rw [IsAnchor, anchorPath_of_starless starless, at_root, findPackage_normalize]
  split
  next empty =>
    -- An anchor stands for the scope here and the lookup finds the root, which are the same.
    rw [reachable.findPackage_empty empty, Except.ok.injEq, eq_comm]
  next => exact Iff.rfl

/-- Whether a selector shows anything by itself. -/
def Picks (project : Project) (spec : ViewSpec) (selector : PackageSelector) : Prop :=
  (project.view (spec.alone selector)).packages ≠ []

theorem Reachable.picks_iff (reachable : Reachable RelativeName project)
    (at_root : project.scope = root) {spec : ViewSpec} {selector : PackageSelector} :
    project.Picks spec selector ↔
      ∃ id, project.HasPackage id ∧ project.Selects id selector := by
  have shows_iff (id : PackageId) := reachable.view_shows_iff (spec.alone selector) id
  constructor
  · intro something
    obtain ⟨package, member⟩ := List.exists_mem_of_ne_nil _ something
    have placed := reachable.logicallyPlaced.mem_view_packages reachable.wellFormed member
    have shows := (shows_iff package.origin).mp ⟨package, member, rfl, placed.2.1⟩
    rcases shows.selected with ⟨unlisted, -⟩ | ⟨other, listed, selects⟩
    · cases unlisted
    · cases List.mem_singleton.mp listed
      exact ⟨package.origin, shows.has, selects⟩
  · rintro ⟨id, has, selects⟩
    -- Everything is in the scope, and nothing is ignored.
    have shows : project.Shows (spec.alone selector) id := {
      has
      in_scope := at_root ▸ reachable.wellFormed.tree.root_mem_chain has
      kept := fun _ listed => absurd listed List.not_mem_nil
      selected := Or.inr ⟨selector, List.mem_singleton_self _, selects⟩ }
    obtain ⟨package, member, -⟩ := (shows_iff id).mpr shows
    exact List.ne_nil_of_mem member

/-- The validator asks for a package of the project, which is what the selector picks by itself. -/
theorem Reachable.selectorExists_iff (reachable : Reachable RelativeName project)
    (at_root : project.scope = root) (spec : ViewSpec) (selector : PackageSelector) :
    project.selectorExists selector = true ↔
      (selector.Starless → project.Picks spec selector) := by
  have tree := reachable.wellFormed.tree
  rw [reachable.picks_iff at_root]
  cases selector with
  | byPrefix text =>
    rw [selectorExists, Bool.or_eq_true, contains_star_iff, or_iff_not_imp_left, List.any_eq_true]
    refine imp_congr_right fun _ => ?_
    simp only [Text.startsWith_iff, project.mem_packages_iff, Selects]
    constructor
    · rintro ⟨_, ⟨id, has, rfl⟩, leads⟩
      exact ⟨id, has, leads⟩
    · rintro ⟨id, has, leads⟩
      exact ⟨_, ⟨id, has, rfl⟩, leads⟩
  | anchored path levels =>
    rw [selectorExists, Bool.or_eq_true, contains_star_iff, or_iff_not_imp_left]
    refine imp_congr_right fun starless => ?_
    simp only [Selects, reachable.isAnchor_iff at_root starless]
    constructor
    · intro exists_found
      obtain ⟨anchor, found⟩ : ∃ anchor, project.findPackage path = .ok anchor := by
        cases found : project.findPackage path with
        | error unknown => rw [found] at exists_found; cases exists_found
        | ok anchor => exact ⟨anchor, rfl⟩
      -- The anchor picks itself, whatever the number of levels.
      have has := hasPackage_of_findPackage tree found
      have inside := reachable.wellFormed.inScope_iff.mpr ⟨has, at_root ▸ tree.root_mem_chain has⟩
      exact ⟨anchor, has, anchor, found, inside, 0, Nat.zero_le levels, rfl⟩
    · rintro ⟨id, -, anchor, found, -⟩
      rw [found]
      rfl

/-! ### Whole specifications -/

theorem validateSpec_eq_ok_iff {viewName : String} {spec : ViewSpec} :
    project.validateSpec viewName spec = .ok () ↔
      ∀ selector ∈ spec.packages, project.selectorExists selector = true := by
  have all_exist : spec.packages.find? (!project.selectorExists ·) = none ↔
      ∀ selector ∈ spec.packages, project.selectorExists selector = true := by
    simp [List.find?_eq_none]
  rw [← all_exist, validateSpec]
  split
  next nothing => exact iff_of_true rfl nothing
  all_goals next found => simp [found]

theorem validateSpec_eq_error_iff {viewName : String} {spec : ViewSpec} {error : LookupError} :
    project.validateSpec viewName spec = .error error ↔
      ∃ before selector after, spec.packages = before ++ selector :: after ∧
        (∀ earlier ∈ before, project.selectorExists earlier = true) ∧
        project.selectorExists selector = false ∧
        error = .unknownViewPath viewName selector.spelling := by
  have first_iff (selector : PackageSelector) :
      spec.packages.find? (!project.selectorExists ·) = some selector ↔
        project.selectorExists selector = false ∧
          ∃ before after, spec.packages = before ++ selector :: after ∧
            ∀ earlier ∈ before, project.selectorExists earlier = true := by
    simp [List.find?_eq_some_iff_append]
  have reported : project.validateSpec viewName spec = .error error ↔
      ∃ selector, spec.packages.find? (!project.selectorExists ·) = some selector ∧
        error = .unknownViewPath viewName selector.spelling := by
    rw [validateSpec]
    split
    next nothing => simp [nothing]
    all_goals next found => simp [found, PackageSelector.spelling, eq_comm]
  rw [reported]
  constructor
  · rintro ⟨selector, found, rfl⟩
    obtain ⟨missing, before, after, packages_eq, earlier_exist⟩ := (first_iff selector).mp found
    exact ⟨before, selector, after, packages_eq, earlier_exist, missing, rfl⟩
  · rintro ⟨before, selector, after, packages_eq, earlier_exist, missing, rfl⟩
    exact ⟨selector, (first_iff selector).mpr ⟨missing, before, after, packages_eq, earlier_exist⟩,
      rfl⟩

/-- Validation accepts a specification if each of its selectors without stars picks something by
itself, and otherwise reports the first one that does not as it was written. -/
theorem Reachable.validation_exact (reachable : Reachable RelativeName project)
    (at_root : project.scope = root) (viewName : String) (spec : ViewSpec) :
    (project.validateSpec viewName spec = .ok () ↔
      ∀ selector ∈ spec.packages, selector.Starless → project.Picks spec selector) ∧
    ∀ error, project.validateSpec viewName spec = .error error ↔
      ∃ before selector after, spec.packages = before ++ selector :: after ∧
        (∀ earlier ∈ before, earlier.Starless → project.Picks spec earlier) ∧
        (selector.Starless ∧ ¬ project.Picks spec selector) ∧
        error = .unknownViewPath viewName selector.spelling := by
  have exists_iff := reachable.selectorExists_iff at_root spec
  have missing_iff (selector : PackageSelector) : project.selectorExists selector = false ↔
      selector.Starless ∧ ¬ project.Picks spec selector := by
    rw [← Bool.not_eq_true, exists_iff, Classical.not_imp]
  constructor
  · rw [validateSpec_eq_ok_iff]
    exact forall₂_congr fun selector _ => exists_iff selector
  · intro error
    simp only [validateSpec_eq_error_iff, exists_iff, missing_iff]

/-- The package `a/c` under the root's name, texts with stars, and a package that is not there. -/
def misspelt : ViewSpec :=
  ⟨[.anchored "p.a.c/" 0, .byPrefix "x*", .anchored "/x//y" 3, .byPrefix "z"], ["*"], none⟩

/-- The first two selectors pass, one since it picks a package and one for its star. The third is
reported with all its slashes. -/
theorem sample_validation_exact :
    sample.scope = root ∧ sample.Picks misspelt (.anchored "p.a.c/" 0) ∧
      ¬ sample.Picks misspelt (.anchored "/x//y" 3) ∧
      sample.validateSpec "overview" misspelt = .error (.unknownViewPath "overview" "/x//y") := by
  have at_root : sample.scope = root := by decide +kernel
  have exists_iff := sample_reachable.selectorExists_iff at_root misspelt
  have first_picks : sample.Picks misspelt (.anchored "p.a.c/" 0) :=
    (exists_iff _).mp (by decide +kernel) (by decide +kernel : '*' ∉ "p.a.c/".toList)
  have third_missing : sample.selectorExists (.anchored "/x//y" 3) ≠ true := by decide +kernel
  have third_fails := mt (exists_iff (.anchored "/x//y" 3)).mpr third_missing
  obtain ⟨third_starless, third_nothing⟩ := Classical.not_imp.mp third_fails
  refine ⟨at_root, first_picks, third_nothing, ?_⟩
  refine ((sample_reachable.validation_exact at_root "overview" misspelt).2 _).mpr
    ⟨[.anchored "p.a.c/" 0, .byPrefix "x*"], .anchored "/x//y" 3, [.byPrefix "z"], rfl, ?_,
      ⟨third_starless, third_nothing⟩, rfl⟩
  intro earlier listed starless
  rcases List.mem_pair.mp listed with rfl | rfl
  · exact first_picks
  · exact absurd (by decide +kernel : '*' ∈ "x*".toList) starless

end Project

end PackageAtlas
