import PackageAtlas.Proofs.Keyed
import PackageAtlas.View.Label

/-!
# Views by path

What a view holds after packages are put in place one by one, and what is found at a path.
-/
namespace PackageAtlas.View

/-- The dependency that a view draws between the packages at two paths. -/
def dependency? (view : View) (source destination : String) : Option ViewDependency :=
  (view.find? source).bind (·.dependency? destination)

/-- Packages with different paths all find a place, none instead of another. -/
theorem place_perm {added : ViewPackage} {packages : List ViewPackage}
    (ordered : packages.Pairwise (·.path < ·.path))
    (fresh : added.path ∉ packages.map (·.path)) :
    (place added packages).Perm (added :: packages) := by
  induction packages with
  | nil => exact List.Perm.refl _
  | cons first rest ih =>
    rw [List.map_cons, List.mem_cons, not_or] at fresh
    simp only [place]
    split
    next => exact List.Perm.refl _
    next =>
      rw [if_neg fresh.1]
      exact ((ih ordered.of_cons fresh.2).cons first).trans (List.Perm.swap added first rest)

private theorem foldl_insert_perm (packages : List ViewPackage) (view : View)
    (apart : ((view.packages ++ packages).map (·.path)).Nodup) :
    (packages.foldl insert view).packages.Perm (view.packages ++ packages) := by
  induction packages generalizing view with
  | nil => rw [List.append_nil]; exact List.Perm.refl _
  | cons first rest ih =>
    have fresh : first.path ∉ view.packages.map (·.path) := by
      rw [List.map_append, List.nodup_append'] at apart
      exact fun member => apart.2.2 member List.mem_cons_self
    -- A view with one more package keeps its order, so the next finds a place too.
    have placed : (view.insert first).packages.Perm (first :: view.packages) :=
      place_perm view.ordered fresh
    have moved : ((view.insert first).packages ++ rest).Perm (view.packages ++ first :: rest) :=
      (placed.append_right rest).trans List.perm_middle.symm
    exact (ih _ ((moved.map (·.path)).nodup_iff.mpr apart)).trans moved

/-- A view of packages with different paths has exactly these packages. -/
theorem ofList_perm {packages : List ViewPackage} (apart : (packages.map (·.path)).Nodup) :
    (ofList packages).packages.Perm packages :=
  foldl_insert_perm packages empty apart

private theorem mem_foldl_insert {package : ViewPackage} (packages : List ViewPackage) (view : View)
    (member : package ∈ (packages.foldl insert view).packages) :
    package ∈ view.packages ∨ package ∈ packages := by
  induction packages generalizing view with
  | nil => exact Or.inl member
  | cons first rest ih =>
    rcases ih _ member with placed | later
    · rcases mem_place placed with rfl | old
      · exact Or.inr List.mem_cons_self
      · exact Or.inl old
    · exact Or.inr (List.mem_cons_of_mem first later)

theorem mem_of_mem_ofList {packages : List ViewPackage} {package : ViewPackage}
    (member : package ∈ (ofList packages).packages) : package ∈ packages :=
  (mem_foldl_insert packages empty member).resolve_left List.not_mem_nil

theorem paths_nodup (view : View) : (view.packages.map (·.path)).Nodup :=
  nodup_keys_of_ascending view.ordered

theorem find?_eq_some_iff (view : View) (path : String) (package : ViewPackage) :
    view.find? path = some package ↔ package ∈ view.packages ∧ package.path = path :=
  find?_key_eq_some_iff view.paths_nodup

end PackageAtlas.View
