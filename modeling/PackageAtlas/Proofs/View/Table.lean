import PackageAtlas.Proofs.View.Comparison

/-!
# Views as tables

The packages of a view with a number for each of their dependencies. Two views have one table
exactly when they have the same packages and the same numbers between them.
-/
namespace PackageAtlas

/-- The path of a package and the destinations of its dependencies, each with a number. -/
def ViewPackage.row (number : ViewDependency → Int) (package : ViewPackage) :
    String × List (String × Int) :=
  (package.path, package.dependencies.map fun dependency =>
    (dependency.destination, number dependency))

namespace View

def table (number : ViewDependency → Int) (view : View) : List (String × List (String × Int)) :=
  view.packages.map (·.row number)

variable {first second : View} {number otherNumber : ViewDependency → Int}

theorem find?_table (view : View) (path : String) :
    (view.table number).find? (·.1 = path) = (view.find? path).map (·.row number) :=
  find?_key_map (fun package => (rfl : (package.row number).1 = package.path)) path

theorem find?_row (package : ViewPackage) (destination : String) :
    (package.row number).2.find? (·.1 = destination) =
      (package.dependency? destination).map fun dependency =>
        (dependency.destination, number dependency) := by
  unfold ViewPackage.row ViewPackage.dependency?
  exact find?_key_map (fun _ => rfl) destination

/-- The number of a dependency stands in the table, in the row of its source. -/
theorem map_number_dependency? (view : View) (source destination : String) :
    (view.dependency? source destination).map number =
      ((view.table number).find? (·.1 = source)).bind fun row =>
        (row.2.find? (·.1 = destination)).map (·.2) := by
  rw [find?_table, dependency?]
  cases view.find? source with
  | none => rfl
  | some package =>
    rw [Option.bind_some, Option.map_some, Option.bind_some, find?_row, Option.map_map]
    rfl

theorem row_eq_of_dependency? {package other : ViewPackage} (tidy : package.Tidy)
    (other_tidy : other.Tidy) (path_eq : package.path = other.path)
    (same : ∀ destination, (package.dependency? destination).map number =
      (other.dependency? destination).map otherNumber) :
    package.row number = other.row otherNumber := by
  rw [ViewPackage.row, ViewPackage.row, path_eq, Prod.mk.injEq, ← List.forall₂_eq_eq_eq,
    List.forall₂_map_left_iff, List.forall₂_map_right_iff]
  refine ⟨rfl, forall₂_of_find? tidy.ascending other_tidy.ascending (fun destination => ?_)
    fun dependency member counterpart other_member destination_eq => ?_⟩
  · have found_eq := congrArg Option.isSome (same destination)
    rwa [Option.isSome_map, Option.isSome_map] at found_eq
  · have numbers := same counterpart.destination
    rw [tidy.dependency?_eq_some_iff.mpr ⟨member, destination_eq⟩,
      other_tidy.dependency?_eq_some_iff.mpr ⟨other_member, rfl⟩] at numbers
    exact Prod.ext destination_eq (Option.some.inj numbers)

theorem Tidy.table_eq_iff (tidy : first.Tidy) (other_tidy : second.Tidy) :
    first.table number = second.table otherNumber ↔
      (∀ path, (first.find? path).isSome = (second.find? path).isSome) ∧
        ∀ source destination, (first.dependency? source destination).map number =
          (second.dependency? source destination).map otherNumber := by
  constructor
  · intro same
    constructor
    · intro path
      have found_eq : (first.find? path).map (·.row number) =
          (second.find? path).map (·.row otherNumber) := by
        rw [← find?_table, ← find?_table, same]
      have some_eq := congrArg Option.isSome found_eq
      rwa [Option.isSome_map, Option.isSome_map] at some_eq
    · intro source destination
      rw [map_number_dependency?, map_number_dependency?, same]
  · rintro ⟨same_paths, same_numbers⟩
    rw [table, table, ← List.forall₂_eq_eq_eq, List.forall₂_map_left_iff,
      List.forall₂_map_right_iff]
    refine forall₂_of_find? first.ordered second.ordered same_paths ?_
    intro package member other other_member path_eq
    refine row_eq_of_dependency? (tidy package member) (other_tidy other other_member) path_eq ?_
    intro destination
    have numbers := same_numbers other.path destination
    rwa [dependency?, dependency?, (first.find?_eq_some_iff _ _).mpr ⟨member, path_eq⟩,
      (second.find?_eq_some_iff _ _).mpr ⟨other_member, rfl⟩] at numbers

end View

end PackageAtlas
