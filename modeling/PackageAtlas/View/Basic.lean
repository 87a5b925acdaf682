import PackageAtlas.Project.Id

/-!
# Views

A view shows some packages of a project with the dependencies between them. Packages stand in
the order of their paths, one for each path. A comparison of two views is a view again, whose
packages and dependencies tell how they differ.
-/
namespace PackageAtlas

/-- On which side of a comparison something exists. -/
inductive EntityState where
  | neutral
  | created
  | deleted
deriving DecidableEq, Repr

/-- How a dependency differs between the two sides of a comparison. -/
inductive EdgeChange where
  | created
  | deleted
  | countChanged
deriving DecidableEq, Repr

/-- The mark a comparison leaves on a dependency, with the text it is drawn with. -/
structure Mark where
  change : EdgeChange
  delta : Int
  label : String
deriving DecidableEq, Repr

/-- A dependency between two files, by their logical paths. -/
structure FileRelation where
  source : String
  target : String
deriving DecidableEq, Repr

def FileRelation.le (a b : FileRelation) : Bool :=
  a.source < b.source || (a.source = b.source && a.target ≤ b.target)

structure ViewDependency where
  source : String
  destination : String
  /-- The number of dependencies between files that it stands for. -/
  count : Nat
  relations : List FileRelation
  state : EntityState
  mark : Option Mark
deriving DecidableEq, Repr

/-- The state a dependency is drawn in: a marked one shows whether it grew or shrank. -/
def ViewDependency.displayState (dependency : ViewDependency) : EntityState :=
  match dependency.mark with
  | none => dependency.state
  | some mark =>
    match mark.change with
    | .created => .created
    | .deleted => .deleted
    | .countChanged => if mark.delta > 0 then .created else .deleted

structure ViewPackage where
  /-- Logical path below the root package. -/
  path : String
  /-- The dotted name that is its own on all diagrams. -/
  name : String
  /-- The name it has on this diagram. -/
  label : String
  state : EntityState
  dependencies : List ViewDependency
  /-- The package of the project that it was made from. -/
  origin : PackageId
deriving DecidableEq, Repr

def ViewPackage.dependency? (package : ViewPackage) (destination : String) :
    Option ViewDependency :=
  package.dependencies.find? (·.destination = destination)

/-- Packages by ascending path, one for each path. -/
structure View where
  packages : List ViewPackage
  ordered : packages.Pairwise (·.path < ·.path)

namespace View

def empty : View := ⟨[], .nil⟩

/-- Puts a package at its place, instead of the one with the same path. -/
def place (added : ViewPackage) : List ViewPackage → List ViewPackage
  | [] => [added]
  | package :: rest =>
    if added.path < package.path then added :: package :: rest
    else if added.path = package.path then added :: rest
    else package :: place added rest

theorem mem_place {added package : ViewPackage} {packages : List ViewPackage}
    (member : package ∈ place added packages) : package = added ∨ package ∈ packages := by
  induction packages with
  | nil => simpa [place] using member
  | cons first rest ih =>
    simp only [place] at member
    split at member
    · simpa using member
    · split at member
      · rcases List.mem_cons.mp member with h | h
        · exact .inl h
        · exact .inr (List.mem_cons_of_mem _ h)
      · rcases List.mem_cons.mp member with h | h
        · exact .inr (h ▸ List.mem_cons_self)
        · exact (ih h).imp_right (List.mem_cons_of_mem _)

theorem place_ordered (added : ViewPackage) {packages : List ViewPackage}
    (ordered : packages.Pairwise (·.path < ·.path)) :
    (place added packages).Pairwise (·.path < ·.path) := by
  induction packages with
  | nil => simp [place]
  | cons first rest ih =>
    obtain ⟨below, tail⟩ := List.pairwise_cons.mp ordered
    simp only [place]
    split
    · rename_i before
      refine List.pairwise_cons.mpr ⟨fun package member => ?_, ordered⟩
      rcases List.mem_cons.mp member with h | h
      · exact h ▸ before
      · exact String.lt_trans before (below package h)
    · split
      · rename_i same
        exact List.pairwise_cons.mpr ⟨fun package member => same ▸ below package member, tail⟩
      · rename_i notBefore different
        refine List.pairwise_cons.mpr ⟨fun package member => ?_, ih tail⟩
        rcases mem_place member with h | h
        · exact h ▸ Std.lt_of_le_of_ne (String.not_lt.mp notBefore) (Ne.symm different)
        · exact below package h

def insert (view : View) (added : ViewPackage) : View :=
  ⟨place added view.packages, place_ordered added view.ordered⟩

/-- The view of the given packages; of several with one path the last stays. -/
def ofList (packages : List ViewPackage) : View :=
  packages.foldl insert empty

def find? (view : View) (path : String) : Option ViewPackage :=
  view.packages.find? (·.path = path)

def relabel (view : View) (label : ViewPackage → String) : View where
  packages := view.packages.map fun package => { package with label := label package }
  ordered := List.pairwise_map.mpr view.ordered

end View

end PackageAtlas
