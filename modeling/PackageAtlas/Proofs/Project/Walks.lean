import PackageAtlas.Proofs.Project.Entries
import PackageAtlas.Proofs.Project.Hierarchy

/-!
# Walks with a stack

Below a package, everything can be met by a loop that has no bound: it takes a package off a stack,
looks at it and puts further packages on the stack, until the stack is empty. Upwards, a loop goes
from parent to parent. In every project that can be built both loops come to an end, and what they
have met by then is what the bounded walks give.
-/
namespace PackageAtlas

section Stack

variable {α β : Type} {pushed : α → List α} {found : α → List β}

/-- A loop over a stack, the top first, comes to its end and has found the given elements by then.
Every turn finds something at the top, takes it off and pushes other entries one after another, so
the last of them is the next top. -/
inductive Walks (pushed : α → List α) (found : α → List β) : List α → List β → Prop
  | done : Walks pushed found [] []
  | turn {top : α} {below : List α} {later : List β} :
      Walks pushed found ((pushed top).reverse ++ below) later →
      Walks pushed found (top :: below) (found top ++ later)

/-- A loop has one end only. -/
theorem Walks.unique {stack : List α} {first second : List β}
    (walks : Walks pushed found stack first) (walks_too : Walks pushed found stack second) :
    first = second := by
  induction walks generalizing second with
  | done =>
    cases walks_too
    rfl
  | turn _ ih =>
    cases walks_too with
    | turn onward => rw [ih onward]

/-- The lower part of a stack waits until all above it is done. -/
theorem Walks.append {upper lower : List α} {first second : List β}
    (walks : Walks pushed found upper first) (walks_below : Walks pushed found lower second) :
    Walks pushed found (upper ++ lower) (first ++ second) := by
  induction walks with
  | done => exact walks_below
  | turn _ ih =>
    -- What a turn pushes stays above the lower part as well.
    rw [List.cons_append, List.append_assoc]
    refine .turn ?_
    rw [← List.append_assoc]
    exact ih

/-- Where the loop ends from each entry of a stack alone, it ends from the whole stack. -/
theorem Walks.flatMap {reached : α → List β} {stack : List α}
    (each : ∀ entry ∈ stack, Walks pushed found [entry] (reached entry)) :
    Walks pushed found stack (stack.flatMap reached) := by
  induction stack with
  | nil => exact .done
  | cons top below ih =>
    rw [List.forall_mem_cons] at each
    exact each.1.append (ih each.2)

/-- What pushed entries reach comes behind what is found at the top, the last entry first. -/
theorem Walks.of_pushed {reached : α → List β} {top : α}
    (each : ∀ entry ∈ pushed top, Walks pushed found [entry] (reached entry)) :
    Walks pushed found [top] (found top ++ (pushed top).reverse.flatMap reached) := by
  refine .turn ?_
  -- Nothing was below the top, so what it pushes is the whole stack now.
  rw [List.append_nil]
  exact .flatMap fun entry member => each entry (List.mem_reverse.mp member)

end Stack

namespace Project

variable {project : Project}

/-! ### Downwards -/

/-- The loop ends where only children are pushed, since these are younger. -/
theorem PackageTree.walks (tree : PackageTree project) {β : Type}
    {pushed : PackageId → List PackageId} {found reached : PackageId → List β}
    (only_children : ∀ id, pushed id ⊆ (project.package id).children)
    (unfolds : ∀ id, project.HasPackage id →
      reached id = found id ++ (pushed id).reverse.flatMap reached)
    {top : PackageId} (has : project.HasPackage top) :
    Walks pushed found [top] (reached top) := by
  -- By induction the loop ends from every child alone, so it ends from what a turn pushes.
  induction top, has using tree.induct_down with
  | above top has ih =>
    rw [unfolds top has]
    refine .of_pushed fun child member => ?_
    obtain ⟨has_child, linked⟩ := (tree.mem_children_iff has).mp (only_children top member)
    exact ih child has_child linked

/-- The loop that pushes the children of a package in reverse order goes through its subtree. -/
theorem PackageTree.walks_subtree (tree : PackageTree project) {top : PackageId}
    (has : project.HasPackage top) :
    Walks (fun id => (project.package id).children.reverse) ([·]) [top]
      (project.subtree top) := by
  refine tree.walks (fun id => List.reverse_subset.mpr (List.Subset.refl _)) ?_ has
  intro id has
  rw [List.reverse_reverse, tree.subtree_eq has, List.singleton_append]

/-! ### Upwards -/

/-- The loop from a package to its parent, from there to the parent of that, and so on, comes to its
end at a package without a parent, and has met the given packages by then. -/
inductive Climbs (project : Project) : PackageId → List PackageId → Prop
  | done {id : PackageId} : (project.package id).parent = none → Climbs project id []
  | turn {id parent : PackageId} {above : List PackageId} :
      (project.package id).parent = some parent → Climbs project parent above →
      Climbs project id (parent :: above)

theorem Climbs.unique {id : PackageId} {first second : List PackageId}
    (climbs : Climbs project id first) (climbs_too : Climbs project id second) :
    first = second := by
  induction climbs generalizing second with
  | done alone =>
    cases climbs_too with
    | done => rfl
    | turn linked => rw [alone] at linked; cases linked
  | turn linked _ ih =>
    cases climbs_too with
    | done alone => rw [alone] at linked; cases linked
    | turn linked_too onward =>
      obtain rfl := Option.some.inj (linked.symm.trans linked_too)
      rw [ih onward]

theorem PackageTree.ancestors_root (tree : PackageTree project) : project.ancestors root = [] :=
  (List.cons.inj tree.chain_root).2

theorem PackageTree.ancestors_of_parent (tree : PackageTree project) {id parent : PackageId}
    (has : project.HasPackage id) (linked : (project.package id).parent = some parent) :
    project.ancestors id = parent :: project.ancestors parent :=
  (List.cons.inj (tree.chain_of_parent has linked)).2

theorem PackageTree.climbs_ancestors (tree : PackageTree project) {id : PackageId}
    (has : project.HasPackage id) : Climbs project id (project.ancestors id) := by
  induction id, has using tree.induct_up with
  | top =>
    rw [tree.ancestors_root]
    exact .done ((tree.parent_eq_none_iff tree.has_root).mpr rfl)
  | below id parent has _ linked ih =>
    rw [tree.ancestors_of_parent has linked]
    exact .turn linked ih

theorem PackageTree.getLast?_chain (tree : PackageTree project) {id : PackageId}
    (has : project.HasPackage id) : (project.chain id).getLast? = some root := by
  induction id, has using tree.induct_up with
  | top => rw [tree.chain_root, List.getLast?_singleton]
  | below id parent has _ linked ih =>
    rw [tree.chain_of_parent has linked, chain, List.getLast?_cons_cons]
    exact ih

theorem PackageTree.getLast?_ancestors (tree : PackageTree project) {id : PackageId}
    (has : project.HasPackage id) :
    (project.ancestors id).getLast? = if id = root then none else some root := by
  cases linked : (project.package id).parent with
  | none =>
    obtain rfl := (tree.parent_eq_none_iff has).mp linked
    rw [if_pos rfl, tree.ancestors_root, List.getLast?_nil]
  | some parent =>
    have below : id ≠ root := fun top =>
      Option.some_ne_none parent (linked.symm.trans ((tree.parent_eq_none_iff has).mpr top))
    rw [if_neg below, tree.ancestors_of_parent has linked]
    exact tree.getLast?_chain (tree.has_parent has linked)

/-! ### Both ways -/

/-- Whether the walks from a package end, and tell alike what lies below it. -/
structure WalksCoincide (project : Project) (top : PackageId) : Prop where
  /-- The loop over a stack ends with the subtree. -/
  ends (met : List PackageId) :
    Walks (fun id => (project.package id).children.reverse) ([·]) [top] met ↔
      met = project.subtree top
  /-- The package comes first, then the whole subtrees of its children in turn. -/
  preorder :
    project.subtree top = top :: (project.package top).children.flatMap project.subtree
  /-- Children stand in the order in which they were added. -/
  children_eq :
    (project.package top).children =
      (project.packages.filter fun package => package.parent = some top).map (·.id)
  nodup : (project.subtree top).Nodup
  mem_iff (id : PackageId) :
    id ∈ project.subtree top ↔ project.HasPackage id ∧ project.isInSubtree id top = true
  /-- The loop from parent to parent ends with the ancestors. -/
  climbs (above : List PackageId) : Climbs project top above ↔ above = project.ancestors top
  last_above : (project.ancestors top).getLast? = if top = root then none else some root
  files_nodup : (project.filesInSubtree top).Nodup
  mem_files_iff (id : FileId) :
    id ∈ project.filesInSubtree top ↔
      project.HasFile id ∧ project.isInSubtree (project.file id).package top = true

/-- What lies below a package on the walk down has it on the walk up, whatever the names of packages
and files are. -/
theorem Reachable.walks_coincide {names : String → Prop} (reachable : Reachable names project)
    {top : PackageId} (has : project.HasPackage top) : project.WalksCoincide top := by
  have wellFormed := reachable.wellFormed
  have tree := wellFormed.tree
  refine {
    ends := fun met => ⟨fun walks => walks.unique (tree.walks_subtree has), ?ends⟩
    preorder := tree.subtree_eq has
    children_eq := reachable.entries.children has
    nodup := tree.subtree_nodup has
    mem_iff := fun id => ?members
    climbs := fun above => ⟨fun climbs => climbs.unique (tree.climbs_ancestors has), ?climbs⟩
    last_above := tree.getLast?_ancestors has
    files_nodup := wellFormed.filesInSubtree_nodup has
    mem_files_iff := wellFormed.mem_filesInSubtree_iff has }
  case ends =>
    rintro rfl
    exact tree.walks_subtree has
  case members => rw [tree.mem_subtree_iff has, isInSubtree, List.contains_iff_mem]
  case climbs =>
    rintro rfl
    exact tree.climbs_ancestors has

/-- Packages `b` and `a` of the root, and one below `b`, by names that lead out of the parent or
deep into it. The last name leads back to the root, so it adds no package. -/
def strayNames : Project :=
  let project := Project.new ⟨"/p"⟩
  let project := (project.addPackage root "b").2
  let project := (project.addPackage root "../a").2
  let project := (project.addPackage ⟨1⟩ "x//y").2
  let project := (project.addPackage ⟨3⟩ "/p/.").2
  let project := (project.addFile ⟨3⟩ ".." none).2
  (project.addFile ⟨2⟩ "" none).2

theorem strayNames_reachable : Reachable (fun _ => True) strayNames := by
  refine .addFile (.addFile (.addPackage (.addPackage (.addPackage (.addPackage (.new _)
    ?_ trivial) ?_ trivial) ?_ trivial) ?_ trivial) ?_ trivial) ?_ trivial
  all_goals decide +kernel

/-- The package below `b` is met before `a`, which is older. -/
theorem strayNames_walks :
    strayNames.WalksCoincide root ∧ strayNames.packages.length = 4 ∧
      strayNames.subtree root = [⟨0⟩, ⟨1⟩, ⟨3⟩, ⟨2⟩] ∧
      strayNames.ancestors ⟨3⟩ = [⟨1⟩, ⟨0⟩] ∧ strayNames.filesInSubtree root = [⟨0⟩, ⟨1⟩] :=
  ⟨strayNames_reachable.walks_coincide (by decide +kernel), by decide +kernel, by decide +kernel,
    by decide +kernel, by decide +kernel⟩

end Project

end PackageAtlas
