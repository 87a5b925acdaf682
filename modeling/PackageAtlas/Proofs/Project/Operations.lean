import Mathlib.Data.Option.Basic
import PackageAtlas.Proofs.Policy.Exactness
import PackageAtlas.Proofs.Project.Contents
import PackageAtlas.Proofs.Project.SingleNames

/-!
# Any calls in a row

What holds of a project after any sequence of calls that change it, whatever the names and whether
the calls succeed or fail. One call keeps the project reachable and its policies on its own parts;
a whole run does so call by call.
-/
namespace PackageAtlas.Project

/-- A call that may change a project. -/
inductive Operation where
  | addPackage (parent : PackageId) (name : String)
  | addFile (owner : PackageId) (name : String) (module : Option ParsedModule)
  | addDependency (source target : FileId)
  | changeScope (spelling : String)
  | applyRules (rules : List PolicyRule)
  | declare (policy : Policy)

/-- The parts of the project that a call is given by number. -/
def Operation.arguments : Operation → List Node
  | .addPackage parent _ => [.package parent]
  | .addFile owner _ _ => [.package owner]
  | .addDependency source target => [.file source, .file target]
  | .changeScope _ => []
  | .applyRules _ => []
  | .declare policy => [policy.subject, policy.target]

/-- The names that a call gives to new elements. -/
def Operation.names : Operation → List String
  | .addPackage _ name => [name]
  | .addFile _ name _ => [name]
  | _ => []

/-- The project after a call. One that fails leaves it as it was, but for the policies that were
declared before the failure. -/
def perform (project : Project) : Operation → Project
  | .addPackage parent name => (project.addPackage parent name).2
  | .addFile owner name module => (project.addFile owner name module).2
  | .addDependency source target => project.addDependency source target
  | .changeScope spelling =>
    match project.changeScope spelling with
    | .ok (_, moved) => moved
    | .error _ => project
  | .applyRules rules => (project.applyRules rules).1
  | .declare policy => project.declare policy

/-- The number that a call answers with. -/
def answer? (project : Project) : Operation → Option Node
  | .addPackage parent name => some (.package (project.addPackage parent name).1)
  | .addFile owner name module => some (.file (project.addFile owner name module).1)
  | .changeScope spelling => (project.changeScope spelling).toOption.map (.package ·.1)
  | _ => none

def run (project : Project) (operations : List Operation) : Project :=
  operations.foldl perform project

/-- Whether every call is given numbers of parts that the project has by then. -/
def Calls (project : Project) : List Operation → Prop
  | [] => True
  | operation :: rest =>
    (∀ node ∈ operation.arguments, project.HasNode node) ∧ Calls (project.perform operation) rest

instance decidableCalls (project : Project) :
    (operations : List Operation) → Decidable (project.Calls operations)
  | [] => isTrue trivial
  | operation :: rest =>
    have := decidableCalls (project.perform operation) rest
    inferInstanceAs (Decidable ((∀ node ∈ operation.arguments, project.HasNode node) ∧
      Calls (project.perform operation) rest))

/-- Whether all new elements are called as `names` allows. -/
def Named (names : String → Prop) (operations : List Operation) : Prop :=
  ∀ operation ∈ operations, ∀ name ∈ operation.names, names name

instance (names : String → Prop) [DecidablePred names] (operations : List Operation) :
    Decidable (Named names operations) :=
  inferInstanceAs (Decidable (∀ operation ∈ operations, ∀ name ∈ operation.names, names name))

variable {names : String → Prop} {project : Project}

/-! ### One call -/

/-- What is found by a logical path has it, and is the only one if no two have the same. -/
theorem packageWithRelative?_has (packages : PackageTree project) {relative : String}
    {id : PackageId} (found : project.packageWithRelative? relative = some id) :
    project.HasPackage id ∧ (project.package id).relative = relative := by
  obtain ⟨package, first, rfl⟩ := Option.map_eq_some_iff.mp found
  have member := List.mem_reverse.mp (List.mem_of_find?_eq_some first)
  obtain ⟨id, has, rfl⟩ := (project.mem_packages_iff package).mp member
  rw [packages.number has]
  exact ⟨has, by simpa using List.find?_some first⟩

theorem fileWithRelative?_has (lists : FileLists project) {relative : String} {id : FileId}
    (found : project.fileWithRelative? relative = some id) :
    project.HasFile id ∧ (project.file id).relative = relative := by
  obtain ⟨file, first, rfl⟩ := Option.map_eq_some_iff.mp found
  have member := List.mem_reverse.mp (List.mem_of_find?_eq_some first)
  obtain ⟨id, has, rfl⟩ := (project.mem_files_iff file).mp member
  rw [lists.number has]
  exact ⟨has, by simpa using List.find?_some first⟩

/-- A name means the package whose path it is. Only if there is none, the root's name is taken off
its start. -/
theorem findPackage_eq_ok_iff {spelling : String} {id : PackageId} :
    project.findPackage spelling = .ok id ↔
      project.packageWithRelative? (LogicalPath.normalize spelling) = some id ∨
        project.packageWithRelative? (LogicalPath.normalize spelling) = none ∧
          ∃ rest, project.dropRootName? (LogicalPath.normalize spelling) = some rest ∧
            project.packageWithRelative? rest = some id := by
  rw [← Option.bind_eq_some_iff, ← Option.orElse_eq_some, findPackage]
  split
  next known lookup => rw [lookup, Except.ok.injEq, Option.some.injEq]
  next missing => simp [missing]

theorem hasPackage_of_findPackage (packages : PackageTree project) {spelling : String}
    {id : PackageId} (found : project.findPackage spelling = .ok id) : project.HasPackage id := by
  rcases findPackage_eq_ok_iff.mp found with direct | ⟨-, relative, -, shortened⟩
  · exact (packageWithRelative?_has packages direct).1
  · exact (packageWithRelative?_has packages shortened).1

theorem hasFile_of_findFile (lists : FileLists project) {spelling : String} {id : FileId}
    (found : project.findFile spelling = .ok id) : project.HasFile id := by
  have defined {relative : String} {id : FileId} (known : project.moduleFile? relative = some id) :
      project.HasFile id := by
    rcases (Option.orElse_eq_some _ _ _).mp known with plain | ⟨-, marker⟩
    · exact (fileWithRelative?_has lists plain).1
    · exact (fileWithRelative?_has lists marker).1
  unfold findFile at found
  dsimp only at found
  split at found
  next known lookup =>
    cases found
    rcases (Option.orElse_eq_some _ _ _).mp lookup with direct | ⟨-, shortened⟩
    · exact defined direct
    · obtain ⟨relative, -, inner⟩ := Option.bind_eq_some_iff.mp shortened
      exact defined inner
  next => cases found

theorem hasNode_of_findNode (wellFormed : WellFormed project) {selector : NodeSelector}
    {node : Node} (found : project.findNode selector = .ok node) : project.HasNode node := by
  cases selector with
  | package path =>
    cases lookup : project.findPackage path with
    | error unknown => simp [findNode, lookup, Except.map] at found
    | ok id =>
      simp only [findNode, lookup, Except.map, Except.ok.injEq] at found
      subst found
      exact hasPackage_of_findPackage wellFormed.tree lookup
  | file path =>
    cases lookup : project.findFile path with
    | error unknown => simp [findNode, lookup, Except.map] at found
    | ok id =>
      simp only [findNode, lookup, Except.map, Except.ok.injEq] at found
      subst found
      exact hasFile_of_findFile wellFormed.files lookup

/-- Whether a policy is about parts of the project. -/
def Concerns (project : Project) (policy : Policy) : Prop :=
  project.HasNode policy.subject ∧ project.HasNode policy.target

theorem concerns_of_resolveRule (wellFormed : WellFormed project) {rule : PolicyRule}
    {policy : Policy} (resolved : project.resolveRule rule = .ok policy) :
    project.Concerns policy := by
  unfold resolveRule at resolved
  cases subject : project.findNode rule.subject with
  | error unknown => simp [subject, bind, Except.bind] at resolved
  | ok source =>
    cases target : project.findNode rule.target with
    | error unknown => simp [subject, target, bind, Except.bind] at resolved
    | ok destination =>
      simp only [subject, target, bind, Except.bind, pure, Except.pure, Except.ok.injEq]
        at resolved
      subst resolved
      exact ⟨hasNode_of_findNode wellFormed subject, hasNode_of_findNode wellFormed target⟩

/-- Whether a project is one that calls lead to: built by its own functions, with policies on its
own parts alone. -/
structure Kept (names : String → Prop) (project : Project) : Prop where
  reachable : Reachable names project
  concerns {policy : Policy} : policy ∈ project.policies → project.Concerns policy

theorem Kept.declare (kept : Kept names project) {policy : Policy}
    (concerns : project.Concerns policy) : Kept names (project.declare policy) := by
  refine ⟨.declare policy kept.reachable, fun {other} member => ?_⟩
  rcases List.mem_append.mp member with old | new
  · exact kept.concerns old
  · rw [List.mem_singleton.mp new]
    exact concerns

/-- Rules are declared one by one, and those before a failure stay. -/
theorem Kept.applyRules (kept : Kept names project) (rules : List PolicyRule) :
    Kept names (project.applyRules rules).1 ∧
      ∀ node, (project.applyRules rules).1.HasNode node ↔ project.HasNode node := by
  induction rules generalizing project with
  | nil => exact ⟨kept, fun node => Iff.rfl⟩
  | cons rule rest ih =>
    rw [Project.applyRules]
    cases resolved : project.resolveRule rule with
    | error unknown => exact ⟨kept, fun node => Iff.rfl⟩
    | ok policy =>
      have concerns := concerns_of_resolveRule kept.reachable.wellFormed resolved
      obtain ⟨after, same⟩ := ih (kept.declare concerns)
      exact ⟨after, fun node => (same node).trans (by cases node <;> exact Iff.rfl)⟩

theorem hasNode_addPackage (parent : PackageId) (name : String) {node : Node}
    (has : project.HasNode node) : (project.addPackage parent name).2.HasNode node := by
  rcases project.addPackage_cases parent name with ⟨_, -, added⟩ | ⟨-, added⟩ <;> rw [added]
  · exact has
  · cases node with
    | package id => exact (project.hasPackage_withPackage parent name id).mpr (Or.inl has)
    | file id => exact has

theorem hasNode_addFile (owner : PackageId) (name : String) (module : Option ParsedModule)
    {node : Node} (has : project.HasNode node) :
    (project.addFile owner name module).2.HasNode node := by
  rcases project.addFile_cases owner name module with ⟨_, -, added⟩ | ⟨-, added⟩ <;> rw [added]
  · exact has
  · cases node with
    | package id => exact (project.hasPackage_withFile owner name module id).mpr has
    | file id => exact (project.hasFile_withFile owner name module id).mpr (Or.inl has)

theorem hasNode_addDependency (source target : FileId) {node : Node} (has : project.HasNode node) :
    (project.addDependency source target).HasNode node := by
  unfold addDependency
  split
  next => exact has
  next => cases node <;> exact has

theorem policies_addPackage (project : Project) (parent : PackageId) (name : String) :
    (project.addPackage parent name).2.policies = project.policies := by
  rcases project.addPackage_cases parent name with ⟨_, -, added⟩ | ⟨-, added⟩ <;> rw [added]
  rfl

theorem policies_addFile (project : Project) (owner : PackageId) (name : String)
    (module : Option ParsedModule) :
    (project.addFile owner name module).2.policies = project.policies := by
  rcases project.addFile_cases owner name module with ⟨_, -, added⟩ | ⟨-, added⟩ <;> rw [added]
  rfl

theorem policies_addDependency (project : Project) (source target : FileId) :
    (project.addDependency source target).policies = project.policies := by
  unfold addDependency
  split <;> rfl

/-- No call takes an element away. -/
theorem Kept.hasNode_perform (kept : Kept names project) (operation : Operation) {node : Node}
    (has : project.HasNode node) : (project.perform operation).HasNode node := by
  cases operation with
  | addPackage parent name => exact hasNode_addPackage parent name has
  | addFile owner name module => exact hasNode_addFile owner name module has
  | addDependency source target => exact hasNode_addDependency source target has
  | changeScope spelling =>
    rw [perform]
    cases changed : project.changeScope spelling with
    | error unknown => exact has
    | ok found =>
      dsimp only
      rw [eq_rescope_of_changeScope changed]
      cases node <;> exact has
  | applyRules rules => exact ((kept.applyRules rules).2 node).mpr has
  | declare policy => cases node <;> exact has

/-- Elements stay, so the policies that were there before still concern the project. -/
theorem Kept.grow (kept : Kept names project) {after : Project} (reachable : Reachable names after)
    (same : after.policies = project.policies)
    (stays : ∀ {node}, project.HasNode node → after.HasNode node) : Kept names after := by
  refine ⟨reachable, fun member => ?_⟩
  rw [same] at member
  have concerns := kept.concerns member
  exact ⟨stays concerns.1, stays concerns.2⟩

/-- One call keeps what was there before, policies included. -/
theorem Kept.perform (kept : Kept names project) {operation : Operation}
    (given : ∀ node ∈ operation.arguments, project.HasNode node)
    (allowed : ∀ name ∈ operation.names, names name) : Kept names (project.perform operation) := by
  cases operation with
  | addPackage parent name =>
    have above : project.HasPackage parent :=
      given (.package parent) (by simp [Operation.arguments])
    have called := allowed name (by simp [Operation.names])
    exact kept.grow (.addPackage kept.reachable above called)
      (policies_addPackage project parent name) (hasNode_addPackage parent name)
  | addFile owner name module =>
    have above : project.HasPackage owner := given (.package owner) (by simp [Operation.arguments])
    have called := allowed name (by simp [Operation.names])
    exact kept.grow (.addFile kept.reachable above called)
      (policies_addFile project owner name module) (hasNode_addFile owner name module)
  | addDependency source target =>
    have has_source : project.HasFile source := given (.file source) (by simp [Operation.arguments])
    have has_target : project.HasFile target := given (.file target) (by simp [Operation.arguments])
    exact kept.grow (.addDependency kept.reachable has_source has_target)
      (policies_addDependency project source target) (hasNode_addDependency source target)
  | changeScope spelling =>
    rw [Project.perform]
    cases found : project.findPackage spelling with
    | error unknown => simpa [changeScope, found, bind, Except.bind] using kept
    | ok scope =>
      have inside := hasPackage_of_findPackage kept.reachable.wellFormed.tree found
      have moved : Kept names { project with scope } :=
        kept.grow (.rescope kept.reachable inside) rfl fun {node} has => by cases node <;> exact has
      simpa [changeScope, found, bind, Except.bind, pure, Except.pure] using moved
  | applyRules rules => exact (kept.applyRules rules).1
  | declare policy =>
    exact kept.declare ⟨given _ (by simp [Operation.arguments]),
      given _ (by simp [Operation.arguments])⟩

/-- A call answers with a number that the project has afterwards. -/
theorem Kept.hasNode_answer (kept : Kept names project) {operation : Operation}
    {node : Node} (answered : project.answer? operation = some node) :
    (project.perform operation).HasNode node := by
  have wellFormed := kept.reachable.wellFormed
  cases operation with
  | addPackage parent name =>
    cases answered
    rw [Project.perform]
    rcases project.addPackage_cases parent name with ⟨existing, known, added⟩ | ⟨-, added⟩ <;>
      rw [added]
    · exact ((packageAt?_eq_some_iff wellFormed.tree).mp known).1
    · exact (project.hasPackage_withPackage parent name _).mpr (Or.inr rfl)
  | addFile owner name module =>
    cases answered
    rw [Project.perform]
    rcases project.addFile_cases owner name module with ⟨existing, known, added⟩ | ⟨-, added⟩ <;>
      rw [added]
    · exact ((fileAt?_eq_some_iff wellFormed.files).mp known).1
    · exact (project.hasFile_withFile owner name module _).mpr (Or.inr rfl)
  | changeScope spelling =>
    rw [Project.perform]
    cases found : project.findPackage spelling with
    | error unknown =>
      simp [answer?, changeScope, found, bind, Except.bind, Except.toOption] at answered
    | ok scope =>
      simp only [answer?, changeScope, found, bind, Except.bind, pure, Except.pure,
        Except.toOption, Option.map_some, Option.some.injEq] at answered ⊢
      rw [← answered]
      exact hasPackage_of_findPackage wellFormed.tree found
  | addDependency source target => cases answered
  | applyRules rules => cases answered
  | declare policy => cases answered

/-! ### Whole runs -/

theorem kept_new (directory : Path) : Kept names (Project.new directory) :=
  ⟨.new directory, fun member => absurd member List.not_mem_nil⟩

theorem Kept.run (kept : Kept names project) {operations : List Operation}
    (calls : project.Calls operations) (named : Named names operations) :
    Kept names (project.run operations) := by
  induction operations generalizing project with
  | nil => exact kept
  | cons operation rest ih =>
    obtain ⟨given, after⟩ := calls
    obtain ⟨allowed, others⟩ := List.forall_mem_cons.mp named
    exact ih (kept.perform given allowed) after others

theorem Kept.hasNode_run (kept : Kept names project) {operations : List Operation}
    (calls : project.Calls operations) (named : Named names operations) {node : Node}
    (has : project.HasNode node) : (project.run operations).HasNode node := by
  induction operations generalizing project with
  | nil => exact has
  | cons operation rest ih =>
    obtain ⟨given, after⟩ := calls
    obtain ⟨allowed, others⟩ := List.forall_mem_cons.mp named
    exact ih (kept.perform given allowed) after others (kept.hasNode_perform operation has)

/-- What a call answers is a number of the project from then on. -/
theorem Kept.hasNode_of_answer (kept : Kept names project) {before after : List Operation}
    {operation : Operation} (calls : project.Calls (before ++ operation :: after))
    (named : Named names (before ++ operation :: after)) {node : Node}
    (answered : (project.run before).answer? operation = some node) :
    (project.run (before ++ operation :: after)).HasNode node := by
  -- The answer holds when it is given, and no later call takes it back.
  induction before generalizing project with
  | nil =>
    obtain ⟨given, rest⟩ := calls
    obtain ⟨allowed, others⟩ := List.forall_mem_cons.mp named
    exact (kept.perform given allowed).hasNode_run rest others (kept.hasNode_answer answered)
  | cons first following ih =>
    obtain ⟨given, rest⟩ := calls
    obtain ⟨allowed, others⟩ := List.forall_mem_cons.mp named
    exact ih (kept.perform given allowed) rest others answered

/-! ### What holds after a run -/

/-- Whether all that a project records more than once is recorded alike: numbers and positions,
parents and children, files and their packages, paths and what is found by them. -/
structure Coherent (project : Project) : Prop where
  package_numbers :
    project.packages.map (·.id) = (List.range project.packages.length).map PackageId.mk
  file_numbers : project.files.map (·.id) = (List.range project.files.length).map FileId.mk
  has_root : project.HasPackage root
  parentless_iff {id : PackageId} :
    project.HasPackage id → ((project.package id).parent = none ↔ id = root)
  parent {id parent : PackageId} :
    project.HasPackage id → (project.package id).parent = some parent →
      parent.index < id.index ∧
        (project.package id).depth = (project.package parent).depth + 1
  children {id child : PackageId} :
    project.HasPackage id →
      (project.package id).children.count child =
        if project.HasPackage child ∧ (project.package child).parent = some id then 1 else 0
  owner {id : FileId} : project.HasFile id → project.HasPackage (project.file id).package
  files {id : PackageId} {file : FileId} :
    project.HasPackage id →
      (project.package id).files.count file =
        if project.HasFile file ∧ (project.file file).package = id then 1 else 0
  packages_apart : project.packages.Pairwise fun a b => ¬ a.path.Same b.path
  files_apart : project.files.Pairwise fun a b => ¬ a.path.Same b.path
  packageAt?_iff {path : Path} {id : PackageId} :
    project.packageAt? path = some id ↔
      project.HasPackage id ∧ (project.package id).path.Same path
  fileAt?_iff {path : Path} {id : FileId} :
    project.fileAt? path = some id ↔ project.HasFile id ∧ (project.file id).path.Same path
  addPackage_known {parent id : PackageId} {name : String} :
    project.HasPackage id →
      (project.package id).path.Same ((project.package parent).path.child name) →
        project.addPackage parent name = (id, project)
  addFile_known {owner : PackageId} {id : FileId} {name : String}
      {module : Option ParsedModule} :
    project.HasFile id →
      (project.file id).path.Same ((project.package owner).path.child name) →
        project.addFile owner name module = (id, project)
  edges_nodup : project.edges.Nodup
  has_files {edge : FileId × FileId} :
    edge ∈ project.edges → project.HasFile edge.1 ∧ project.HasFile edge.2
  has_scope : project.HasPackage project.scope
  concerns {policy : Policy} :
    policy ∈ project.policies → project.HasNode policy.subject ∧ project.HasNode policy.target

/-- Whether the elements of a project are told apart by their logical paths, and lie in their
packages one name further. -/
structure Traceable (project : Project) : Prop where
  package_step {id parent : PackageId} :
    project.HasPackage id → (project.package id).parent = some parent →
      ∃ entry, (project.package id).path.components =
          (project.package parent).path.components ++ [.named entry] ∧
        (Path.mk (project.package id).name).components = [.named entry] ∧
        (project.package id).relative =
          LogicalPath.child (project.package parent).relative (project.package id).name
  file_step {id : FileId} :
    project.HasFile id →
      ∃ entry, (project.file id).path.components =
          (project.package (project.file id).package).path.components ++ [.named entry] ∧
        (Path.mk (project.file id).label).components = [.named entry] ∧
        (project.file id).relative =
          LogicalPath.child (project.package (project.file id).package).relative
            (project.file id).label
  depth {id : PackageId} :
    project.HasPackage id →
      (project.package id).path.components.length =
        project.rootDirectory.components.length + (project.package id).depth
  package_place {id : PackageId} :
    project.HasPackage id →
      (project.package id).path.Same (project.rootDirectory.join ⟨(project.package id).relative⟩)
  file_place {id : FileId} :
    project.HasFile id →
      (project.file id).path.Same (project.rootDirectory.join ⟨(project.file id).relative⟩)
  packages_apart : project.packages.Pairwise fun a b => a.relative ≠ b.relative
  files_apart : project.files.Pairwise fun a b => a.relative ≠ b.relative
  packageWithRelative?_iff {relative : String} {id : PackageId} :
    project.packageWithRelative? relative = some id ↔
      project.HasPackage id ∧ (project.package id).relative = relative
  fileWithRelative?_iff {relative : String} {id : FileId} :
    project.fileWithRelative? relative = some id ↔
      project.HasFile id ∧ (project.file id).relative = relative

theorem count_eq_ite {α : Type} [DecidableEq α] {elements : List α} (nodup : elements.Nodup) {a : α}
    {p : Prop} [Decidable p] (mem_iff : a ∈ elements ↔ p) :
    elements.count a = if p then 1 else 0 := by
  split
  next holds => exact List.count_eq_one_of_mem nodup (mem_iff.mpr holds)
  next fails => exact List.count_eq_zero.mpr fun member => fails (mem_iff.mp member)

theorem packages_pairwise {R : Package → Package → Prop}
    (apart : ∀ a b, project.HasPackage a → project.HasPackage b → a ≠ b →
      R (project.package a) (project.package b)) : project.packages.Pairwise R := by
  refine List.pairwise_iff_getElem.mpr fun i j here there less => ?_
  have apart_ids : (PackageId.mk i) ≠ ⟨j⟩ := fun same =>
    Nat.ne_of_lt less (congrArg PackageId.index same)
  have related := apart ⟨i⟩ ⟨j⟩ here there apart_ids
  simpa [package, here, there] using related

theorem files_pairwise {R : SourceFile → SourceFile → Prop}
    (apart : ∀ a b, project.HasFile a → project.HasFile b → a ≠ b →
      R (project.file a) (project.file b)) : project.files.Pairwise R := by
  refine List.pairwise_iff_getElem.mpr fun i j here there less => ?_
  have apart_ids : (FileId.mk i) ≠ ⟨j⟩ := fun same =>
    Nat.ne_of_lt less (congrArg FileId.index same)
  have related := apart ⟨i⟩ ⟨j⟩ here there apart_ids
  simpa [file, here, there] using related

theorem Kept.coherent (kept : Kept names project) : Coherent project := by
  have wellFormed := kept.reachable.wellFormed
  have packages := wellFormed.tree
  have lists := wellFormed.files
  exact {
    package_numbers := map_package_ids packages
    file_numbers := map_file_ids lists
    has_root := packages.has_root
    parentless_iff := packages.parent_eq_none_iff
    parent := fun has linked => ⟨packages.parent_lt has linked, packages.depth_eq has linked⟩
    children := fun has =>
      count_eq_ite (packages.children_nodup has) (packages.mem_children_iff has)
    owner := lists.has_owner
    files := fun has => count_eq_ite (lists.files_nodup has) (lists.mem_files_iff has)
    packages_apart := packages_pairwise fun a b has_a has_b apart same =>
      apart (packages.eq_of_same has_a has_b same)
    files_apart := files_pairwise fun a b has_a has_b apart same =>
      apart (lists.eq_of_same has_a has_b same)
    packageAt?_iff := packageAt?_eq_some_iff packages
    fileAt?_iff := fileAt?_eq_some_iff lists
    addPackage_known := fun has same => by
      have known := (packageAt?_eq_some_iff packages).mpr ⟨has, same⟩
      simp [addPackage, known]
    addFile_known := fun has same => by
      have known := (fileAt?_eq_some_iff lists).mpr ⟨has, same⟩
      simp [addFile, known]
    edges_nodup := wellFormed.edges_nodup
    has_files := wellFormed.has_files
    has_scope := wellFormed.has_scope
    concerns := kept.concerns }

theorem packageWithRelative?_eq_some_iff (placed : LogicallyPlaced project)
    (packages : PackageTree project) {relative : String} {id : PackageId} :
    project.packageWithRelative? relative = some id ↔
      project.HasPackage id ∧ (project.package id).relative = relative := by
  refine ⟨packageWithRelative?_has packages, fun ⟨has, same⟩ => ?_⟩
  cases found : project.packageWithRelative? relative with
  | none =>
    -- The packages are searched backwards, but no two of them have one path.
    have missing := List.find?_eq_none.mp (Option.map_eq_none_iff.mp found) (project.package id)
      (List.mem_reverse.mpr ((project.mem_packages_iff _).mpr ⟨id, has, rfl⟩))
    exact absurd (decide_eq_true same) missing
  | some other =>
    obtain ⟨has_other, same_other⟩ := packageWithRelative?_has packages found
    rw [placed.package_eq packages has_other has (same_other.trans same.symm)]

theorem fileWithRelative?_eq_some_iff (placed : LogicallyPlaced project)
    (lists : FileLists project) {relative : String} {id : FileId} :
    project.fileWithRelative? relative = some id ↔
      project.HasFile id ∧ (project.file id).relative = relative := by
  refine ⟨fileWithRelative?_has lists, fun ⟨has, same⟩ => ?_⟩
  cases found : project.fileWithRelative? relative with
  | none =>
    have missing := List.find?_eq_none.mp (Option.map_eq_none_iff.mp found) (project.file id)
      (List.mem_reverse.mpr ((project.mem_files_iff _).mpr ⟨id, has, rfl⟩))
    exact absurd (decide_eq_true same) missing
  | some other =>
    obtain ⟨has_other, same_other⟩ := fileWithRelative?_has lists found
    rw [placed.file_eq lists has_other has (same_other.trans same.symm)]

/-- A package lies as many components below the root directory as it is deep. -/
theorem Reachable.length_components (reachable : Reachable SingleName project) {id : PackageId}
    (has : project.HasPackage id) :
    (project.package id).path.components.length =
      project.rootDirectory.components.length + (project.package id).depth := by
  have packages := reachable.wellFormed.tree
  induction id, has using packages.induct_up with
  | top => rw [reachable.stepwise.root_depth]; rfl
  | below id parent has _ linked ih =>
    obtain ⟨entry, one⟩ := reachable.entries.package_name has linked
    rw [reachable.entries.package_path has linked, SingleName.components_child _ one,
      List.length_append, ih, packages.depth_eq has linked]
    rfl

theorem Reachable.traceable (reachable : Reachable SingleName project) : Traceable project := by
  have packages := reachable.wellFormed.tree
  have lists := reachable.wellFormed.files
  have entries := reachable.entries
  have placed : LogicallyPlaced project :=
    (reachable.mono fun _ single => single.relativeName).logicallyPlaced
  refine {
    package_step := fun {id parent} has linked => ?package
    file_step := fun {id} has => ?file
    depth := reachable.length_components
    package_place := fun has => (placed.package has).same
    file_place := fun has => (placed.file has).same
    packages_apart := packages_pairwise fun a b has_a has_b apart same =>
      apart (placed.package_eq packages has_a has_b same)
    files_apart := files_pairwise fun a b has_a has_b apart same =>
      apart (placed.file_eq lists has_a has_b same)
    packageWithRelative?_iff := packageWithRelative?_eq_some_iff placed packages
    fileWithRelative?_iff := fileWithRelative?_eq_some_iff placed lists }
  case package =>
    obtain ⟨entry, one⟩ := entries.package_name has linked
    refine ⟨entry, ?_, one, reachable.stepwise.package has linked⟩
    rw [entries.package_path has linked, SingleName.components_child _ one]
  case file =>
    obtain ⟨entry, one⟩ := entries.file_name has
    refine ⟨entry, ?_, one, reachable.stepwise.file has⟩
    rw [entries.file_path has, SingleName.components_child _ one]

/-- After any calls in a row, successful or not, a project is coherent, and every number that one of
them has answered is that of an element. If all new elements have had single names, their logical
paths tell them apart as well. -/
theorem run_coherent (directory : Path) {operations : List Operation}
    (calls : (Project.new directory).Calls operations) :
    Coherent ((Project.new directory).run operations) ∧
      (∀ before operation after node, operations = before ++ operation :: after →
        ((Project.new directory).run before).answer? operation = some node →
          ((Project.new directory).run operations).HasNode node) ∧
      (Named SingleName operations → Traceable ((Project.new directory).run operations)) := by
  have any : Named (fun _ => True) operations := fun _ _ _ _ => trivial
  refine ⟨((kept_new directory).run calls any).coherent, ?_, fun named => ?_⟩
  · rintro before operation after node rfl answered
    exact (kept_new directory).hasNode_of_answer calls any answered
  · exact ((kept_new directory).run calls named).reachable.traceable

/-- Calls that add a package and a dependency twice, and of which the second change of scope and the
last rule fail. -/
def sampleCalls : List Operation :=
  [.addPackage root "a", .addPackage ⟨1⟩ "b", .addFile ⟨2⟩ "x.py" none, .addPackage root "a/",
    .addFile root "y.py" none, .addDependency ⟨0⟩ ⟨1⟩, .changeScope "a.b", .addDependency ⟨0⟩ ⟨1⟩,
    .changeScope "c", .declare ⟨.mustDependOn, .file ⟨0⟩, .package root⟩,
    .applyRules [⟨.cannotDependOn, .file "y", .package "a"⟩,
      ⟨.cannotDependOn, .package "c", .file "y"⟩]]

theorem sampleCalls_coherent :
    Coherent ((Project.new ⟨"/p"⟩).run sampleCalls) ∧
    Traceable ((Project.new ⟨"/p"⟩).run sampleCalls) ∧
    ((Project.new ⟨"/p"⟩).run sampleCalls).packages.map (·.relative) = ["", "a", "a/b"] ∧
    ((Project.new ⟨"/p"⟩).run sampleCalls).scope = ⟨2⟩ ∧
    ((Project.new ⟨"/p"⟩).run sampleCalls).policies.length = 2 := by
  have calls : (Project.new ⟨"/p"⟩).Calls sampleCalls := by decide +kernel
  have named : Named SingleName sampleCalls := by decide +kernel
  obtain ⟨coherent, -, traceable⟩ := run_coherent ⟨"/p"⟩ calls
  exact ⟨coherent, traceable named, by decide +kernel, by decide +kernel, by decide +kernel⟩

end PackageAtlas.Project
