import PackageAtlas.Proofs.FileTree.Locations
import PackageAtlas.Proofs.Project.Entries
import PackageAtlas.Proofs.Project.LogicalPaths

/-!
# Names of one component

A name that is a single component of a path takes the path of a directory one component further. So
the paths and the logical paths of a project tell from which package an element hangs and how it is
called.
-/
namespace PackageAtlas

/-- Names that are a single component, as those of the entries of a directory are. A closing slash
makes no component. -/
def SingleName (name : String) : Prop :=
  ∃ entry, (Path.mk name).components = [.named entry]

instance : DecidablePred SingleName := fun name =>
  decidable_of_iff
    ((Path.mk name).components = ((Path.mk name).fileName?.map Component.named).toList ∧
      (Path.mk name).fileName?.isSome) (by
    constructor
    · rintro ⟨same, some_name⟩
      obtain ⟨entry, found⟩ := Option.isSome_iff_exists.mp some_name
      exact ⟨entry, by rw [same, found]; rfl⟩
    · rintro ⟨entry, one⟩
      have found : (Path.mk name).fileName? = some entry := by simp [Path.fileName?, one]
      simp [one, found])

namespace SingleName

variable {name other first second entry : String}

/-- Such a name starts with its component, and nothing that counts stands behind it. -/
theorem parts_eq (one : (Path.mk name).components = [.named entry]) :
    (Path.mk name).parts.1 = none := by
  rw [Path.components_eq] at one
  cases lead : (Path.mk name).parts.1 with
  | none => rfl
  | some component =>
    -- Only the root and a leading dot stand apart from the segments, and neither is a name.
    rw [lead] at one
    obtain rfl : component = .named entry := by simpa using (List.cons.inj one).1
    unfold Path.parts at lead
    split at lead <;> simp at lead

theorem innerComponents_eq (one : (Path.mk name).components = [.named entry]) :
    Path.innerComponents name.toList = [.named entry] := by
  have lead := parts_eq one
  rwa [Path.components_eq, lead] at one

theorem relativeName (single : SingleName name) : Project.RelativeName name := by
  obtain ⟨entry, one⟩ := single
  rw [Project.RelativeName, Path.isAbsolute, beq_eq_false_iff_ne]
  intro slash
  obtain ⟨rest, text⟩ := List.head?_eq_some_iff.mp slash
  have lead := parts_eq one
  simp [Path.parts, text] at lead

theorem ne_empty (single : SingleName name) : name ≠ "" := by
  rintro rfl
  obtain ⟨entry, one⟩ := single
  cases one

theorem components_child (base : Path) (one : (Path.mk name).components = [.named entry]) :
    (base.child name).components = base.components ++ [.named entry] := by
  have relative : (Path.mk name).isAbsolute = false := relativeName ⟨entry, one⟩
  by_cases empty : base.text = ""
  · obtain rfl : base = ⟨""⟩ := congrArg Path.mk empty
    rw [Path.child, Path.join_of_empty _ _ rfl relative, one]
    rfl
  · rw [Path.child, Path.components_join base name empty relative, innerComponents_eq one]

theorem exists_segments (single : SingleName name) :
    ∃ start voids, Text.split '/' name = start :: voids ∧ Path.isVoid start = false ∧
      ∀ segment ∈ voids, Path.isVoid segment = true := by
  obtain ⟨entry, one⟩ := single
  have lead := parts_eq one
  obtain ⟨start, voids, cut⟩ := List.exists_cons_of_ne_nil (Text.split_ne_nil '/' name)
  have whole : name = Text.join '/' (start :: voids) := by rw [← cut, Text.join_split]
  -- A void segment at the start would make the path absolute, begin with a dot or be empty.
  have begins : Path.isVoid start = false := by
    rw [Bool.eq_false_iff]
    intro void
    rw [Path.isVoid, Bool.or_eq_true, decide_eq_true_iff, decide_eq_true_iff] at void
    rcases void with rfl | rfl <;> cases voids with
    | nil =>
      rw [whole] at one lead
      simp [Text.join_singleton, Path.components, Path.parts, Path.isVoid, Text.split,
        Text.splitChars] at one lead
    | cons next rest => simp [Path.parts, whole, Text.join, Text.joinChars] at lead
  have kept := innerComponents_eq one
  rw [Path.innerComponents, ← Text.split, cut, List.filter_cons_of_pos (by simp [begins]),
    List.map_cons, List.cons.injEq, List.map_eq_nil_iff, List.filter_eq_nil_iff] at kept
  exact ⟨start, voids, cut, begins, by simpa using kept.2⟩

end SingleName

private theorem eq_nil_of_append_cons {α : Type} {void : α → Prop} {more behind other : List α}
    {a b : α} (same : a :: behind = more ++ b :: other) (counts_b : ¬ void b)
    (void_behind : ∀ c ∈ behind, void c) : more = [] := by
  cases more with
  | nil => rfl
  | cons c rest =>
    obtain ⟨-, rfl⟩ := List.cons.inj same
    exact absurd (void_behind b (by simp)) counts_b

/-- Two lists that are equal have their last elements that are not void at one place. -/
theorem eq_of_append_cons {α : Type} (void : α → Prop) {before after : List α} {a b : α}
    {behind other : List α} (same : before ++ a :: behind = after ++ b :: other)
    (counts_a : ¬ void a) (counts_b : ¬ void b) (void_behind : ∀ c ∈ behind, void c)
    (void_other : ∀ c ∈ other, void c) : before = after ∧ a :: behind = b :: other := by
  rcases List.append_eq_append_iff.mp same with ⟨more, rfl, eq⟩ | ⟨more, rfl, eq⟩
  · obtain rfl := eq_nil_of_append_cons eq counts_b void_behind
    exact ⟨(List.append_nil before).symm, eq⟩
  · obtain rfl := eq_nil_of_append_cons eq counts_a void_other
    exact ⟨List.append_nil after, eq.symm⟩

/-- A logical path tells the path it was made from and the name at its end. -/
theorem SingleName.eq_of_child {first second a b : String} (single_a : SingleName a)
    (single_b : SingleName b) (same : LogicalPath.child first a = LogicalPath.child second b) :
    first = second ∧ a = b := by
  have cut (above name : String) : Text.split '/' (LogicalPath.child above name) =
      (if above.isEmpty then [] else Text.split '/' above) ++ Text.split '/' name := by
    unfold LogicalPath.child
    split
    · rfl
    · simp [Text.split, String.toList_append, Text.splitChars_append]
  obtain ⟨start_a, voids_a, cut_a, begins_a, void_a⟩ := single_a.exists_segments
  obtain ⟨start_b, voids_b, cut_b, begins_b, void_b⟩ := single_b.exists_segments
  have segments := congrArg (Text.split '/') same
  rw [cut, cut, cut_a, cut_b] at segments
  obtain ⟨above, name⟩ := eq_of_append_cons (Path.isVoid · = true) segments (by simp [begins_a])
    (by simp [begins_b]) void_a void_b
  have names : a = b := by
    rw [← Text.join_split '/' a, ← Text.join_split '/' b, cut_a, cut_b, name]
  refine ⟨?_, names⟩
  by_cases empty : first.isEmpty <;> by_cases other : second.isEmpty <;>
    simp only [empty, other, if_true, if_false, Bool.false_eq_true] at above
  · simp_all
  · exact absurd above.symm (Text.split_ne_nil '/' second)
  · exact absurd above (Text.split_ne_nil '/' first)
  · rw [← Text.join_split '/' first, ← Text.join_split '/' second, above]

theorem PlainName.components {name : String} (plain : PlainName name) :
    (Path.mk name).components = [.named name] := by
  have cut : Text.split '/' name = [name] := Text.split_of_not_mem plain.no_slash
  have not_void := plain.not_void
  -- Neither a slash nor a dot alone stands at the start, so the name is all there is.
  have lead : (Path.mk name).parts = (none, [name]) := by
    unfold Path.parts
    split
    next rest text => exact absurd (by rw [text]; simp) plain.no_slash
    next text =>
      obtain rfl : name = "." := String.toList_inj.mp text
      exact absurd not_void (by decide)
    next rest text => exact absurd (by rw [text]; simp) plain.no_slash
    next => rw [cut]
  simp [Path.components, lead, not_void, Component.ofSegment, plain.not_up]

theorem PlainName.single {name : String} (plain : PlainName name) : SingleName name :=
  ⟨name, plain.components⟩

namespace Project

theorem Reachable.mono {names others : String → Prop} {project : Project}
    (implies : ∀ name, names name → others name) (reachable : Reachable names project) :
    Reachable others project := by
  induction reachable with
  | new directory => exact .new directory
  | addPackage _ above allowed ih => exact .addPackage ih above (implies _ allowed)
  | addFile _ above allowed ih => exact .addFile ih above (implies _ allowed)
  | addDependency _ has_source has_target ih => exact .addDependency ih has_source has_target
  | rescope _ inside ih => exact .rescope ih inside
  | declare policy _ ih => exact .declare policy ih

/-! ### Logical paths, step by step -/

/-- Whether logical paths go on from a package to what is in it by the name of that. -/
structure Stepwise (project : Project) : Prop where
  root_name : (project.package root).name = project.rootDirectory.fileName?.getD "root"
  root_relative : (project.package root).relative = ""
  root_depth : (project.package root).depth = 0
  package {id parent : PackageId} :
    project.HasPackage id → (project.package id).parent = some parent →
      (project.package id).relative =
        LogicalPath.child (project.package parent).relative (project.package id).name
  file {id : FileId} :
    project.HasFile id →
      (project.file id).relative =
        LogicalPath.child (project.package (project.file id).package).relative
          (project.file id).label

variable {names : String → Prop} {project : Project}

theorem Stepwise.withPackage (stepwise : Stepwise project) (wellFormed : WellFormed project)
    {parent : PackageId} (above : project.HasPackage parent) (name : String) :
    Stepwise (project.withPackage parent name) := by
  have frame {id : PackageId} (old : project.HasPackage id) :=
    project.package_withPackage_frame parent name old
  have relative_eq {id : PackageId} (old : project.HasPackage id) :
      ((project.withPackage parent name).package id).relative = (project.package id).relative :=
    (congrArg Package.relative (frame old) :)
  have has_root := wellFormed.tree.has_root
  have root_frame := frame has_root
  have path_eq := congrArg Package.path root_frame
  have name_eq := congrArg Package.name root_frame
  refine {
    root_name := ?root
    root_relative := (relative_eq has_root).trans stepwise.root_relative
    root_depth := (congrArg Package.depth root_frame :).trans stepwise.root_depth
    package := fun {id top} has linked => ?package
    file := fun {id} has => ?file }
  case root =>
    dsimp only at path_eq name_eq
    rw [rootDirectory, path_eq, name_eq]
    exact stepwise.root_name
  case package =>
    rcases (project.hasPackage_withPackage parent name id).mp has with old | rfl
    · have parent_eq := congrArg Package.parent (frame old)
      have name_eq := congrArg Package.name (frame old)
      dsimp only at parent_eq name_eq
      rw [parent_eq] at linked
      rw [relative_eq old, name_eq, relative_eq (wellFormed.tree.has_parent old linked)]
      exact stepwise.package old linked
    · rw [project.package_withPackage_next] at linked ⊢
      cases linked
      rw [relative_eq above]
      rfl
  case file =>
    have owner_relative := relative_eq (wellFormed.files.has_owner has)
    exact (stepwise.file has).trans
      (congrArg (LogicalPath.child · (project.file id).label) owner_relative.symm)

theorem Stepwise.withFile (stepwise : Stepwise project) (wellFormed : WellFormed project)
    {owner : PackageId} (above : project.HasPackage owner) (name : String)
    (module : Option ParsedModule) : Stepwise (project.withFile owner name module) := by
  have frame {id : PackageId} (old : project.HasPackage id) :=
    project.package_withFile_frame owner name module old
  have relative_eq {id : PackageId} (old : project.HasPackage id) :
      ((project.withFile owner name module).package id).relative =
        (project.package id).relative :=
    (congrArg Package.relative (frame old) :)
  have has_root := wellFormed.tree.has_root
  have root_frame := frame has_root
  have path_eq := congrArg Package.path root_frame
  have name_eq := congrArg Package.name root_frame
  refine {
    root_name := ?root
    root_relative := (relative_eq has_root).trans stepwise.root_relative
    root_depth := (congrArg Package.depth root_frame :).trans stepwise.root_depth
    package := fun {id top} has linked => ?package
    file := fun {id} has => ?file }
  case root =>
    dsimp only at path_eq name_eq
    rw [rootDirectory, path_eq, name_eq]
    exact stepwise.root_name
  case package =>
    have old := (project.hasPackage_withFile owner name module id).mp has
    have parent_eq := congrArg Package.parent (frame old)
    have name_eq := congrArg Package.name (frame old)
    dsimp only at parent_eq name_eq
    rw [parent_eq] at linked
    rw [relative_eq old, name_eq, relative_eq (wellFormed.tree.has_parent old linked)]
    exact stepwise.package old linked
  case file =>
    rcases (project.hasFile_withFile owner name module id).mp has with old | rfl
    · rw [project.file_withFile owner name module old,
        relative_eq (wellFormed.files.has_owner old)]
      exact stepwise.file old
    · rw [project.file_withFile_next]
      exact (congrArg (LogicalPath.child · name) (relative_eq above)).symm

theorem Reachable.stepwise (reachable : Reachable names project) : Stepwise project := by
  induction reachable with
  | new directory =>
    exact {
      root_name := rfl
      root_relative := rfl
      root_depth := rfl
      package := fun has linked => by
        rw [eq_root_of_new has] at linked
        cases linked
      file := fun has => absurd has not_hasFile_new }
  | @addPackage project parent name before above _ ih =>
    rcases project.addPackage_cases parent name with ⟨_, -, added⟩ | ⟨-, added⟩ <;> rw [added]
    · exact ih
    · exact ih.withPackage before.wellFormed above name
  | @addFile project owner name module before above _ ih =>
    rcases project.addFile_cases owner name module with ⟨_, -, added⟩ | ⟨-, added⟩ <;> rw [added]
    · exact ih
    · exact ih.withFile before.wellFormed above name module
  | addDependency _ _ _ ih =>
    unfold Project.addDependency
    split
    next => exact ih
    next => exact { ih with }
  | rescope _ _ ih => exact { ih with }
  | declare policy _ ih => exact { ih with }

end Project

end PackageAtlas
