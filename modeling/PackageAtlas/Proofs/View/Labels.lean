import PackageAtlas.Project.Build
import PackageAtlas.Proofs.Diagram.ShownNames
import PackageAtlas.Proofs.View.PlainViews

/-!
# When packages are labelled alike

A label is made of segments of a logical path, or of the name of the root package. Two packages of
one diagram are labelled alike only if a package below the root is called like the root, if one
parent segment is not enough to tell two brief labels apart, or if a name has a dot in it.
-/
namespace PackageAtlas

/-! ### What labels are made of -/

/-- The segments that a package is labelled with. -/
def View.labelSegments (view : View) (usePath : Bool) (package : ViewPackage) : List String :=
  if usePath then package.segments
  else
    package.segments.drop
      (package.segments.length - if view.isAmbiguous package then 2 else 1)

/-- Whether all packages of a view are labelled with their segments. -/
def View.Labelled (view : View) (usePath : Bool) : Prop :=
  ∀ package ∈ view.packages,
    package.label = Text.join '.' (view.labelSegments usePath package)

/-- Whether a package other than the root package has its dotted path for a name. -/
def ViewPackage.Named (package : ViewPackage) : Prop :=
  package.path ≠ "" → package.name = LogicalPath.dotted package.path

def View.Named (view : View) : Prop :=
  ∀ package ∈ view.packages, package.Named

namespace ViewPackage

variable {package other : ViewPackage}

theorem segments_root (root : package.path = "") : package.segments = [package.name] := by
  rw [segments, root]
  rfl

theorem segments_of_ne (below : package.path ≠ "") :
    package.segments = Text.split '/' package.path := by
  rw [segments, if_neg (by simpa using below), LogicalPath.segments]

theorem segments_ne_nil (package : ViewPackage) : package.segments ≠ [] := by
  rw [segments]
  split
  next => exact List.cons_ne_nil _ _
  next => exact Text.split_ne_nil '/' package.path

theorem Named.join_segments (named : package.Named) :
    Text.join '.' package.segments = package.name := by
  by_cases root : package.path = ""
  · rw [segments_root root, Text.join_singleton]
  · rw [segments_of_ne root, named root, LogicalPath.dotted, Text.replace_eq_join]

/-- Different packages below the root have different segments. -/
theorem path_eq_of_segments (below : package.path ≠ "") (other_below : other.path ≠ "")
    (same : package.segments = other.segments) : package.path = other.path := by
  rw [segments_of_ne below, segments_of_ne other_below] at same
  rw [← Text.join_split '/' package.path, same, Text.join_split]

end ViewPackage

namespace View

variable {view : View} {usePath : Bool} {a b : ViewPackage}

theorem labelSegments_ne_nil (view : View) (usePath : Bool) (package : ViewPackage) :
    view.labelSegments usePath package ≠ [] := by
  have nonempty := List.length_pos_iff.mpr package.segments_ne_nil
  rw [labelSegments]
  split
  next => exact package.segments_ne_nil
  next =>
    rw [← List.length_pos_iff, List.length_drop]
    split <;> omega

theorem isAmbiguous_relabel (view : View) (label : ViewPackage → String) (package : ViewPackage)
    (text : String) :
    (view.relabel label).isAmbiguous { package with label := text } = view.isAmbiguous package := by
  rw [isAmbiguous, isAmbiguous, relabel, List.any_map]
  rfl

/-- Labels are made of the same segments before and after they are given. -/
theorem Named.labelled (named : view.Named) (usePath : Bool) :
    (view.applyLabels usePath).Labelled usePath := by
  intro package member
  obtain ⟨original, original_member, rfl⟩ := List.mem_map.mp member
  rw [labelSegments]
  cases usePath with
  | true => exact ((named original original_member).join_segments).symm
  | false =>
    rw [if_neg Bool.false_ne_true, applyLabels, isAmbiguous_relabel]
    rfl

/-! ### Packages that are labelled alike -/

/-- The ways in which two packages of a view come to be labelled alike. -/
inductive Clash (view : View) (usePath : Bool) (a b : ViewPackage) : Prop
  /-- The second package is called like the root package right above it. -/
  | root : a.path = "" → b.segments = [a.name] → Clash view usePath a b
  | rootAbove : b.path = "" → a.segments = [b.name] → Clash view usePath a b
  /-- Brief labels take one parent in, and the parents are called alike as well. -/
  | parents : usePath = false → view.isAmbiguous a → view.isAmbiguous b →
      2 ≤ a.segments.length → 2 ≤ b.segments.length →
      a.segments.drop (a.segments.length - 2) = b.segments.drop (b.segments.length - 2) →
      Clash view usePath a b
  /-- A segment with a dot in it reads like two. -/
  | dots {segment : String} :
      segment ∈ view.labelSegments usePath a ++ view.labelSegments usePath b →
      '.' ∈ segment.toList →
      (view.labelSegments usePath a).flatMap (Text.split '.') =
        (view.labelSegments usePath b).flatMap (Text.split '.') →
      Clash view usePath a b

theorem Clash.symm (clash : view.Clash usePath a b) : view.Clash usePath b a := by
  cases clash with
  | root at_root alike => exact .rootAbove at_root alike
  | rootAbove at_root alike => exact .root at_root alike
  | parents brief a_ambiguous b_ambiguous a_deep b_deep alike =>
    exact .parents brief b_ambiguous a_ambiguous b_deep a_deep alike.symm
  | dots member dot alike =>
    exact .dots (List.mem_append.mpr (List.mem_append.mp member).symm) dot alike.symm

theorem Clash.of_segments (different : a.path ≠ b.path) (same : a.segments = b.segments) :
    view.Clash usePath a b := by
  by_cases a_root : a.path = ""
  · exact .root a_root (same ▸ ViewPackage.segments_root a_root)
  · by_cases b_root : b.path = ""
    · exact .rootAbove b_root (same ▸ ViewPackage.segments_root b_root)
    · exact absurd (ViewPackage.path_eq_of_segments a_root b_root same) different

theorem isAmbiguous_of_mem (member : a ∈ view.packages) (different : a.path ≠ b.path)
    (same_end : a.segments.getLast? = b.segments.getLast?)
    (shorter : a.segments.length ≤ b.segments.length) : view.isAmbiguous b = true := by
  rw [isAmbiguous, List.any_eq_true]
  exact ⟨a, member, by simp [different, same_end, shorter]⟩

theorem getLast?_labelSegments (view : View) (usePath : Bool) (package : ViewPackage) :
    (view.labelSegments usePath package).getLast? = package.segments.getLast? := by
  have nonempty := List.length_pos_iff.mpr package.segments_ne_nil
  rw [labelSegments]
  split
  next => rfl
  next =>
    rw [List.getLast?_drop, if_neg]
    split <;> omega

theorem length_labelSegments (view : View) (package : ViewPackage) :
    (view.labelSegments false package).length =
      min package.segments.length (if view.isAmbiguous package then 2 else 1) := by
  rw [labelSegments, if_neg Bool.false_ne_true, List.length_drop]
  omega

/-- Brief labels of the same segments: the package that lies no higher than the other one takes its
parent in, so the other one must do so too. -/
private theorem clash_of_brief (in_a : a ∈ view.packages) (different : a.path ≠ b.path)
    (same : view.labelSegments false a = view.labelSegments false b)
    (shorter : a.segments.length ≤ b.segments.length) : view.Clash false a b := by
  have same_end : a.segments.getLast? = b.segments.getLast? := by
    rw [← view.getLast?_labelSegments false a, same, getLast?_labelSegments]
  have b_ambiguous := isAmbiguous_of_mem in_a different same_end shorter
  have a_nonempty := List.length_pos_iff.mpr a.segments_ne_nil
  have same_length := congrArg List.length same
  rw [length_labelSegments, length_labelSegments, b_ambiguous, if_pos rfl] at same_length
  rw [labelSegments, labelSegments, b_ambiguous, if_neg Bool.false_ne_true,
    if_neg Bool.false_ne_true, if_pos rfl] at same
  by_cases deep : 2 ≤ b.segments.length
  · -- The label of `b` has two segments, and no other than an ambiguous package has so many.
    have a_ambiguous : view.isAmbiguous a = true := by
      by_contra clear
      rw [if_neg clear] at same_length
      omega
    rw [a_ambiguous, if_pos rfl] at same same_length
    exact .parents rfl a_ambiguous b_ambiguous (by omega) deep same
  · -- Both have one segment, which is the whole label.
    refine .of_segments different ?_
    have a_whole : a.segments.length - (if view.isAmbiguous a then 2 else 1) = 0 := by
      split <;> omega
    have b_whole : b.segments.length - 2 = 0 := by omega
    rwa [a_whole, b_whole, List.drop_zero, List.drop_zero] at same

theorem Labelled.clash_of_label_eq (labelled : view.Labelled usePath) (in_a : a ∈ view.packages)
    (in_b : b ∈ view.packages) (different : a.path ≠ b.path) (same : a.label = b.label) :
    view.Clash usePath a b := by
  rw [labelled a in_a, labelled b in_b, Text.join_eq_iff '.' (view.labelSegments_ne_nil usePath a)
    (view.labelSegments_ne_nil usePath b)] at same
  by_cases dotted : ∃ segment ∈ view.labelSegments usePath a ++ view.labelSegments usePath b,
      '.' ∈ segment.toList
  · obtain ⟨segment, member, dot⟩ := dotted
    exact .dots member dot same
  · -- Without dots the labels can be cut into their segments again.
    have dotless (segment : String)
        (member : segment ∈ view.labelSegments usePath a ++ view.labelSegments usePath b) :
        '.' ∉ segment.toList :=
      fun dot => dotted ⟨segment, member, dot⟩
    rw [Text.flatMap_split fun segment member => dotless segment (List.mem_append_left _ member),
      Text.flatMap_split fun segment member => dotless segment (List.mem_append_right _ member)]
      at same
    cases usePath with
    | true => exact .of_segments different same
    | false =>
      rcases Nat.le_total a.segments.length b.segments.length with shorter | shorter
      · exact clash_of_brief in_a different same shorter
      · exact (clash_of_brief in_b different.symm same.symm shorter).symm

/-- A package with one segment is labelled with it, however ambiguous. -/
theorem labelSegments_of_single {name : String} (single : a.segments = [name]) :
    view.labelSegments usePath a = [name] := by
  rw [labelSegments, single]
  split
  next => rfl
  next => split <;> rfl

/-- None of the ways is harmless. -/
theorem Labelled.label_eq_of_clash (labelled : view.Labelled usePath) (in_a : a ∈ view.packages)
    (in_b : b ∈ view.packages) (clash : view.Clash usePath a b) : a.label = b.label := by
  rw [labelled a in_a, labelled b in_b]
  cases clash with
  | root at_root alike =>
    rw [labelSegments_of_single (ViewPackage.segments_root at_root), labelSegments_of_single alike]
  | rootAbove at_root alike =>
    rw [labelSegments_of_single (ViewPackage.segments_root at_root), labelSegments_of_single alike]
  | parents brief a_ambiguous b_ambiguous _ _ alike =>
    rw [brief, labelSegments, labelSegments, a_ambiguous, b_ambiguous]
    exact congrArg (Text.join '.') alike
  | dots _ _ alike =>
    exact (Text.join_eq_iff '.' (view.labelSegments_ne_nil usePath a)
      (view.labelSegments_ne_nil usePath b)).mpr alike

theorem Labelled.label_eq_iff (labelled : view.Labelled usePath) (in_a : a ∈ view.packages)
    (in_b : b ∈ view.packages) (different : a.path ≠ b.path) :
    a.label = b.label ↔ view.Clash usePath a b :=
  ⟨labelled.clash_of_label_eq in_a in_b different, labelled.label_eq_of_clash in_a in_b⟩

/-- One parent does not tell `api/core/models` and `web/core/models` apart. By path they differ, but
`web.core` reads like `web/core`. -/
example :
    let package (path : String) : ViewPackage :=
      ⟨path, LogicalPath.dotted path, "", .neutral, [], Project.root⟩
    let view := ofList
      (["api/core/models", "web.core", "web/core", "web/core/models"].map package)
    (view.applyLabels false).packages.map (·.label) =
        ["core.models", "web.core", "core", "core.models"] ∧
      (view.applyLabels true).packages.map (·.label) =
        ["api.core.models", "web.core", "web.core", "web.core.models"] := by
  decide +kernel

/-! ### Views that are drawn -/

/-- The views that are drawn with their labels: those of projects, and comparisons of two of them
under new labels. -/
inductive Drawn : View → Bool → Prop
  | view (project : Project) (spec : ViewSpec) : Drawn (project.view spec) spec.labelsByPath
  | relabelled (project : Project) (spec : ViewSpec) (usePath : Bool) :
      Drawn ((project.view spec).applyLabels usePath) usePath
  | comparison (current baseline : Project) (spec other : ViewSpec) (usePath : Bool) :
      Drawn (((current.view spec).diff (baseline.view other)).applyLabels usePath) usePath

theorem Named.applyLabels (named : view.Named) (usePath : Bool) :
    (view.applyLabels usePath).Named := by
  intro package member
  obtain ⟨original, original_member, rfl⟩ := List.mem_map.mp member
  have original_named := named original original_member
  exact original_named

theorem Named.diff {current baseline : View} (named : current.Named)
    (baseline_named : baseline.Named) : (current.diff baseline).Named := by
  intro package member
  rcases ViewPackage.compared_cases (mem_diff_iff.mp member) with ⟨own, _, found, -, rfl⟩ |
    ⟨own, found, -, rfl⟩ | ⟨old, -, found, rfl⟩
  · have own_named := named own (List.mem_of_find?_eq_some found)
    exact own_named
  · have own_named := named own (List.mem_of_find?_eq_some found)
    exact own_named
  · have old_named := baseline_named old (List.mem_of_find?_eq_some found)
    exact old_named

theorem named_rolledUp (project : Project) (spec : ViewSpec) :
    (ofList ((project.shownPackages spec).map
      (project.rolledUpPackage (project.shownPackages spec)))).Named := by
  intro package member
  obtain ⟨id, -, rfl⟩ := List.mem_map.mp (mem_of_mem_ofList member)
  intro below
  exact if_neg fun empty => below (String.isEmpty_iff.mp empty)

theorem named_view (project : Project) (spec : ViewSpec) : (project.view spec).Named :=
  (named_rolledUp project spec).applyLabels spec.labelsByPath

theorem Drawn.labelled (drawn : Drawn view usePath) : view.Labelled usePath := by
  cases drawn with
  | view project spec => exact (named_rolledUp project spec).labelled spec.labelsByPath
  | relabelled project spec => exact (named_view project spec).labelled usePath
  | comparison current baseline spec other =>
    exact ((named_view current spec).diff (named_view baseline other)).labelled usePath

theorem labelOf_of_mem (member : a ∈ view.packages) : Diagram.labelOf view a.path = a.label := by
  rw [Diagram.labelOf, (view.find?_eq_some_iff _ _).mpr ⟨member, rfl⟩]

/-- Two packages of a diagram are labelled alike only if they clash. All others are told apart by
their labels, and by what they are called in documents of either format. -/
theorem Drawn.told_apart (drawn : Drawn view usePath) (in_a : a ∈ view.packages)
    (in_b : b ∈ view.packages) (different : a.path ≠ b.path)
    (clear : ¬ view.Clash usePath a b) :
    a.label ≠ b.label ∧ Diagram.labelOf view a.path ≠ Diagram.labelOf view b.path ∧
      PlantUml.shownName view a.path ≠ PlantUml.shownName view b.path := by
  have labels_differ : a.label ≠ b.label := fun same =>
    clear (drawn.labelled.clash_of_label_eq in_a in_b different same)
  rw [PlantUml.shownName, PlantUml.shownName, labelOf_of_mem in_a, labelOf_of_mem in_b]
  refine ⟨labels_differ, labels_differ, ?_⟩
  rwa [Ne, PlantUml.withoutPrefix_eq_iff (List.mem_map_of_mem in_a) (List.mem_map_of_mem in_b)]

end View

/-! ### Small projects -/

namespace Project

/-- The packages `a` and `a/c/d` of `sample` are told apart, with their common prefix left out as
well. -/
theorem sample_told_apart :
    ∃ a ∈ (sample.view sampleSpec).packages, ∃ b ∈ (sample.view sampleSpec).packages,
      a.path = "a" ∧ b.path = "a/c/d" ∧ a.label ≠ b.label ∧
        PlantUml.shownName (sample.view sampleSpec) a.path ≠
          PlantUml.shownName (sample.view sampleSpec) b.path := by
  obtain ⟨a, in_a, a_path⟩ : ∃ a ∈ (sample.view sampleSpec).packages, a.path = "a" := by
    decide +kernel
  obtain ⟨b, in_b, b_path⟩ : ∃ b ∈ (sample.view sampleSpec).packages, b.path = "a/c/d" := by
    decide +kernel
  have below : ∀ package ∈ (sample.view sampleSpec).packages, package.path ≠ "" := by
    decide +kernel
  have dotless : ∀ package ∈ (sample.view sampleSpec).packages,
      ∀ segment ∈ (sample.view sampleSpec).labelSegments sampleSpec.labelsByPath package,
        '.' ∉ segment.toList := by
    decide +kernel
  have different : a.path ≠ b.path := by
    rw [a_path, b_path]
    decide
  have clear : ¬ (sample.view sampleSpec).Clash sampleSpec.labelsByPath a b := by
    intro clash
    cases clash with
    | root at_root => exact below a in_a at_root
    | rootAbove at_root => exact below b in_b at_root
    | parents brief => cases brief
    | dots member dot =>
      rcases List.mem_append.mp member with of_a | of_b
      · exact dotless a in_a _ of_a dot
      · exact dotless b in_b _ of_b dot
  obtain ⟨labels_differ, -, names_differ⟩ :=
    View.Drawn.told_apart (.view sample sampleSpec) in_a in_b different clear
  exact ⟨a, in_a, b, in_b, a_path, b_path, labels_differ, names_differ⟩

/-- A directory `shop` that has nothing but the package `shop` in it. -/
def nested : FileTree where
  root := .directory [("shop", .directory [
    ("shop", .directory [("__init__.py", .file (some ""))])])]
  here := []

/-- The root package of `nested` and the package in it are both labelled `shop`, by path and
briefly, in a view and in a comparison, and no document tells them apart. -/
theorem nested_labelled_alike :
    ∃ project, (Project.build nested ⟨"/shop"⟩ (Analyzer.new nested [] 12)).1 = some project ∧
      let byPath := project.view ⟨[.anchored "" 1], [], some true⟩
      let brief := project.view ⟨[.anchored "" 1], [], some false⟩
      let compared := (byPath.diff brief).applyLabels true
      byPath.packages.map (fun package => (package.path, package.label)) =
          [("", "shop"), ("shop", "shop")] ∧
        brief.packages.map (fun package => (package.path, package.label)) =
          [("", "shop"), ("shop", "shop")] ∧
        compared.packages.map (fun package => (package.path, package.label)) =
          [("", "shop"), ("shop", "shop")] ∧
        PlantUml.shownName byPath "" = PlantUml.shownName byPath "shop" :=
  ⟨_, rfl, by decide +kernel⟩

end Project

end PackageAtlas
