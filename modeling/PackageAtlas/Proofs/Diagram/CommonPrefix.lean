import PackageAtlas.Proofs.Diagram.ShownNames
import PackageAtlas.Proofs.View.Connected

/-!
# The longest common prefix

The prefix that a diagram leaves out is the longest one that can be taken off every label with
something left behind the dot. It is taken off all names alike, those of packages and those at both
ends of dependencies, so names are equal only where the labels are.
-/
namespace PackageAtlas

namespace PlantUml

/-! ### Dotted prefixes -/

/-- Whether a label has something before, between and behind its dots. -/
def Segmented (label : String) : Prop :=
  "" ∉ Text.split '.' label

instance (label : String) : Decidable (Segmented label) :=
  inferInstanceAs (Decidable (¬ _))

/-- Whether a text with a dot behind it can be taken off all labels and leaves some of each. -/
def StripsAll (stem : String) (labels : List String) : Prop :=
  stem ≠ "" ∧ ∀ label ∈ labels, ∃ rest, rest ≠ "" ∧ label = stem ++ "." ++ rest

theorem Segmented.of_dotted {before after : String}
    (segmented : Segmented (before ++ "." ++ after)) :
    before ≠ "" ∧ after ≠ "" := by
  have void : "" ∈ Text.split '.' "" := by decide
  rw [Segmented, Text.split_dotted, List.mem_append, not_or] at segmented
  constructor
  · rintro rfl
    exact segmented.1 void
  · rintro rfl
    exact segmented.2 void

/-! ### As many segments as possible -/

theorem le_sharedLength {first second : List String} {count : Nat}
    (same : first.take count = second.take count) (inside : count ≤ first.length)
    (inside_second : count ≤ second.length) : count ≤ sharedLength first second := by
  induction count generalizing first second with
  | zero => exact Nat.zero_le _
  | succ count ih =>
    cases first with
    | nil => simp at inside
    | cons a as =>
      cases second with
      | nil => simp at inside_second
      | cons b bs =>
        simp only [List.take_succ_cons, List.cons.injEq] at same
        simp only [List.length_cons, Nat.add_le_add_iff_right] at inside inside_second
        rw [sharedLength, if_pos same.1]
        exact Nat.succ_le_succ (ih same.2 inside inside_second)

private theorem le_foldl_min {first : List String} {others : List (List String)} {bound count : Nat}
    (below : count ≤ bound) (shared : ∀ parts ∈ others, count ≤ sharedLength first parts) :
    count ≤ others.foldl (fun length parts => min length (sharedLength first parts)) bound := by
  induction others generalizing bound with
  | nil => exact below
  | cons parts others ih =>
    obtain ⟨here, later⟩ := List.forall_mem_cons.mp shared
    exact ih (Nat.le_min.mpr ⟨below, here⟩) later

/-- No more is left out than what every label has in front of something else, and no less. -/
theorem le_leftOut {first : List String} {others : List (List String)} {count : Nat}
    (shared : ∀ parts ∈ first :: others, first.take count = parts.take count ∧
      count < parts.length) : count ≤ leftOut first others := by
  obtain ⟨-, shorter⟩ := shared first List.mem_cons_self
  have within : count ≤ sharedByAll first others := by
    refine le_foldl_min (by omega) fun parts member => ?_
    obtain ⟨same, inside⟩ := shared parts (List.mem_cons_of_mem first member)
    exact le_sharedLength same (by omega) (by omega)
  by_cases reached : (first :: others).any (·.length = sharedByAll first others)
  · -- A label would be used up and one segment less is left out; this label has more than `count`.
    have left_out : leftOut first others = sharedByAll first others - 1 := if_pos reached
    obtain ⟨parts, member, used_up⟩ := List.any_eq_true.mp reached
    have inside := (shared parts member).2
    simp only [decide_eq_true_eq] at used_up
    omega
  · have left_out : leftOut first others = sharedByAll first others := if_neg reached
    omega

/-- A prefix that can be taken off is made of first segments, and there are no more of them than the
common prefix has. -/
theorem StripsAll.take_eq {stem : String} {labels : List String} {first : List String}
    {others : List (List String)} (strips : StripsAll stem labels)
    (cut : labels.map (Text.split '.') = first :: others) :
    first.take (Text.split '.' stem).length = Text.split '.' stem ∧
      (Text.split '.' stem).length ≤ leftOut first others := by
  have begins (parts : List String) (member : parts ∈ first :: others) :
      parts.take (Text.split '.' stem).length = Text.split '.' stem ∧
        (Text.split '.' stem).length < parts.length := by
    rw [← cut] at member
    obtain ⟨label, labelled, rfl⟩ := List.mem_map.mp member
    obtain ⟨rest, -, rfl⟩ := strips.2 label labelled
    have something := List.length_pos_of_ne_nil (Text.split_ne_nil '.' rest)
    rw [Text.split_dotted, List.length_append]
    exact ⟨List.take_left, by omega⟩
  have of_first := (begins first List.mem_cons_self).1
  refine ⟨of_first, le_leftOut fun parts member => ?_⟩
  obtain ⟨of_parts, inside⟩ := begins parts member
  exact ⟨of_first.trans of_parts.symm, inside⟩

/-- More segments make a longer text. -/
theorem length_join_take_le (segments : List String) {few many : Nat} (fewer : few ≤ many) :
    (Text.join '.' (segments.take few)).length ≤ (Text.join '.' (segments.take many)).length := by
  have whole : segments.take many = segments.take few ++ (segments.take many).drop few := by
    have start : (segments.take many).take few = segments.take few := by
      rw [List.take_take, Nat.min_eq_left fewer]
    rw [← start, List.take_append_drop]
  by_cases none_before : segments.take few = []
  · rw [none_before]
    exact Nat.zero_le _
  · by_cases none_behind : (segments.take many).drop few = []
    · rw [none_behind, List.append_nil] at whole
      exact Nat.le_of_eq (congrArg (fun parts => (Text.join '.' parts).length) whole.symm)
    · have joined := congrArg List.length (Text.toList_join_append '.' none_before none_behind)
      rw [← whole] at joined
      simp only [List.length_append, String.length_toList] at joined
      omega

/-- The common prefix is the longest one that can be taken off all labels, and there is none exactly
if nothing can be taken off. -/
theorem commonPrefix_longest {labels : List String} (nonempty : labels ≠ [])
    (segmented : ∀ label ∈ labels, Segmented label) :
    ((commonPrefix labels).isSome ↔ ∃ stem, StripsAll stem labels) ∧
      ∀ stem, commonPrefix labels = some stem →
        StripsAll stem labels ∧ ∀ other, StripsAll other labels → other.length ≤ stem.length := by
  obtain ⟨first, others, cut⟩ := List.exists_cons_of_ne_nil
    (mt List.map_eq_nil_iff.mp nonempty : labels.map (Text.split '.') ≠ [])
  have prefix_eq := commonPrefix_eq cut
  have found_strips (stem : String) (found : commonPrefix labels = some stem) :
      StripsAll stem labels := by
    have rests (label : String) (member : label ∈ labels) :
        ∃ rest, stem ≠ "" ∧ rest ≠ "" ∧ label = stem ++ "." ++ rest := by
      obtain ⟨rest, rfl⟩ := exists_rest_of_commonPrefix found member
      exact ⟨rest, (segmented _ member).of_dotted.1, (segmented _ member).of_dotted.2, rfl⟩
    obtain ⟨label, member⟩ := List.exists_mem_of_ne_nil labels nonempty
    obtain ⟨-, named, -⟩ := rests label member
    refine ⟨named, fun label member => ?_⟩
    obtain ⟨rest, -, something, label_eq⟩ := rests label member
    exact ⟨rest, something, label_eq⟩
  refine ⟨⟨fun some_found => ?_, fun ⟨stem, strips⟩ => ?_⟩, fun stem found => ?_⟩
  · obtain ⟨stem, found⟩ := Option.isSome_iff_exists.mp some_found
    exact ⟨stem, found_strips stem found⟩
  · -- What can be taken off has one segment at least, so the count of the common ones is not zero.
    have some_segment := List.length_pos_of_ne_nil (Text.split_ne_nil '.' stem)
    have within := (strips.take_eq cut).2
    rw [prefix_eq, if_neg (by omega)]
    rfl
  · refine ⟨found_strips stem found, fun other strips => ?_⟩
    obtain ⟨start, within⟩ := strips.take_eq cut
    rw [prefix_eq] at found
    split at found
    next => cases found
    next =>
      cases found
      -- Both are rows of first segments of the same label, and this one has no fewer of them.
      have other_eq : Text.join '.' (first.take (Text.split '.' other).length) = other := by
        rw [start, Text.join_split]
      rw [← other_eq]
      exact length_join_take_le first within

/-! ### Names without the prefix -/

/-- Whether a name is what a label has behind the prefix, or all of it where there is no prefix. -/
def Shortened (stem : Option String) (label name : String) : Prop :=
  match stem with
  | none => name = label
  | some start => label = start ++ "." ++ name

theorem Prefixed.shortened {stem : Option String} {label : String}
    (prefixed : Prefixed stem label) : Shortened stem label (withoutPrefix stem label) := by
  cases stem with
  | none => rfl
  | some start =>
    obtain ⟨rest, rfl⟩ := prefixed start rfl
    rw [withoutPrefix_append]
    rfl

theorem Shortened.ne_empty {stem : Option String} {label name : String}
    (shortened : Shortened stem label name) (segmented : Segmented label) : name ≠ "" := by
  cases stem with
  | none =>
    rintro rfl
    obtain rfl : "" = label := shortened
    exact absurd segmented (by decide)
  | some start =>
    obtain rfl : label = start ++ "." ++ name := shortened
    exact segmented.of_dotted.2

theorem shownName_of_mem {view : View} {package : ViewPackage} (member : package ∈ view.packages) :
    shownName view package.path =
      withoutPrefix (commonPrefix (view.packages.map (·.label))) package.label := by
  rw [shownName, Diagram.labelOf, (view.find?_eq_some_iff _ _).mpr ⟨member, rfl⟩]

end PlantUml

namespace View

/-- Whether both ends of every dependency are packages of the view. -/
def EndsFound (view : View) : Prop :=
  ∀ dependency ∈ view.packages.flatMap (·.dependencies),
    (view.find? dependency.source).isSome ∧ (view.find? dependency.destination).isSome

instance (view : View) : Decidable view.EndsFound :=
  inferInstanceAs (Decidable (∀ dependency ∈ _, _))

/-- The paths that a document names: those of the packages, and of both ends of all dependencies. -/
def namedPaths (view : View) : List String :=
  view.packages.map (·.path) ++
    (view.packages.flatMap (·.dependencies)).flatMap fun dependency =>
      [dependency.source, dependency.destination]

/-- So it is in all views that are drawn from projects. -/
theorem Connected.endsFound {view : View} (connected : view.Connected) : view.EndsFound := by
  intro dependency drawn
  obtain ⟨package, member, inside⟩ := List.mem_flatMap.mp drawn
  refine ⟨?_, connected.destination_found member inside⟩
  rw [(connected.tidy package member).source_eq inside,
    (view.find?_eq_some_iff _ _).mpr ⟨member, rfl⟩]
  rfl

theorem EndsFound.exists_package {view : View} (found : view.EndsFound) {path : String}
    (named : path ∈ view.namedPaths) : ∃ package ∈ view.packages, package.path = path := by
  have of_found (known : (view.find? path).isSome) : ∃ package ∈ view.packages,
      package.path = path := by
    obtain ⟨package, at_path⟩ := Option.isSome_iff_exists.mp known
    exact ⟨package, (view.find?_eq_some_iff _ _).mp at_path⟩
  rcases List.mem_append.mp named with own | at_end
  · exact List.mem_map.mp own
  · obtain ⟨dependency, drawn, one_end⟩ := List.mem_flatMap.mp at_end
    obtain ⟨source_found, destination_found⟩ := found dependency drawn
    rcases List.mem_pair.mp one_end with rfl | rfl
    · exact of_found source_found
    · exact of_found destination_found

end View

namespace PlantUml

/-- For labels without empty segments, the common prefix is the longest that can be taken off all of
them. A document of a view that has both ends of its dependencies writes packages and ends alike, by
their labels without this one prefix: names are never empty, and equal exactly where the labels
are. -/
theorem commonPrefix_exact :
    (∀ labels : List String, labels ≠ [] → (∀ label ∈ labels, Segmented label) →
      ((commonPrefix labels).isSome ↔ ∃ stem, StripsAll stem labels) ∧
        ∀ stem, commonPrefix labels = some stem →
          StripsAll stem labels ∧
            ∀ other, StripsAll other labels → other.length ≤ stem.length) ∧
    ∀ (style : Style) (viewName : String) (view : View), view.EndsFound →
      (∀ package ∈ view.packages, Segmented package.label) →
      let stem := commonPrefix (view.packages.map (·.label))
      let name := shownName view
      (render style viewName view).text = String.join
        ((["@startuml", "skinparam backgroundColor GhostWhite",
            "title " ++ style.projectName ++ "-" ++ viewName ++ titleEnding stem] ++
          view.packages.map (fun package =>
            "package \"" ++ name package.path ++ "\" " ++ style.color package.state) ++
          (view.packages.flatMap (·.dependencies)).map (fun dependency =>
            "\"" ++ name dependency.source ++ "\"-->\"" ++ name dependency.destination ++ "\"" ++
              arrowEnding style dependency) ++
          ["@enduml"]).map (· ++ "\n")) ∧
      (∀ path ∈ view.namedPaths, ∃ package ∈ view.packages, package.path = path) ∧
      (∀ package ∈ view.packages,
        Shortened stem package.label (name package.path) ∧ name package.path ≠ "") ∧
      ∀ first ∈ view.packages, ∀ second ∈ view.packages,
        name first.path = name second.path ↔ first.label = second.label := by
  refine ⟨fun labels => commonPrefix_longest, fun style viewName view found segmented => ?_⟩
  have labelled {package : ViewPackage} (member : package ∈ view.packages) :
      package.label ∈ view.packages.map (·.label) := List.mem_map_of_mem member
  refine ⟨?text, fun path => found.exists_package, fun package member => ?name,
    fun first first_member second second_member => ?apart⟩
  case text =>
    have package_lines := funext (packageLine_eq style (shownName view))
    have dependency_lines := funext (dependencyLine_eq style (shownName view))
    rw [render, lines_eq, titleLine_eq, Diagram.title, package_lines, dependency_lines,
      ← String.append_assoc, ← String.append_assoc]
  case name =>
    rw [shownName_of_mem member]
    have shortened := (prefixed_of_mem (labelled member)).shortened
    exact ⟨shortened, shortened.ne_empty (segmented package member)⟩
  case apart =>
    rw [shownName_of_mem first_member, shownName_of_mem second_member]
    exact withoutPrefix_eq_iff (labelled first_member) (labelled second_member)

/-- Three packages under one prefix, one label of which is the beginning of another. One of the two
dependencies is new in a comparison. -/
def prefixedShop : View :=
  View.ofList [
    ⟨"api", "shop.eu.api", "shop.eu.api", .neutral,
      [⟨"api", "api/v1", 2, [], .neutral, none⟩,
        ⟨"api", "core", 1, [], .created, some ⟨.created, 1, "1 (+1)"⟩⟩], ⟨1⟩⟩,
    ⟨"api/v1", "shop.eu.api.v1", "shop.eu.api.v1", .neutral, [], ⟨2⟩⟩,
    ⟨"core", "shop.eu.core", "shop.eu.core", .neutral, [], ⟨3⟩⟩]

/-- The prefix `shop.eu` is left out of all names, and no longer one could be. Without counts, a
document still has what marks say. -/
theorem prefixedShop_names :
    let counting := Style.standard "shop"
    let silent := { counting with showDependencyCount := false }
    let upper :=
      "@startuml\nskinparam backgroundColor GhostWhite\n" ++
      "title shop-overview\\n<size:12>shop.eu.*</size>\n" ++
      "package \"api\" #Azure\npackage \"api.v1\" #Azure\npackage \"core\" #Azure\n"
    commonPrefix (prefixedShop.packages.map (·.label)) = some "shop.eu" ∧
      (∀ other, StripsAll other (prefixedShop.packages.map (·.label)) → other.length ≤ 7) ∧
      prefixedShop.packages.map (fun package => shownName prefixedShop package.path) =
        ["api", "api.v1", "core"] ∧
      (∀ package ∈ prefixedShop.packages, shownName prefixedShop package.path ≠ "") ∧
      (render counting "overview" prefixedShop).text =
        upper ++ "\"api\"-->\"api.v1\" : 2\n\"api\"-->\"core\" #Green : 1 (+1)\n@enduml\n" ∧
      (render silent "overview" prefixedShop).text =
        upper ++ "\"api\"-->\"api.v1\"\n\"api\"-->\"core\" #Green : 1 (+1)\n@enduml\n" := by
  intro counting silent upper
  have segmented : ∀ package ∈ prefixedShop.packages, Segmented package.label := by decide +kernel
  have found : prefixedShop.EndsFound := by decide +kernel
  have stem_eq : commonPrefix (prefixedShop.packages.map (·.label)) = some "shop.eu" := by
    decide +kernel
  obtain ⟨longest, written⟩ := commonPrefix_exact
  have all_segmented : ∀ label ∈ prefixedShop.packages.map (·.label), Segmented label := by
    intro label member
    obtain ⟨package, inside, rfl⟩ := List.mem_map.mp member
    exact segmented package inside
  obtain ⟨-, stem_longest⟩ := longest _ (by decide +kernel) all_segmented
  obtain ⟨counting_text, -, shown, -⟩ := written counting "overview" prefixedShop found segmented
  obtain ⟨silent_text, -⟩ := written silent "overview" prefixedShop found segmented
  exact ⟨stem_eq, (stem_longest "shop.eu" stem_eq).2, by decide +kernel,
    fun package member => (shown package member).2, counting_text.trans (by decide +kernel),
    silent_text.trans (by decide +kernel)⟩

end PlantUml

end PackageAtlas
