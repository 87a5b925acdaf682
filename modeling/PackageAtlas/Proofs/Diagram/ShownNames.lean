import PackageAtlas.Diagram.PlantUml
import PackageAtlas.Proofs.Text

/-!
# Names on diagrams

A diagram names packages by their labels only. Leaving the common prefix out loses nothing: every
label has it, with something behind the next dot, so different labels keep different names. Names
stand between quotes in the lines of a document, each package's in its own line and both ends of a
dependency in the line of that.
-/
namespace PackageAtlas.PlantUml

/-! ### Shared segments -/

theorem sharedLength_le (first second : List String) :
    sharedLength first second ≤ first.length ∧ sharedLength first second ≤ second.length := by
  induction first generalizing second with
  | nil => exact ⟨Nat.zero_le _, Nat.zero_le _⟩
  | cons a as ih =>
    cases second with
    | nil => exact ⟨Nat.zero_le _, Nat.zero_le _⟩
    | cons b bs =>
      rw [sharedLength]
      split
      next => exact ⟨Nat.succ_le_succ (ih bs).1, Nat.succ_le_succ (ih bs).2⟩
      next => exact ⟨Nat.zero_le _, Nat.zero_le _⟩

theorem sharedLength_self (first : List String) : sharedLength first first = first.length := by
  induction first with
  | nil => rfl
  | cons a as ih => rw [sharedLength, if_pos rfl, ih, List.length_cons]

theorem take_sharedLength (first second : List String) :
    first.take (sharedLength first second) = second.take (sharedLength first second) := by
  induction first generalizing second with
  | nil => rfl
  | cons a as ih =>
    cases second with
    | nil => rfl
    | cons b bs =>
      rw [sharedLength]
      split
      next same => rw [List.take_succ_cons, List.take_succ_cons, same, ih]
      next => rfl

theorem take_eq_of_le_sharedLength {first second : List String} {length : Nat}
    (shared : length ≤ sharedLength first second) : first.take length = second.take length := by
  have same := congrArg (List.take length) (take_sharedLength first second)
  rwa [List.take_take, List.take_take, Nat.min_eq_left shared] at same

/-- The number of leading segments that `first` shares with all others. -/
def sharedByAll (first : List String) (others : List (List String)) : Nat :=
  others.foldl (fun length parts => min length (sharedLength first parts)) first.length

private theorem foldl_min_le (first : List String) (others : List (List String)) (bound : Nat) :
    let least := others.foldl (fun length parts => min length (sharedLength first parts)) bound
    least ≤ bound ∧ ∀ parts ∈ others, least ≤ sharedLength first parts := by
  induction others generalizing bound with
  | nil => exact ⟨Nat.le_refl _, fun _ member => nomatch member⟩
  | cons parts others ih =>
    obtain ⟨below, below_others⟩ := ih (min bound (sharedLength first parts))
    refine ⟨Nat.le_trans below (Nat.min_le_left _ _), fun other member => ?_⟩
    rcases List.mem_cons.mp member with rfl | later
    · exact Nat.le_trans below (Nat.min_le_right _ _)
    · exact below_others other later

theorem sharedByAll_le {first parts : List String} {others : List (List String)}
    (member : parts ∈ first :: others) : sharedByAll first others ≤ sharedLength first parts := by
  rcases List.mem_cons.mp member with rfl | later
  · rw [sharedLength_self]
    exact (foldl_min_le _ others _).1
  · exact (foldl_min_le first others _).2 parts later

/-- The number of leading segments that are left out; every label keeps its last segment. -/
def leftOut (first : List String) (others : List (List String)) : Nat :=
  let shared := sharedByAll first others
  if (first :: others).any (·.length = shared) then shared - 1 else shared

theorem commonPrefix_eq {labels : List String} {first : List String} {others : List (List String)}
    (cut : labels.map (Text.split '.') = first :: others) :
    commonPrefix labels =
      if leftOut first others = 0 then none
      else some (Text.join '.' (first.take (leftOut first others))) := by
  rw [commonPrefix, cut]
  rfl

theorem leftOut_le_sharedLength {first parts : List String} {others : List (List String)}
    (member : parts ∈ first :: others) : leftOut first others ≤ sharedLength first parts := by
  refine Nat.le_trans ?_ (sharedByAll_le member)
  change ite _ _ _ ≤ _
  split
  next => exact Nat.sub_le _ _
  next => exact Nat.le_refl _

theorem leftOut_lt_length {first parts : List String} {others : List (List String)}
    (something : leftOut first others ≠ 0) (member : parts ∈ first :: others) :
    leftOut first others < parts.length := by
  have within : sharedByAll first others ≤ parts.length :=
    Nat.le_trans (sharedByAll_le member) (sharedLength_le first parts).2
  by_cases reached : (first :: others).any (·.length = sharedByAll first others)
  · have left_out : leftOut first others = sharedByAll first others - 1 := if_pos reached
    omega
  · have left_out : leftOut first others = sharedByAll first others := if_neg reached
    have beyond : parts.length ≠ sharedByAll first others := by
      intro same
      exact reached (List.any_eq_true.mpr ⟨parts, member, decide_eq_true same⟩)
    omega

/-- Every label has the common prefix, and something behind the next dot. -/
theorem exists_rest_of_commonPrefix {labels : List String} {stem label : String}
    (found : commonPrefix labels = some stem) (member : label ∈ labels) :
    ∃ rest, label = stem ++ "." ++ rest := by
  have cut_member : Text.split '.' label ∈ labels.map (Text.split '.') :=
    List.mem_map_of_mem member
  obtain ⟨first, others, cut⟩ := List.exists_cons_of_ne_nil (List.ne_nil_of_mem cut_member)
  rw [cut] at cut_member
  rw [commonPrefix_eq cut] at found
  split at found
  next => cases found
  next something =>
    cases found
    have inside := leftOut_lt_length something cut_member
    rw [take_eq_of_le_sharedLength (leftOut_le_sharedLength cut_member)]
    generalize leftOut first others = count at something inside
    have before : (Text.split '.' label).take count ≠ [] := by
      rw [← List.length_pos_iff, List.length_take]
      omega
    have after : (Text.split '.' label).drop count ≠ [] := by
      rw [← List.length_pos_iff, List.length_drop]
      omega
    have joined := Text.toList_join_append '.' before after
    rw [List.take_append_drop, Text.join_split] at joined
    refine ⟨Text.join '.' ((Text.split '.' label).drop count), String.toList_inj.mp ?_⟩
    simp [joined, String.toList_append]

theorem withoutPrefix_append (stem rest : String) :
    withoutPrefix (some stem) (stem ++ "." ++ rest) = rest := by
  have dropped : Text.dropStart? stem (stem ++ "." ++ rest) = some ("." ++ rest) :=
    Text.dropStart?_eq_some_iff.mpr String.append_assoc
  have dot_dropped : Text.dropStart? "." ("." ++ rest) = some rest :=
    Text.dropStart?_eq_some_iff.mpr rfl
  rw [withoutPrefix, Option.bind_some, dropped, Option.bind_some, dot_dropped, Option.getD_some]

/-- Whether a label has the prefix, if there is one, with something behind the next dot. -/
def Prefixed (stem : Option String) (label : String) : Prop :=
  ∀ start ∈ stem, ∃ rest, label = start ++ "." ++ rest

theorem prefixed_of_mem {labels : List String} {label : String} (member : label ∈ labels) :
    Prefixed (commonPrefix labels) label :=
  fun _ found => exists_rest_of_commonPrefix found member

theorem Prefixed.withoutPrefix_eq_iff {stem : Option String} {first second : String}
    (first_prefixed : Prefixed stem first) (second_prefixed : Prefixed stem second) :
    withoutPrefix stem first = withoutPrefix stem second ↔ first = second := by
  cases stem with
  | none => exact Iff.rfl
  | some start =>
    obtain ⟨first_rest, rfl⟩ := first_prefixed start rfl
    obtain ⟨second_rest, rfl⟩ := second_prefixed start rfl
    rw [withoutPrefix_append, withoutPrefix_append]
    constructor
    · exact congrArg (start ++ "." ++ ·)
    · intro same
      rw [← withoutPrefix_append start first_rest, same, withoutPrefix_append]

/-- Labels that differ still do so when the common prefix is left out. -/
theorem withoutPrefix_eq_iff {labels : List String} {first second : String}
    (first_member : first ∈ labels) (second_member : second ∈ labels) :
    withoutPrefix (commonPrefix labels) first = withoutPrefix (commonPrefix labels) second ↔
      first = second :=
  (prefixed_of_mem first_member).withoutPrefix_eq_iff (prefixed_of_mem second_member)

/-- What the package at `path` is called on a diagram. -/
def shownName (view : View) (path : String) : String :=
  withoutPrefix (commonPrefix (view.packages.map (·.label))) (Diagram.labelOf view path)

/-! ### Lines -/

/-- How the title goes on: nothing, or the prefix that the names on the diagram lack. -/
def titleEnding : Option String → String
  | none => ""
  | some stem => "\\n<size:12>" ++ stem ++ ".*</size>"

theorem titleLine_eq (style : Style) (viewName : String) (stem : Option String) :
    titleLine style viewName stem =
      "title " ++ Diagram.title style.projectName viewName ++ titleEnding stem := by
  cases stem with
  | none => exact String.append_empty.symm
  | some stem => simp only [titleLine, titleEnding, String.append_assoc]

theorem packageLine_eq (style : Style) (shown : String → String) (package : ViewPackage) :
    packageLine style shown package =
      "package \"" ++ shown package.path ++ "\" " ++ style.color package.state := by
  -- Quotes are put around the name alone, so the texts beside it come in two pieces each.
  have opened : "package " ++ "\"" = "package \"" := by decide
  have closed : "\"" ++ " " = "\" " := by decide
  simp only [packageLine, quoted, ← opened, ← closed, String.append_assoc]

def arrowColor (style : Style) (state : EntityState) : String :=
  if state = .neutral then "" else " " ++ style.color state

/-- What stands behind the names of a dependency: a color if it has changed, and what its mark says.
One without a mark has its count there, in a style that shows counts. -/
def arrowEnding (style : Style) (dependency : ViewDependency) : String :=
  arrowColor style dependency.displayState ++
    match dependency.mark with
    | some mark => " : " ++ mark.label
    | none => if style.showDependencyCount then " : " ++ toString dependency.count else ""

theorem dependencyLine_eq (style : Style) (shown : String → String)
    (dependency : ViewDependency) :
    dependencyLine style shown dependency =
      "\"" ++ shown dependency.source ++ "\"-->\"" ++ shown dependency.destination ++ "\"" ++
        arrowEnding style dependency := by
  have between : "\"" ++ ("-->" ++ "\"") = "\"-->\"" := by decide
  cases marked : dependency.mark <;>
    simp only [dependencyLine, quoted, arrowEnding, arrowColor, marked, ← between,
      String.append_assoc]

theorem lines_eq (style : Style) (viewName : String) (view : View) :
    lines style viewName view =
      ["@startuml", "skinparam backgroundColor GhostWhite",
        titleLine style viewName (commonPrefix (view.packages.map (·.label)))] ++
      view.packages.map (packageLine style (shownName view)) ++
      (view.packages.flatMap (·.dependencies)).map (dependencyLine style (shownName view)) ++
      ["@enduml"] := rfl

end PackageAtlas.PlantUml
