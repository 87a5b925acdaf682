import Mathlib.Data.List.DropRight
import Mathlib.Data.List.Forall2
import PackageAtlas.ModuleSearch
import PackageAtlas.Proofs.FileTree.Following
import PackageAtlas.Proofs.Related

/-!
# Spellings of a path

A path can be spelled with more slashes and dots than its components need. They matter to the path
itself, which they make lead to a directory only, but not to what lies below it. So the modules
found from a directory do not depend on its spelling.
-/
namespace PackageAtlas

namespace Path

/-- The segments of a path that lead somewhere. -/
def steps (path : Path) : List String :=
  (Text.split '/' path.text).filter (!isVoid ·)

/-- Whether an absolute path leads through the given segments. -/
structure Spells (path : Path) (names : List String) : Prop where
  absolute : path.isAbsolute = true
  steps_eq : path.steps = names

theorem exists_slash_of_isAbsolute {path : Path} (absolute : path.isAbsolute = true) :
    ∃ rest, path.text.toList = '/' :: rest := by
  rw [isAbsolute, beq_iff_eq] at absolute
  exact ⟨_, List.eq_cons_of_mem_head? absolute⟩

/-- What is joined to a path comes behind the segments of it, and takes the place of a void one at
the end. -/
theorem split_join {base entry : Path} (nonempty : base.text ≠ "")
    (relative : entry.isAbsolute = false) :
    (base.join entry).isAbsolute = base.isAbsolute ∧ ∃ segments,
      Text.split '/' (base.join entry).text = segments ++ Text.split '/' entry.text ∧
        (Text.split '/' base.text = segments ∨ Text.split '/' base.text = segments ++ [""]) := by
  obtain ⟨first, rest, text⟩ := List.exists_cons_of_ne_nil
    (fun empty => nonempty (String.toList_eq_nil_iff.mp empty) : base.text.toList ≠ [])
  rw [join, if_neg (by simp [relative])]
  split
  next closed =>
    -- The slash at the end is the one between the two.
    rw [Bool.or_eq_true, String.isEmpty_iff, or_iff_right nonempty, beq_iff_eq] at closed
    obtain ⟨start, cut⟩ := List.getLast?_eq_some_iff.mp closed
    refine ⟨by simp [isAbsolute, String.toList_append, text],
      (Text.splitChars '/' start).map String.ofList, ?_, Or.inr ?_⟩
    · simp [Text.split, String.toList_append, cut, Text.splitChars_append]
    · simp [Text.split, cut, Text.splitChars_append, Text.splitChars]
  next =>
    refine ⟨by simp [isAbsolute, String.toList_append, text], Text.split '/' base.text, ?_,
      Or.inl rfl⟩
    simp [Text.split, String.toList_append, Text.splitChars_append]

/-- A void segment at the end is no step. -/
theorem filter_of_split_cases {path : Path} {segments : List String}
    (cut : Text.split '/' path.text = segments ∨ Text.split '/' path.text = segments ++ [""]) :
    segments.filter (!isVoid ·) = path.steps := by
  rcases cut with whole | closed
  · rw [steps, whole]
  · rw [steps, closed, List.filter_append]
    exact (List.append_nil _).symm

theorem nonempty_of_isAbsolute {path : Path} (absolute : path.isAbsolute = true) :
    path.text ≠ "" := by
  intro empty
  rw [isAbsolute, empty] at absolute
  cases absolute

theorem Spells.join {base entry : Path} {names : List String} (spells : base.Spells names)
    (relative : entry.isAbsolute = false) : (base.join entry).Spells (names ++ entry.steps) := by
  obtain ⟨absolute, segments, joined, cut⟩ :=
    split_join (nonempty_of_isAbsolute spells.absolute) relative
  refine ⟨absolute.trans spells.absolute, ?_⟩
  rw [steps, joined, List.filter_append, filter_of_split_cases cut, spells.steps_eq]
  rfl

/-! ### Components -/

theorem ofSegment_injective : Function.Injective Component.ofSegment := by
  intro a b same
  unfold Component.ofSegment at same
  split at same <;> split at same <;> simp_all

theorem ofSegment_ne_root (segment : String) : Component.ofSegment segment ≠ .root := by
  unfold Component.ofSegment
  split <;> simp

theorem Spells.components {path : Path} {names : List String} (spells : path.Spells names) :
    path.components = .root :: names.map Component.ofSegment := by
  obtain ⟨rest, text⟩ := exists_slash_of_isAbsolute spells.absolute
  have steps_eq := spells.steps_eq
  rw [steps, Text.split, text, Text.splitChars, if_pos rfl, List.map_cons,
    List.filter_cons_of_neg (by decide)] at steps_eq
  rw [Path.components, parts, text]
  simp [Text.split, steps_eq]

theorem spells_of_components {path : Path} {rest : List Component}
    (rooted : path.components = .root :: rest) : path.Spells path.steps := by
  refine ⟨?_, rfl⟩
  rw [components_eq, parts] at rooted
  split at rooted
  next text => simp [isAbsolute, text]
  next => simp at rooted
  next => simp at rooted
  next =>
    rw [Option.toList_none, List.nil_append] at rooted
    have member : Component.root ∈ innerComponents path.text.toList := by
      rw [rooted]
      exact List.mem_cons_self
    obtain ⟨segment, -, is_root⟩ := List.mem_map.mp member
    exact absurd is_root (ofSegment_ne_root segment)

/-- Paths of the same components lead through the same segments. -/
theorem Spells.of_same {path other : Path} {names : List String} (spells : path.Spells names)
    (same : other.Same path) : other.Spells names := by
  have other_spells := spells_of_components (same.trans spells.components)
  have steps_eq : other.steps = names := by
    have components_eq := other_spells.components.symm.trans (same.trans spells.components)
    exact List.map_injective_iff.mpr ofSegment_injective (List.cons.inj components_eq).2
  exact ⟨other_spells.absolute, steps_eq⟩

/-- How a path may start: at the root, at a leading dot or with a name. -/
theorem parts_fst_cases (path : Path) :
    path.parts.1 = some .root ∨ path.parts.1 = some .here ∨ path.parts.1 = none := by
  unfold parts
  split <;> simp

theorem map_ofSegment_steps (path : Path) :
    path.steps.map Component.ofSegment = innerComponents path.text.toList := rfl

theorem ofSegment_ne_here (segment : String) : Component.ofSegment segment ≠ .here := by
  unfold Component.ofSegment
  split <;> simp

/-- The components of a path tell its steps. -/
theorem Same.steps_eq {a b : Path} (same : a.Same b) : a.steps = b.steps := by
  let inner (component : Component) : Bool := component ≠ .root && component ≠ .here
  have filtered (path : Path) :
      path.components.filter inner = path.steps.map Component.ofSegment := by
    have no_lead : path.parts.1.toList.filter inner = [] := by
      rcases path.parts_fst_cases with lead | lead | lead <;> rw [lead] <;> decide
    have all_inner : ∀ component ∈ path.steps.map Component.ofSegment, inner component = true := by
      refine List.forall_mem_map.mpr fun segment _ => ?_
      simp [inner, ofSegment_ne_root, ofSegment_ne_here]
    rw [components_eq, ← map_ofSegment_steps, List.filter_append, no_lead, List.nil_append,
      List.filter_eq_self.mpr all_inner]
  apply List.map_injective_iff.mpr ofSegment_injective
  rw [← filtered, ← filtered, same]

theorem isAbsolute_iff {path : Path} :
    path.isAbsolute = true ↔ ∃ rest, path.components = .root :: rest := by
  constructor
  · intro absolute
    exact ⟨_, Spells.components ⟨absolute, rfl⟩⟩
  · rintro ⟨rest, rooted⟩
    exact (spells_of_components rooted).absolute

theorem Same.isAbsolute_eq {a b : Path} (same : a.Same b) : a.isAbsolute = b.isAbsolute := by
  rw [Bool.eq_iff_iff, isAbsolute_iff, isAbsolute_iff, same]

/-- A path that starts with a name has no void segment in front. -/
theorem opening_of_parts {path : Path} (nonempty : path.text ≠ "") {segments : List String}
    (parts_eq : path.parts = (none, segments)) :
    ∀ segment ∈ segments.head?, isVoid segment = false := by
  intro segment first
  unfold parts at parts_eq
  split at parts_eq
  next => cases parts_eq
  next => cases parts_eq
  next => cases parts_eq
  next not_rooted not_dot not_here =>
    cases parts_eq
    obtain ⟨front, behind, cut⟩ :=
      List.exists_cons_of_ne_nil (Text.split_ne_nil '/' path.text)
    rw [cut, List.head?_cons, Option.mem_def, Option.some.injEq] at first
    subst first
    have joined := Text.join_split '/' path.text
    rw [cut] at joined
    rw [Bool.eq_false_iff]
    intro void
    rcases Bool.or_eq_true_iff.mp void with empty | dot
    · -- An empty segment in front is all of the text, or there is a slash behind it.
      rw [decide_eq_true_iff.mp empty] at joined
      cases behind with
      | nil => exact nonempty joined.symm
      | cons next others =>
        exact not_rooted (Text.joinChars '/' (next.toList :: others.map String.toList))
          (by rw [← joined]; simp [Text.join, Text.joinChars])
    · rw [decide_eq_true_iff.mp dot] at joined
      cases behind with
      | nil => exact not_dot (by rw [← joined]; rfl)
      | cons next others =>
        exact not_here (Text.joinChars '/' (next.toList :: others.map String.toList))
          (by rw [← joined]; simp [Text.join, Text.joinChars])

theorem components_eq_nil_iff {path : Path} : path.components = [] ↔ path.text = "" := by
  constructor
  · intro none_left
    by_contra nonempty
    have lead : path.parts.1 = none := by
      rcases path.parts_fst_cases with lead | lead | lead
      · simp [components_eq, lead] at none_left
      · simp [components_eq, lead] at none_left
      · exact lead
    obtain ⟨first, rest, cut⟩ : ∃ first rest, path.parts.2 = first :: rest := by
      unfold parts at lead ⊢
      split at lead
      next => cases lead
      next => cases lead
      next => cases lead
      next => exact List.exists_cons_of_ne_nil (Text.split_ne_nil '/' path.text)
    have parts_eq : path.parts = (none, first :: rest) := Prod.ext lead cut
    have not_void := opening_of_parts nonempty parts_eq first rfl
    simp [components, parts_eq, not_void] at none_left
  · intro empty
    obtain ⟨text⟩ := path
    rw [show text = "" from empty]
    decide

theorem Same.text_eq_empty_iff {a b : Path} (same : a.Same b) : a.text = "" ↔ b.text = "" := by
  rw [← components_eq_nil_iff, ← components_eq_nil_iff, same]

theorem Same.child {a b : Path} (same : a.Same b) (name : String) :
    (a.child name).Same (b.child name) := by
  rw [Path.child, Path.child]
  cases absolute : (Path.mk name).isAbsolute
  · by_cases empty : a.text = ""
    · rw [join_of_empty a _ empty absolute,
        join_of_empty b _ (same.text_eq_empty_iff.mp empty) absolute]
      rfl
    · have below := components_join a name empty absolute
      rw [same, ← components_join b name (mt same.text_eq_empty_iff.mpr empty) absolute] at below
      exact below
  · rw [join, join, if_pos absolute, if_pos absolute]
    rfl

/-! ### Directories around -/

theorem exists_dropVoidEnd (segments : List String) :
    (dropVoidEnd segments).filter (!isVoid ·) = segments.filter (!isVoid ·) ∧
      (dropVoidEnd segments = [] ∨
        ∃ before last, dropVoidEnd segments = before ++ [last] ∧ isVoid last = false) := by
  induction segments using List.reverseRecOn with
  | nil => exact ⟨rfl, Or.inl rfl⟩
  | append_singleton before last ih =>
    have dropped : dropVoidEnd (before ++ [last]) =
        if isVoid last then dropVoidEnd before else before ++ [last] :=
      List.rdropWhile_concat isVoid before last
    rw [dropped]
    split
    next void =>
      rw [List.filter_append, List.filter_cons_of_neg (by simp [void]), List.filter_nil,
        List.append_nil]
      exact ih
    next not_void => exact ⟨rfl, Or.inr ⟨before, last, rfl, Bool.eq_false_iff.mpr not_void⟩⟩

theorem dropVoidEnd_subset (segments : List String) : dropVoidEnd segments ⊆ segments :=
  (List.rdropWhile_prefix isVoid segments).subset

theorem steps_ofParts {segments : List String}
    (clean : ∀ segment ∈ segments, '/' ∉ segment.toList) :
    (ofParts (some .root) segments).Spells (segments.filter (!isVoid ·)) := by
  have text : (ofParts (some .root) segments).text.toList =
      '/' :: (Text.join '/' segments).toList := by
    simp [ofParts, String.toList_append]
  refine ⟨by simp [isAbsolute, text], ?_⟩
  have cut : Text.split '/' (ofParts (some .root) segments).text =
      "" :: Text.split '/' (Text.join '/' segments) := by
    rw [Text.split, Text.split, text, Text.splitChars, if_pos rfl]
    rfl
  rw [steps, cut, List.filter_cons_of_neg (by decide)]
  by_cases empty : segments = []
  · rw [empty]
    decide
  · rw [Text.split_join empty clean]

/-- What an absolute path is cut into behind its root. -/
theorem Spells.parts {path : Path} {names : List String} (spells : path.Spells names) :
    ∃ segments, path.parts = (some .root, segments) ∧ segments.filter (!isVoid ·) = names ∧
      ∀ segment ∈ segments, '/' ∉ segment.toList := by
  obtain ⟨rest, text⟩ := exists_slash_of_isAbsolute spells.absolute
  have steps_eq := spells.steps_eq
  rw [steps, Text.split, text, Text.splitChars, if_pos rfl, List.map_cons,
    List.filter_cons_of_neg (by decide)] at steps_eq
  refine ⟨(Text.splitChars '/' rest).map String.ofList, ?_, steps_eq, ?_⟩
  · rw [Path.parts, text]
    simp [Text.split]
  · intro segment member
    obtain ⟨piece, inside, rfl⟩ := List.mem_map.mp member
    rw [String.toList_ofList]
    exact Text.not_mem_of_mem_splitChars inside

theorem components_ofParts {lead : Option Component} {segments : List String}
    (start : lead = some .root ∨ lead = some .here ∨ lead = none)
    (clean : ∀ segment ∈ segments, '/' ∉ segment.toList)
    (opening : lead = none → ∀ segment ∈ segments.head?, isVoid segment = false) :
    (ofParts lead segments).components =
      lead.toList ++ (segments.filter (!isVoid ·)).map Component.ofSegment := by
  by_cases empty : segments = []
  · subst empty
    rcases start with rfl | rfl | rfl <;> decide
  · have cut := Text.split_join empty clean
    rcases start with rfl | rfl | rfl
    · exact (steps_ofParts clean).components
    · have text : (ofParts (some .here) segments).text.toList =
          '.' :: '/' :: (Text.join '/' segments).toList := by
        simp [ofParts, empty, String.toList_append]
      have parts_eq : (ofParts (some .here) segments).parts = (some .here, segments) := by
        rw [Path.parts, text]
        simp only [String.ofList_toList, cut]
      rw [components, parts_eq]
    · have parts_eq : (ofParts none segments).parts = (none, segments) := by
        obtain ⟨first, rest, rfl⟩ := List.exists_cons_of_ne_nil empty
        have not_void := opening rfl first rfl
        unfold Path.parts
        -- A root or a leading dot would make the first segment void.
        split
        next behind text =>
          rw [Text.split, show (Text.join '/' (first :: rest)).toList = _ from text,
            Text.splitChars, if_pos rfl] at cut
          rw [← (List.cons.inj cut).1] at not_void
          exact absurd not_void (by decide)
        next text =>
          rw [Text.split, show (Text.join '/' (first :: rest)).toList = _ from text] at cut
          rw [← (List.cons.inj cut).1] at not_void
          exact absurd not_void (by decide)
        next behind text =>
          rw [Text.split, show (Text.join '/' (first :: rest)).toList = ['.'] ++ '/' :: behind
            from text, Text.splitChars_append] at cut
          rw [← (List.cons.inj cut).1] at not_void
          exact absurd not_void (by decide)
        next => exact congrArg (Prod.mk none) cut
      rw [components, parts_eq]

theorem clean_parts (path : Path) : ∀ segment ∈ path.parts.2, '/' ∉ segment.toList := by
  intro segment member
  unfold Path.parts at member
  split at member
  next => exact Text.not_mem_of_mem_split member
  next => cases member
  next => exact Text.not_mem_of_mem_split member
  next => exact Text.not_mem_of_mem_split member

/-- What is left of a path that starts with a name still starts with it. -/
theorem opening_of_prefix {path : Path} {segments kept : List String}
    (parts_eq : path.parts = (none, segments)) (inside : kept <+: dropVoidEnd segments) :
    ∀ segment ∈ kept.head?, isVoid segment = false := by
  intro segment first
  have nonempty : path.text ≠ "" := by
    intro empty
    rw [show path = ⟨""⟩ from congrArg Path.mk empty] at parts_eq
    cases parts_eq
    have nothing_left : dropVoidEnd (Text.split '/' "") = [] := by decide
    rw [nothing_left, List.prefix_nil] at inside
    rw [inside] at first
    cases first
  obtain ⟨rest, whole⟩ := inside.trans (List.rdropWhile_prefix isVoid segments)
  apply opening_of_parts nonempty parts_eq
  rw [← whole, List.head?_append, first]
  rfl

/-- The parent has one component less. What has no parent is empty, or the root alone. -/
theorem parent?_cases (path : Path) :
    (path.parent? = none ∧ (path.components = [] ∨ path.components = [.root])) ∨
      ∃ parent last, path.parent? = some parent ∧
        path.components = parent.components ++ [last] ∧ last ≠ .root := by
  have start := path.parts_fst_cases
  have clean := path.clean_parts
  have components_eq : path.components = path.parts.1.toList ++
      (path.parts.2.filter (!isVoid ·)).map Component.ofSegment := rfl
  rw [Path.parent?, components_eq]
  rcases cut : path.parts with ⟨lead, segments⟩
  rw [cut] at start clean
  obtain ⟨kept, nothing | ⟨before, last, dropped, not_void⟩⟩ := exists_dropVoidEnd segments
  · -- Nothing stands behind the first component.
    rw [nothing] at kept
    simp only [nothing, ← kept]
    rcases start with rfl | rfl | rfl
    · exact Or.inl ⟨rfl, Or.inr rfl⟩
    · exact Or.inr ⟨⟨""⟩, .here, rfl, rfl, by decide⟩
    · exact Or.inl ⟨rfl, Or.inl rfl⟩
  · have inside : dropVoidEnd before <+: dropVoidEnd segments := by
      rw [dropped]
      exact (List.rdropWhile_prefix isVoid before).trans (List.prefix_append before [last])
    have kept_clean : ∀ segment ∈ dropVoidEnd before, '/' ∉ segment.toList := fun segment member =>
      clean segment (dropVoidEnd_subset segments (inside.subset member))
    have opening : lead = none →
        ∀ segment ∈ (dropVoidEnd before).head?, isVoid segment = false := by
      rintro rfl
      exact opening_of_prefix cut inside
    refine Or.inr ⟨ofParts lead (dropVoidEnd before), Component.ofSegment last, ?_, ?_,
      ofSegment_ne_root last⟩
    · simp only [dropped, List.dropLast_concat]
      split <;> simp_all
    · rw [components_ofParts start kept_clean opening, (exists_dropVoidEnd before).1, ← kept,
        dropped, List.filter_append, List.filter_cons_of_pos (by simp [not_void])]
      simp

theorem Same.parent? {a b : Path} (same : a.Same b) : Option.Rel Same a.parent? b.parent? := by
  have not_few {above : List Component} {last : Component} (inner : last ≠ .root) :
      ¬ (above ++ [last] = [] ∨ above ++ [last] = [.root]) := by
    rintro (empty | alone)
    · simp at empty
    · exact inner (by simpa using congrArg List.getLast? alone)
  rcases a.parent?_cases with ⟨none_a, few_a⟩ | ⟨above_a, last_a, parent_a, cut_a, inner_a⟩ <;>
    rcases b.parent?_cases with ⟨none_b, few_b⟩ | ⟨above_b, last_b, parent_b, cut_b, inner_b⟩
  · rw [none_a, none_b]
    exact .none
  · rw [same, cut_b] at few_a
    exact absurd few_a (not_few inner_b)
  · rw [← same, cut_a] at few_b
    exact absurd few_b (not_few inner_a)
  · rw [parent_a, parent_b]
    rw [Same, cut_a, cut_b] at same
    exact .some (List.append_inj' same rfl).1

theorem Same.lineage {a b : Path} (same : a.Same b) : List.Forall₂ Same a.lineage b.lineage := by
  have within (bound : Nat) {a b : Path} (same : a.Same b) :
      List.Forall₂ Same (a.lineageWithin bound) (b.lineageWithin bound) := by
    induction bound generalizing a b with
    | zero => exact .cons same .nil
    | succ bound ih =>
      have parents := same.parent?
      rw [lineageWithin, lineageWithin]
      generalize a.parent? = x at parents
      generalize b.parent? = y at parents
      cases parents with
      | none => exact .cons same .nil
      | some above => exact .cons same (ih above)
  rw [Path.lineage, Path.lineage, show a.components = b.components from same]
  exact within _ same

end Path

/-! ### Where they lead -/

namespace FileTree

variable {tree : FileTree}

private theorem walkWith_void_between {follow : Place → Path → List String → Option Place}
    {void : String} (is_void : Path.isVoid void = true) {after : List String} (more : after ≠ [])
    (follows : ∀ place target rest,
      follow place target (rest ++ void :: after) = follow place target (rest ++ after))
    (before : List String) (place : Place) :
    tree.walkWith follow place (before ++ void :: after) =
      tree.walkWith follow place (before ++ after) := by
  induction before generalizing place with
  | nil =>
    -- The segment behind it needs a directory just as well.
    obtain ⟨next, rest, rfl⟩ := List.exists_cons_of_ne_nil more
    rw [List.nil_append, List.nil_append, walkWith]
    by_cases directory : place.node.isDirectory
    · rw [if_neg (by simp [directory]), if_pos is_void]
    · rw [if_pos (by simp [directory]), walkWith, if_pos (by simp [directory])]
  | cons segment rest ih =>
    rw [List.cons_append, List.cons_append, walkWith, walkWith]
    simp only [ih, follows]

/-- A void segment with another one behind it makes no difference. -/
theorem walk_void_between (links : Nat) {void : String} (is_void : Path.isVoid void = true)
    {after : List String} (more : after ≠ []) (before : List String) (place : Place) :
    tree.walk links place (before ++ void :: after) = tree.walk links place (before ++ after) := by
  induction links generalizing before place with
  | zero => exact walkWith_void_between is_void more (fun _ _ _ => rfl) before place
  | succ links ih =>
    refine walkWith_void_between is_void more (fun place target rest => ?_) before place
    dsimp only
    rw [← List.append_assoc, ← List.append_assoc, ih]

theorem walk_steps (links : Nat) {after : List String} (more : after ≠ [])
    (before segments : List String) (place : Place) :
    tree.walk links place (before ++ segments ++ after) =
      tree.walk links place (before ++ segments.filter (!Path.isVoid ·) ++ after) := by
  induction segments generalizing before with
  | nil => rfl
  | cons segment rest ih =>
    by_cases void : Path.isVoid segment
    · rw [List.filter_cons_of_neg (by simp [void]), ← ih, List.append_assoc, List.cons_append,
        walk_void_between links void (by simp [more]), ← List.append_assoc]
    · rw [List.filter_cons_of_pos (by simp [void])]
      have onward := ih (before ++ [segment])
      simpa only [List.append_assoc, List.singleton_append] using onward

theorem locate?_eq_bind {path : Path} (nonempty : path.text ≠ "") :
    tree.locate? path =
      (tree.start? path).bind (tree.walk linkLimit · (Text.split '/' path.text)) := by
  rw [locate?, if_neg (by rwa [String.isEmpty_iff])]
  cases tree.start? path <;> rfl

theorem nonempty_of_locate? {path : Path} {place : Place} (found : tree.locate? path = some place) :
    path.text ≠ "" := by
  intro empty
  rw [locate?, if_pos (String.isEmpty_iff.mpr empty)] at found
  cases found

/-- What is joined to a path is found behind the steps of it. -/
theorem locate?_join {base entry : Path} (nonempty : base.text ≠ "")
    (relative : entry.isAbsolute = false) :
    tree.locate? (base.join entry) =
      (tree.start? base).bind
        (tree.walk linkLimit · (base.steps ++ Text.split '/' entry.text)) := by
  obtain ⟨same_start, segments, joined, cut⟩ := Path.split_join nonempty relative
  have joined_nonempty : (base.join entry).text ≠ "" := by
    rw [Path.join, if_neg (by simp [relative])]
    split <;> simp [nonempty]
  rw [locate?_eq_bind joined_nonempty, start?, same_start, joined,
    ← Path.filter_of_split_cases cut]
  exact congrArg _ (funext fun place =>
    walk_steps linkLimit (Text.split_ne_nil '/' entry.text) [] segments place)

end FileTree

namespace Path

variable {tree : FileTree} {a b : Path}

/-- Entries of one directory are the same, however it is spelled. -/
theorem Same.locate?_child (same : a.Same b) (name : String) :
    tree.locate? (a.child name) = tree.locate? (b.child name) := by
  rw [Path.child, Path.child]
  cases absolute : (Path.mk name).isAbsolute
  · by_cases empty : a.text = ""
    · rw [join_of_empty a _ empty absolute,
        join_of_empty b _ (same.text_eq_empty_iff.mp empty) absolute]
    · rw [FileTree.locate?_join empty absolute,
        FileTree.locate?_join (mt same.text_eq_empty_iff.mpr empty) absolute, FileTree.start?,
        FileTree.start?, same.isAbsolute_eq, same.steps_eq]
  · rw [Path.join, Path.join, if_pos absolute, if_pos absolute]

theorem Same.isFile_child (same : a.Same b) (name : String) :
    tree.isFile (a.child name) = tree.isFile (b.child name) := by
  rw [FileTree.isFile, FileTree.isFile, same.locate?_child]

theorem Same.importRoot (same : a.Same b) : (tree.importRoot a).Same (tree.importRoot b) := by
  -- Both look for the first directory around them that is no package.
  have package_eq (c d : Path) (here : c.Same d) :
      (!tree.isPackage c) = !tree.isPackage d :=
    congrArg (!·) (here.isFile_child packageMarker)
  have first := rel_find? package_eq same.lineage
  have last {around others : List Path} (same_lists : List.Forall₂ Same around others)
      {default other : Path} (ends : default.Same other) :
      (around.getLastD default).Same (others.getLastD other) := by
    induction same_lists generalizing default other with
    | nil => exact ends
    | cons here _ ih =>
      rw [List.getLastD_cons, List.getLastD_cons]
      exact ih here
  rw [FileTree.importRoot, FileTree.importRoot]
  generalize a.lineage.find? (!tree.isPackage ·) = x at first
  generalize b.lineage.find? (!tree.isPackage ·) = y at first
  cases first with
  | none => exact last same.lineage same
  | some here => exact here

/-- Modules below a directory are the same files, however it is spelled. -/
theorem Same.moduleIn? (same : a.Same b) (parts : List String) :
    (tree.moduleIn? a parts).map tree.canonicalOrSelf =
      (tree.moduleIn? b parts).map tree.canonicalOrSelf := by
  have canonical_eq {c d : Path} (located : tree.locate? c = tree.locate? d)
      (file : tree.isFile d = true) : tree.canonicalOrSelf c = tree.canonicalOrSelf d := by
    obtain ⟨place, found, -⟩ := (Option.any_eq_true _ _).mp file
    simp [FileTree.canonicalOrSelf, FileTree.canonical?, located, found]
  induction parts generalizing a b with
  | nil => rfl
  | cons name rest ih =>
    cases rest with
    | nil =>
      have inner := same.child name
      rw [FileTree.moduleIn?, FileTree.moduleIn?]
      simp only [inner.isFile_child, same.isFile_child]
      split
      next marker => exact congrArg some (canonical_eq (inner.locate?_child _) marker)
      next =>
        split
        next source => exact congrArg some (canonical_eq (same.locate?_child _) source)
        next => rfl
    | cons next others =>
      have onward (directory : Path) : tree.moduleIn? directory (name :: next :: others) =
          if tree.isDirectory (directory.child name) then
            tree.moduleIn? (directory.child name) (next :: others)
          else none := rfl
      rw [onward, onward, FileTree.isDirectory, FileTree.isDirectory, same.locate?_child]
      split
      next => exact ih (same.child name)
      next => rfl

end Path

end PackageAtlas
