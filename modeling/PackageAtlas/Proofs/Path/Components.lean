import PackageAtlas.LogicalPath
import PackageAtlas.Path
import PackageAtlas.Proofs.Text

/-!
# Components of composed paths

A text behind a slash adds components of its own to those of the text before. So the place of an
entry below a directory depends on its logical path alone, as long as no name is an absolute path.
-/
namespace PackageAtlas

namespace Path

/-- The components that a text adds behind a slash. -/
def innerComponents (text : List Char) : List Component :=
  (((Text.splitChars '/' text).map String.ofList).filter (!isVoid ·)).map Component.ofSegment

theorem innerComponents_nil : innerComponents [] = [] := rfl

theorem innerComponents_append (before after : List Char) :
    innerComponents (before ++ '/' :: after) = innerComponents before ++ innerComponents after := by
  simp only [innerComponents, Text.splitChars_append, List.map_append, List.filter_append]

theorem innerComponents_slash (rest : List Char) :
    innerComponents ('/' :: rest) = innerComponents rest :=
  innerComponents_append [] rest

/-- A path has its inner components behind the root or a leading dot. -/
theorem components_eq (path : Path) :
    path.components = path.parts.1.toList ++ innerComponents path.text.toList := by
  change path.parts.1.toList ++ (path.parts.2.filter (!isVoid ·)).map Component.ofSegment = _
  congr 1
  unfold parts
  split
  next rest h => rw [h, innerComponents_slash]; simp [Text.split, innerComponents]
  next h => rw [h]; decide
  next rest h =>
    rw [h, show '.' :: '/' :: rest = ['.'] ++ '/' :: rest from rfl, innerComponents_append,
      show innerComponents ['.'] = [] by decide]
    simp [Text.split, innerComponents]
  next => simp [Text.split, innerComponents]

/-- How a path starts is settled before its first slash. -/
theorem parts_append (base inner : String) (nonempty : base ≠ "") :
    (Path.mk (base ++ "/" ++ inner)).parts.1 = (Path.mk base).parts.1 := by
  have whole : (base ++ "/" ++ inner).toList = base.toList ++ '/' :: inner.toList := by
    simp [String.toList_append]
  -- A leading dot counts by the character behind it, so up to two characters are looked at.
  unfold parts
  simp only [whole]
  cases h : base.toList with
  | nil => exact absurd (String.toList_eq_nil_iff.mp h) nonempty
  | cons c rest =>
    cases rest with
    | nil => split <;> split <;> simp_all
    | cons d rest => split <;> split <;> simp_all

theorem components_append (base inner : String) (nonempty : base ≠ "") :
    (Path.mk (base ++ "/" ++ inner)).components =
      (Path.mk base).components ++ innerComponents inner.toList := by
  have whole : (base ++ "/" ++ inner).toList = base.toList ++ '/' :: inner.toList := by
    simp [String.toList_append]
  rw [components_eq, components_eq, parts_append base inner nonempty, whole,
    innerComponents_append, List.append_assoc]

/-- A slash at the end of a text is no component, so a text may follow it at once. -/
theorem components_append_of_slash (base inner : String) (slash : base.toList.getLast? = some '/') :
    (Path.mk (base ++ inner)).components =
      (Path.mk base).components ++ innerComponents inner.toList := by
  obtain ⟨start, cut⟩ := List.getLast?_eq_some_iff.mp slash
  have base_eq : base = String.ofList start ++ "/" := by
    apply String.toList_inj.mp
    simp [String.toList_append, cut]
  by_cases h : start = []
  · have root : base = "/" := by simp [base_eq, h]
    subst root
    simp [components_eq, parts, innerComponents_slash, innerComponents_nil, String.toList_append]
  · -- With its slash `base` has the components it has without, and so has the whole text.
    have nonempty : String.ofList start ≠ "" := by simpa using h
    have closed := components_append (String.ofList start) "" nonempty
    rw [String.append_empty, ← base_eq, String.toList_empty, innerComponents_nil,
      List.append_nil] at closed
    rw [closed, base_eq]
    exact components_append _ _ nonempty

theorem components_join (base : Path) (entry : String) (nonempty : base.text ≠ "")
    (relative : (Path.mk entry).isAbsolute = false) :
    (base.join ⟨entry⟩).components = base.components ++ innerComponents entry.toList := by
  unfold join
  rw [if_neg (by simp [relative])]
  split
  next h =>
    have slash : base.text.toList.getLast? = some '/' := by simpa [nonempty] using h
    exact components_append_of_slash base.text entry slash
  next => exact components_append base.text entry nonempty

theorem join_of_empty (base entry : Path) (empty : base.text = "")
    (relative : entry.isAbsolute = false) : base.join entry = entry := by
  unfold join
  simp [relative, empty]

/-! ### Places below a directory -/

/-- Whether a path below `base` lies where its logical path leads. -/
structure Placed (base path : Path) (relative : String) : Prop where
  same : path.Same (base.join ⟨relative⟩)
  empty : path.text = "" ↔ base.text = "" ∧ relative = ""
  inside : (Path.mk relative).isAbsolute = false

theorem Placed.self (base : Path) : Placed base base "" := by
  have inside : (Path.mk "").isAbsolute = false := rfl
  refine ⟨?_, by simp, inside⟩
  by_cases h : base.text = ""
  · rw [join_of_empty base _ h inside, ← h]
    rfl
  · unfold Same
    rw [components_join base "" h inside]
    simp [innerComponents_nil]

theorem isAbsolute_childPath (relative name : String)
    (inside : (Path.mk relative).isAbsolute = false) (plain : (Path.mk name).isAbsolute = false) :
    (Path.mk (LogicalPath.child relative name)).isAbsolute = false := by
  unfold LogicalPath.child
  split
  next => exact plain
  next h =>
    have nonempty : relative.toList ≠ [] := by simpa using h
    obtain ⟨c, rest, cut⟩ := List.exists_cons_of_ne_nil nonempty
    simpa [isAbsolute, String.toList_append, cut] using inside

theorem text_child_eq_empty (path : Path) (name : String)
    (plain : (Path.mk name).isAbsolute = false) :
    (path.child name).text = "" ↔ path.text = "" ∧ name = "" := by
  unfold child join
  rw [if_neg (by simp [plain])]
  split
  · simp
  next h => simp_all

theorem innerComponents_childPath (relative name : String) :
    innerComponents (LogicalPath.child relative name).toList =
      innerComponents relative.toList ++ innerComponents name.toList := by
  unfold LogicalPath.child
  split
  next h => simp_all [innerComponents_nil]
  next => simp [String.toList_append, innerComponents_append]

/-- The entry of a directory in its place is in its place itself. -/
theorem Placed.child {base path : Path} {relative name : String}
    (placed : Placed base path relative) (plain : (Path.mk name).isAbsolute = false) :
    Placed base (path.child name) (LogicalPath.child relative name) := by
  have inside := isAbsolute_childPath relative name placed.inside plain
  have empty : (path.child name).text = "" ↔
      base.text = "" ∧ LogicalPath.child relative name = "" := by
    rw [text_child_eq_empty path name plain, placed.empty]
    unfold LogicalPath.child
    split <;> simp_all
  refine ⟨?_, empty, inside⟩
  -- The empty path takes an entry without a slash, so it is a case of its own, for the directory
  -- as for the base.
  by_cases top : path.text = ""
  · obtain ⟨rfl, rfl⟩ : base = ⟨""⟩ ∧ relative = "" := by
      obtain ⟨h, rfl⟩ := placed.empty.mp top
      exact ⟨congrArg Path.mk h, rfl⟩
    rw [Path.child, join_of_empty path _ top plain, join_of_empty _ _ rfl inside]
    rfl
  · have below : (path.child name).components =
        (base.join ⟨relative⟩).components ++ innerComponents name.toList := by
      rw [← placed.same]
      exact components_join path name top plain
    unfold Same
    by_cases h : base.text = ""
    · have nonempty : relative ≠ "" := fun empty => top (placed.empty.mpr ⟨h, empty⟩)
      rw [below, join_of_empty base _ h placed.inside, join_of_empty base _ h inside,
        LogicalPath.child, if_neg (by simpa using nonempty), components_append _ _ nonempty]
    · rw [below, components_join base relative h placed.inside, components_join base _ h inside,
        innerComponents_childPath, List.append_assoc]

/-- Two paths with one logical path are the same place. -/
theorem Placed.same_of_relative {base a b : Path} {relative : String}
    (first : Placed base a relative) (second : Placed base b relative) : a.Same b :=
  first.same.trans second.same.symm

end Path

end PackageAtlas
