import PackageAtlas.Proofs.View.Connected

/-!
# Views of projects and what is made of them

Comparing and labelling can be repeated in any order. However it is done, no dependency loses one
of its ends, and every mark is a short text on one line that no bare count reads like.
-/
namespace PackageAtlas

/-! ### Texts of marks -/

/-- Whether a mark is written on one line, and with a bracket, which a count does not have. -/
structure Mark.Legible (mark : Mark) : Prop where
  one_line : '\n' ∉ mark.label.toList
  bracketed : '(' ∈ mark.label.toList

namespace Text

theorem isDigit_of_mem_toString {number : Nat} {c : Char}
    (member : c ∈ (toString number).toList) : c.isDigit := by
  rw [show toString number = number.repr from rfl, Nat.toList_repr] at member
  exact Nat.isDigit_of_mem_toDigits (by decide) (by decide) member

/-- A character that is no digit is not in a number. -/
theorem not_mem_toString {c : Char} (odd : c.isDigit = false) (number : Nat) :
    c ∉ (toString number).toList := fun member =>
  absurd (isDigit_of_mem_toString member) (by simp [odd])

theorem newline_not_mem_toString (delta : Int) : '\n' ∉ (toString delta).toList := by
  cases delta with
  | ofNat number => exact not_mem_toString (by decide) number
  | negSucc number =>
    have digits := not_mem_toString (c := '\n') (by decide) (number + 1)
    rw [show toString (Int.negSucc number) = "-" ++ toString (number + 1) from rfl,
      String.toList_append, List.mem_append, not_or]
    exact ⟨by decide, digits⟩

end Text

theorem newline_not_mem_signedText (delta : Int) : '\n' ∉ (signedText delta).toList := by
  have digits := Text.newline_not_mem_toString delta
  rw [signedText]
  split
  next => exact digits
  next =>
    rw [String.toList_append, List.mem_append, not_or]
    exact ⟨by decide, digits⟩

namespace ViewDependency

def Legible (dependency : ViewDependency) : Prop :=
  ∀ mark ∈ dependency.mark, mark.Legible

theorem legible_of_bracket {dependency : ViewDependency} {mark : Mark}
    (marked : dependency.mark = some mark) {before inside : String}
    (label_eq : mark.label = before ++ " (" ++ inside ++ ")")
    (before_line : '\n' ∉ before.toList) (inside_line : '\n' ∉ inside.toList) :
    dependency.Legible := by
  intro found same
  rw [marked, Option.mem_def, Option.some.injEq] at same
  subst same
  constructor
  · rw [label_eq]
    simp [String.toList_append, before_line, inside_line]
  · rw [label_eq]
    simp [String.toList_append]

theorem legible_created (dependency : ViewDependency) : dependency.created.Legible :=
  legible_of_bracket rfl rfl (Text.not_mem_toString (by decide) _) (newline_not_mem_signedText _)

theorem legible_deleted (dependency : ViewDependency) : dependency.deleted.Legible := by
  have label_eq : dependency.deleted.mark.map (·.label) =
      some ("0" ++ " (" ++ toString (-countDelta dependency.count) ++ ")") := rfl
  obtain ⟨mark, marked, text⟩ := Option.map_eq_some_iff.mp label_eq
  exact legible_of_bracket marked text (by decide) (Text.newline_not_mem_toString _)

theorem legible_recounted (dependency baseline : ViewDependency) :
    (dependency.recounted baseline).Legible :=
  legible_of_bracket rfl rfl (Text.not_mem_toString (by decide) _) (newline_not_mem_signedText _)

theorem Legible.comparedTo {dependency : ViewDependency} (legible : dependency.Legible)
    (baseline : Option ViewDependency) : (dependency.comparedTo baseline).Legible := by
  cases baseline with
  | none => exact dependency.legible_created
  | some baseline =>
    rw [comparedTo_some]
    split
    next => exact legible
    next => exact dependency.legible_recounted baseline

end ViewDependency

namespace View

def Legible (view : View) : Prop :=
  ∀ package ∈ view.packages, ∀ dependency ∈ package.dependencies, dependency.Legible

variable {current baseline view : View}

theorem Plain.legible (plain : view.Plain) : view.Legible := by
  intro package member dependency drawn mark marked
  rw [((plain package member).unmarked drawn).2] at marked
  cases marked

theorem Legible.diff (legible : current.Legible) : (current.diff baseline).Legible := by
  intro package member dependency drawn
  rcases ViewPackage.compared_cases (mem_diff_iff.mp member) with ⟨own, old, here, -, rfl⟩ |
    ⟨own, -, -, rfl⟩ | ⟨old, -, -, rfl⟩
  · have own_legible := legible own (List.mem_of_find?_eq_some here)
    rcases List.mem_append.mp ((ViewPackage.comparedTo_perm own old).mem_iff.mp drawn) with
      kept | removed
    · obtain ⟨former, former_drawn, rfl⟩ := List.mem_map.mp kept
      exact (own_legible former former_drawn).comparedTo _
    · obtain ⟨former, -, rfl⟩ := List.mem_map.mp removed
      exact former.legible_deleted
  · obtain ⟨former, -, rfl⟩ := List.mem_map.mp drawn
    exact former.legible_created
  · obtain ⟨former, -, rfl⟩ := List.mem_map.mp drawn
    exact former.legible_deleted

theorem Legible.relabel (legible : view.Legible) (label : ViewPackage → String) :
    (view.relabel label).Legible := by
  intro package member
  obtain ⟨former, former_member, rfl⟩ := List.mem_map.mp member
  exact legible former former_member

/-- Views of projects, and what comparing and labelling makes of them. -/
inductive Derived : View → Prop
  | view {project : Project} (reachable : Project.Reachable Project.RelativeName project)
      (spec : ViewSpec) : Derived (project.view spec)
  | diff {current baseline : View} :
      Derived current → Derived baseline → Derived (current.diff baseline)
  | relabel {view : View} (label : ViewPackage → String) :
      Derived view → Derived (view.relabel label)

theorem Derived.connected (derived : view.Derived) : view.Connected := by
  induction derived with
  | view reachable spec =>
    exact reachable.logicallyPlaced.view_connected reachable.wellFormed spec
  | diff _ _ current_connected baseline_connected =>
    exact current_connected.diff baseline_connected
  | relabel label _ connected => exact connected.relabel label

theorem Derived.legible (derived : view.Derived) : view.Legible := by
  induction derived with
  | view reachable spec => exact (reachable.view_plain spec).legible
  | diff _ _ current_legible => exact current_legible.diff
  | relabel label _ legible => exact legible.relabel label

end View

end PackageAtlas
