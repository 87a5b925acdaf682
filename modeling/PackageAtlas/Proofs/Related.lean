import Mathlib.Data.List.Forall2

/-!
# Lists that are related element by element

What is found in one of two related lists is related to what is found in the other.
-/
namespace PackageAtlas

variable {α β γ δ : Type} {R : α → β → Prop} {S : γ → δ → Prop} {first : List α} {second : List β}

theorem map_eq_of_rel {f : α → γ} {g : β → γ} (alike : ∀ a b, R a b → f a = g b) {x : Option α}
    {y : Option β} (related : Option.Rel R x y) : x.map f = y.map g := by
  cases related with
  | none => rfl
  | some here => exact congrArg some (alike _ _ here)

theorem rel_getElem? (lists : List.Forall₂ R first second) (index : Nat) :
    Option.Rel R first[index]? second[index]? := by
  induction lists generalizing index with
  | nil => exact .none
  | cons here _ ih =>
    cases index with
    | zero => exact .some here
    | succ index => exact ih index

theorem rel_find? {p : α → Bool} {q : β → Bool} (alike : ∀ a b, R a b → p a = q b)
    (lists : List.Forall₂ R first second) : Option.Rel R (first.find? p) (second.find? q) := by
  induction lists with
  | nil => exact .none
  | @cons a b _ _ here _ ih =>
    rw [List.find?_cons, List.find?_cons, alike a b here]
    cases q b with
    | true => exact .some here
    | false => exact ih

theorem rel_findSome? {f : α → Option γ} {g : β → Option δ}
    (alike : ∀ a b, R a b → Option.Rel S (f a) (g b)) (lists : List.Forall₂ R first second) :
    Option.Rel S (first.findSome? f) (second.findSome? g) := by
  induction lists with
  | nil => exact .none
  | @cons a b _ _ here _ ih =>
    have found := alike a b here
    rw [List.findSome?_cons, List.findSome?_cons]
    generalize f a = x at found
    generalize g b = y at found
    cases found with
    | none => exact ih
    | some related => exact .some related

theorem flatMap_eq_of_rel {f : α → List γ} {g : β → List γ} (alike : ∀ a b, R a b → f a = g b)
    (lists : List.Forall₂ R first second) : first.flatMap f = second.flatMap g := by
  induction lists with
  | nil => rfl
  | cons here _ ih => rw [List.flatMap_cons, List.flatMap_cons, alike _ _ here, ih]

theorem filterMap_eq_of_rel {f : α → Option γ} {g : β → Option γ}
    (alike : ∀ a b, R a b → f a = g b) (lists : List.Forall₂ R first second) :
    first.filterMap f = second.filterMap g := by
  induction lists with
  | nil => rfl
  | cons here _ ih => rw [List.filterMap_cons, List.filterMap_cons, alike _ _ here, ih]

theorem rel_filterMap_self {f : α → Option γ} {g : α → Option δ} {elements : List α}
    (alike : ∀ a ∈ elements, Option.Rel S (f a) (g a)) :
    List.Forall₂ S (elements.filterMap f) (elements.filterMap g) := by
  have themselves : List.Forall₂ (fun a b => a = b ∧ a ∈ elements) elements elements :=
    List.forall₂_same.mpr fun a member => ⟨rfl, member⟩
  refine List.rel_filterMap ?_ themselves
  rintro a _ ⟨rfl, member⟩
  exact alike a member

theorem rel_findSome?_self {f : α → Option γ} {g : α → Option δ} {elements : List α}
    (alike : ∀ a ∈ elements, Option.Rel S (f a) (g a)) :
    Option.Rel S (elements.findSome? f) (elements.findSome? g) := by
  have themselves : List.Forall₂ (fun a b => a = b ∧ a ∈ elements) elements elements :=
    List.forall₂_same.mpr fun a member => ⟨rfl, member⟩
  refine rel_findSome? ?_ themselves
  rintro a _ ⟨rfl, member⟩
  exact alike a member

theorem rel_modify {f : α → α} {g : β → β} (alike : ∀ a b, R a b → R (f a) (g b))
    (lists : List.Forall₂ R first second) (index : Nat) :
    List.Forall₂ R (first.modify index f) (second.modify index g) := by
  induction lists generalizing index with
  | nil => simp
  | @cons a b _ _ here later ih =>
    cases index with
    | zero => simpa using ⟨alike a b here, later⟩
    | succ index => simpa using ⟨here, ih index⟩

end PackageAtlas
