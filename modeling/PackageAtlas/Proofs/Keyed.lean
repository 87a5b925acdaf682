import Mathlib.Data.List.Forall2
import Mathlib.Data.List.Nodup

/-!
# Lists by key

In a list whose elements have different keys at most one element is found at each key. When the keys
ascend, what is found at each of them determines the whole list.
-/
namespace PackageAtlas

variable {α β : Type} {key : α → String} {otherKey : β → String}

theorem nodup_keys_of_ascending {elements : List α}
    (ascending : elements.Pairwise (key · < key ·)) : (elements.map key).Nodup := by
  apply List.pairwise_map.mpr
  refine ascending.imp ?_
  intro first second before same
  rw [same] at before
  exact String.lt_irrefl _ before

theorem find?_key_eq_some_iff {elements : List α} (nodup : (elements.map key).Nodup) {k : String}
    {element : α} :
    elements.find? (key · = k) = some element ↔ element ∈ elements ∧ key element = k := by
  constructor
  · intro found
    exact ⟨List.mem_of_find?_eq_some found, by simpa using List.find?_some found⟩
  · rintro ⟨member, rfl⟩
    obtain ⟨other, found⟩ : ∃ other, elements.find? (key · = key element) = some other := by
      apply Option.isSome_iff_exists.mp
      rw [List.find?_isSome]
      exact ⟨element, member, by simp⟩
    have other_member := List.mem_of_find?_eq_some found
    have same_key : key other = key element := by simpa using List.find?_some found
    rw [found, List.inj_on_of_nodup_map nodup other_member member same_key]

/-- How a list is ordered does not matter for what is found in it. -/
theorem find?_key_perm {first second : List α} (perm : first.Perm second)
    (nodup : (first.map key).Nodup) (k : String) :
    first.find? (key · = k) = second.find? (key · = k) := by
  have second_nodup := (perm.map key).nodup_iff.mp nodup
  ext element
  rw [find?_key_eq_some_iff nodup, find?_key_eq_some_iff second_nodup, perm.mem_iff]

theorem find?_key_filter {elements : List α} (nodup : (elements.map key).Nodup) (keep : α → Bool)
    (k : String) :
    (elements.filter keep).find? (key · = k) = (elements.find? (key · = k)).filter keep := by
  have kept_nodup : ((elements.filter keep).map key).Nodup :=
    nodup.sublist (List.filter_sublist.map key)
  ext element
  rw [find?_key_eq_some_iff kept_nodup, Option.filter_eq_some_iff, find?_key_eq_some_iff nodup,
    List.mem_filter]
  exact and_right_comm

/-- Elements that keep their keys are found where they were. -/
theorem find?_key_map {elements : List α} {f : α → β}
    (keeps : ∀ element, otherKey (f element) = key element) (k : String) :
    (elements.map f).find? (otherKey · = k) = (elements.find? (key · = k)).map f := by
  rw [List.find?_map]
  congr 2
  funext element
  exact congrArg (fun found => decide (found = k)) (keeps element)

theorem find?_key_cons {first : α} {rest : List α} (k : String) :
    (first :: rest).find? (key · = k) =
      if key first = k then some first else rest.find? (key · = k) := by
  rw [List.find?_cons]
  by_cases same : key first = k <;> simp [same]

theorem find?_key_of_before {first : α} {rest : List α}
    (ascending : (first :: rest).Pairwise (key · < key ·)) {k : String} (before : k ≤ key first) :
    rest.find? (key · = k) = none := by
  rw [List.find?_eq_none]
  intro element member same
  have later := (List.pairwise_cons.mp ascending).1 element member
  rw [decide_eq_true_iff] at same
  rw [same] at later
  exact before later

/-- Two ascending lists with the same keys correspond element by element. -/
theorem forall₂_of_find? {R : α → β → Prop} {first : List α} {second : List β}
    (first_ascending : first.Pairwise (key · < key ·))
    (second_ascending : second.Pairwise (otherKey · < otherKey ·))
    (both : ∀ k, (first.find? (key · = k)).isSome = (second.find? (otherKey · = k)).isSome)
    (related : ∀ a ∈ first, ∀ b ∈ second, key a = otherKey b → R a b) :
    List.Forall₂ R first second := by
  induction first generalizing second with
  | nil =>
    cases second with
    | nil => exact .nil
    | cons b second =>
      have at_key := both (otherKey b)
      rw [find?_key_cons, if_pos rfl] at at_key
      cases at_key
  | cons a first ih =>
    cases second with
    | nil =>
      have at_key := both (key a)
      rw [find?_key_cons, if_pos rfl] at at_key
      cases at_key
    | cons b second =>
      -- The lesser of two different first keys would be missing in the other list.
      have same : key a = otherKey b := by
        by_contra different
        rcases String.le_total (key a) (otherKey b) with le | le
        · have at_key := both (key a)
          rw [find?_key_cons, if_pos rfl, find?_key_cons, if_neg (Ne.symm different),
            find?_key_of_before second_ascending le] at at_key
          cases at_key
        · have at_key := both (otherKey b)
          rw [find?_key_cons, if_neg different, find?_key_cons, if_pos rfl,
            find?_key_of_before first_ascending le] at at_key
          cases at_key
      refine .cons (related a List.mem_cons_self b List.mem_cons_self same)
        (ih first_ascending.of_cons second_ascending.of_cons (fun k => ?_)
          fun x in_first y in_second =>
            related x (List.mem_cons_of_mem _ in_first) y (List.mem_cons_of_mem _ in_second))
      by_cases at_head : key a = k
      · -- Neither list has the key of its first element once more.
        rw [find?_key_of_before first_ascending (at_head ▸ String.le_refl _),
          find?_key_of_before second_ascending (same ▸ at_head ▸ String.le_refl _)]
        rfl
      · have at_key := both k
        rwa [find?_key_cons, if_neg at_head, find?_key_cons, if_neg (same ▸ at_head)] at at_key

/-- An ascending list is determined by what is found at each key. -/
theorem eq_of_find? {first second : List α} (first_ascending : first.Pairwise (key · < key ·))
    (second_ascending : second.Pairwise (key · < key ·))
    (same : ∀ k, first.find? (key · = k) = second.find? (key · = k)) : first = second := by
  rw [← List.forall₂_eq_eq_eq]
  refine forall₂_of_find? first_ascending second_ascending (fun k => by rw [same k]) ?_
  intro a in_first b in_second same_key
  have found := (find?_key_eq_some_iff (nodup_keys_of_ascending first_ascending)).mpr
    ⟨in_first, same_key⟩
  have found_too := (find?_key_eq_some_iff (nodup_keys_of_ascending second_ascending)).mpr
    ⟨in_second, rfl⟩
  exact Option.some.inj (found.symm.trans ((same _).trans found_too))

/-- Two lists in one strict order are equal if they have the same elements. -/
theorem eq_of_mem_iff {r : α → α → Prop} (asymm : ∀ a b, r a b → ¬ r b a)
    {first second : List α} (first_ordered : first.Pairwise r) (second_ordered : second.Pairwise r)
    (mem_iff : ∀ a, a ∈ first ↔ a ∈ second) : first = second := by
  have nodup {elements : List α} (ordered : elements.Pairwise r) : elements.Nodup := by
    refine ordered.imp ?_
    rintro a _ before rfl
    exact asymm a a before before
  have perm : first.Perm second :=
    (List.perm_ext_iff_of_nodup (nodup first_ordered) (nodup second_ordered)).mpr mem_iff
  exact perm.eq_of_pairwise (fun a b _ _ before after => absurd after (asymm a b before))
    first_ordered second_ordered

/-- Sorting puts no key behind a greater one. That no key comes twice makes the order strict. -/
theorem ascending_mergeSort {elements : List α} (nodup : (elements.map key).Nodup) :
    (elements.mergeSort fun a b => decide (key a ≤ key b)).Pairwise (key · < key ·) := by
  have sorted : (elements.mergeSort fun a b => decide (key a ≤ key b)).Pairwise fun a b =>
      decide (key a ≤ key b) = true := by
    apply List.pairwise_mergeSort
    · intro a b c first second
      rw [decide_eq_true_iff] at *
      exact String.le_trans first second
    · intro a b
      rw [Bool.or_eq_true, decide_eq_true_iff, decide_eq_true_iff]
      exact String.le_total _ _
  have apart : ((elements.mergeSort fun a b => decide (key a ≤ key b)).map key).Nodup :=
    ((List.mergeSort_perm elements _).map key).nodup_iff.mpr nodup
  refine (sorted.and (List.pairwise_map.mp apart)).imp ?_
  rintro a b ⟨le, different⟩
  exact Std.lt_of_le_of_ne (of_decide_eq_true le) different

/-- Elements that keep their keys are sorted alike before and after. -/
theorem mergeSort_map {elements : List α} {f : α → β}
    (keeps : ∀ element ∈ elements, otherKey (f element) = key element) :
    (elements.map f).mergeSort (fun a b => decide (otherKey a ≤ otherKey b)) =
      (elements.mergeSort fun a b => decide (key a ≤ key b)).map f := by
  refine (List.map_mergeSort fun a in_a b in_b => ?_).symm
  rw [keeps a in_a, keeps b in_b]

end PackageAtlas
