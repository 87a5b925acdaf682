import Mathlib.Data.List.Induction
import Mathlib.Data.List.Nodup

/-!
# Lists in groups

A list is cut into groups by a key. Put together again, the groups of different keys are the
elements with one of these keys, each as often as before. What different elements hold is told
apart by their keys, and duplicates may be erased at any time.
-/
namespace PackageAtlas

/-- Nothing stays twice after duplicates are erased. -/
theorem nodup_eraseDups {κ : Type} [BEq κ] [LawfulBEq κ] (keys : List κ) :
    keys.eraseDups.Nodup := by
  induction h : keys.length using Nat.strongRecOn generalizing keys with
  | ind size ih =>
    cases keys with
    | nil => exact List.nodup_nil
    | cons first rest =>
      rw [List.eraseDups_cons, List.nodup_cons]
      have shorter : (rest.filter fun key => !key == first).length < size := by
        rw [← h]
        exact Nat.lt_succ_of_le (List.length_filter_le _ rest)
      refine ⟨fun member => ?_, ih _ shorter _ rfl⟩
      have other := (List.mem_filter.mp (List.mem_eraseDups.mp member)).2
      simp at other

private theorem flatMap_groups_mem_perm {α κ : Type} [DecidableEq κ] (key : α → κ) {keys : List κ}
    (nodup : keys.Nodup) (elements : List α) :
    (keys.flatMap fun k => elements.filter (key · = k)).Perm (elements.filter (key · ∈ keys)) := by
  induction keys with
  | nil => simp
  | cons first rest ih =>
    obtain ⟨absent, rest_nodup⟩ := List.nodup_cons.mp nodup
    rw [List.flatMap_cons]
    -- Of the elements with a listed key, those with the first key are the first group.
    have first_group : (elements.filter (key · ∈ first :: rest)).filter (key · = first) =
        elements.filter (key · = first) := by
      rw [List.filter_filter]
      apply List.filter_congr
      intro element _
      by_cases same : key element = first <;> simp [same]
    have other_groups : (elements.filter (key · ∈ first :: rest)).filter
        (fun element => !decide (key element = first)) = elements.filter (key · ∈ rest) := by
      rw [List.filter_filter]
      apply List.filter_congr
      intro element _
      by_cases same : key element = first <;> simp [same, absent]
    have split := List.filter_append_perm (key · = first) (elements.filter (key · ∈ first :: rest))
    rw [first_group, other_groups] at split
    exact ((ih rest_nodup).append_left _).trans split

/-- Groups of different keys, put together. -/
theorem flatMap_groups_perm {α κ : Type} [DecidableEq κ] (key : α → κ) {keys : List κ}
    (nodup : keys.Nodup) (elements : List α) {listed : α → Bool}
    (listed_iff : ∀ element ∈ elements, listed element = true ↔ key element ∈ keys) :
    (keys.flatMap fun k => elements.filter (key · = k)).Perm (elements.filter listed) := by
  refine (flatMap_groups_mem_perm key nodup elements).trans (List.Perm.of_eq ?_)
  apply List.filter_congr
  intro element member
  rw [Bool.eq_iff_iff, decide_eq_true_iff]
  exact (listed_iff element member).symm

/-- In a row of all that some elements hold, the group of a key is what its element holds. -/
theorem filter_flatMap_of_key {α β κ : Type} [DecidableEq κ] (key : α → κ) (entry : β → κ)
    {contents : α → List β} (keyed : ∀ a, ∀ b ∈ contents a, entry b = key a) {elements : List α}
    (nodup : (elements.map key).Nodup) {a : α} (member : a ∈ elements) :
    (elements.flatMap contents).filter (entry · = key a) = contents a := by
  induction elements with
  | nil => cases member
  | cons first rest ih =>
    rw [List.map_cons, List.nodup_cons] at nodup
    obtain ⟨absent, rest_nodup⟩ := nodup
    rw [List.flatMap_cons, List.filter_append]
    rcases List.mem_cons.mp member with rfl | later
    · have own : (contents a).filter (entry · = key a) = contents a :=
        List.filter_eq_self.mpr fun b inside => decide_eq_true (keyed a b inside)
      have others : (rest.flatMap contents).filter (entry · = key a) = [] := by
        refine List.filter_eq_nil_iff.mpr fun b inside same => absent ?_
        obtain ⟨c, among, holds⟩ := List.mem_flatMap.mp inside
        rw [← of_decide_eq_true same, keyed c b holds]
        exact List.mem_map_of_mem among
      rw [own, others, List.append_nil]
    · have none_first : (contents first).filter (entry · = key a) = [] := by
        refine List.filter_eq_nil_iff.mpr fun b inside same => absent ?_
        rw [← keyed first b inside, of_decide_eq_true same]
        exact List.mem_map_of_mem later
      rw [none_first, List.nil_append, ih rest_nodup later]

/-- Elements that are left out hold nothing. -/
theorem flatMap_filter {α β : Type} (keep : α → Bool) (contents : α → List β)
    (elements : List α) :
    (elements.filter keep).flatMap contents =
      elements.flatMap fun a => if keep a then contents a else [] := by
  induction elements with
  | nil => rfl
  | cons first rest ih => by_cases kept : keep first <;> simp [kept, ih]

theorem eraseDups_concat {α : Type} [BEq α] [LawfulBEq α] (elements : List α) (last : α) :
    (elements ++ [last]).eraseDups =
      if last ∈ elements then elements.eraseDups else elements.eraseDups ++ [last] := by
  rw [List.eraseDups_append]
  by_cases known : last ∈ elements <;> simp [List.removeAll, List.eraseDups_cons, known]

/-- What elements lead to is the same with duplicates among them and without. -/
theorem eraseDups_filterMap_eraseDups {α β : Type} [BEq α] [LawfulBEq α] [BEq β] [LawfulBEq β]
    (f : α → Option β) (elements : List α) :
    (elements.eraseDups.filterMap f).eraseDups = (elements.filterMap f).eraseDups := by
  induction elements using List.reverseRecOn with
  | nil => rfl
  | append_singleton before last ih =>
    have single : [last].filterMap f = (f last).toList := by cases led : f last <;> simp [led]
    rw [eraseDups_concat, List.filterMap_append, single]
    split
    next known =>
      rw [ih]
      cases led : f last with
      | none => rw [Option.toList_none, List.append_nil]
      | some b =>
        have met : b ∈ before.filterMap f := List.mem_filterMap.mpr ⟨last, known, led⟩
        rw [Option.toList_some, eraseDups_concat, if_pos met]
    next =>
      rw [List.filterMap_append, single]
      cases f last with
      | none => rw [Option.toList_none, List.append_nil, List.append_nil, ih]
      | some b =>
        have met_iff : b ∈ before.eraseDups.filterMap f ↔ b ∈ before.filterMap f := by
          simp only [List.mem_filterMap, List.mem_eraseDups]
        rw [Option.toList_some, eraseDups_concat, eraseDups_concat, ih]
        exact if_congr met_iff rfl rfl

theorem eraseDups_of_nodup {α : Type} [BEq α] [LawfulBEq α] {elements : List α}
    (nodup : elements.Nodup) : elements.eraseDups = elements := by
  induction elements using List.reverseRecOn with
  | nil => rfl
  | append_singleton before last ih =>
    obtain ⟨before_nodup, -, apart⟩ := List.nodup_append.mp nodup
    have fresh : last ∉ before := fun member => apart last member last List.mem_cons_self rfl
    rw [eraseDups_concat, if_neg fresh, ih before_nodup]

theorem eraseDups_map {α β : Type} [BEq α] [LawfulBEq α] [BEq β] [LawfulBEq β] {f : α → β}
    {elements : List α} (inj : ∀ a ∈ elements, ∀ b ∈ elements, f a = f b → a = b) :
    (elements.map f).eraseDups = elements.eraseDups.map f := by
  have nodup : (elements.eraseDups.map f).Nodup := by
    refine (nodup_eraseDups elements).map_on fun a in_a b in_b => ?_
    exact inj a (List.mem_eraseDups.mp in_a) b (List.mem_eraseDups.mp in_b)
  have erased := eraseDups_filterMap_eraseDups (fun a => some (f a)) elements
  rw [List.filterMap_eq_map'] at erased
  rw [← erased, eraseDups_of_nodup nodup]

theorem eraseDups_filter {α : Type} [BEq α] [LawfulBEq α] (keep : α → Bool) (elements : List α) :
    (elements.filter keep).eraseDups = elements.eraseDups.filter keep := by
  have erased := eraseDups_filterMap_eraseDups (Option.guard keep) elements
  rw [List.filterMap_eq_filter] at erased
  rw [← erased, eraseDups_of_nodup ((nodup_eraseDups elements).filter keep)]

/-- What elements of different keys hold has its duplicates element by element. -/
theorem eraseDups_flatMap_of_key {α β κ : Type} [BEq β] [LawfulBEq β] (key : α → κ)
    (entry : β → κ) {contents : α → List β} (keyed : ∀ a, ∀ b ∈ contents a, entry b = key a)
    {elements : List α} (nodup : (elements.map key).Nodup) :
    (elements.flatMap contents).eraseDups = elements.flatMap fun a => (contents a).eraseDups := by
  induction elements with
  | nil => rfl
  | cons first rest ih =>
    rw [List.map_cons, List.nodup_cons] at nodup
    obtain ⟨absent, rest_nodup⟩ := nodup
    have apart : (rest.flatMap contents).removeAll (contents first) = rest.flatMap contents := by
      refine List.filter_eq_self.mpr fun b inside => ?_
      obtain ⟨c, among, holds⟩ := List.mem_flatMap.mp inside
      rw [Bool.not_eq_true', List.elem_eq_contains, List.contains_eq_mem, decide_eq_false_iff_not]
      intro held
      apply absent
      rw [← keyed first b held, keyed c b holds]
      exact List.mem_map_of_mem among
    rw [List.flatMap_cons, List.flatMap_cons, List.eraseDups_append, apart, ih rest_nodup]

end PackageAtlas
