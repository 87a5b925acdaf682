import PackageAtlas.View.Basic

/-!
# The order of file relations

Relations are sorted by source, then by target. The order is total, so the sorted list of some
relations does not depend on how they were listed before.
-/
namespace PackageAtlas

/-- The strict order by source, then by target. -/
def FileRelation.Before (a b : FileRelation) : Prop :=
  a.source < b.source ∨ a.source = b.source ∧ a.target < b.target

theorem FileRelation.le_iff (a b : FileRelation) :
    a.le b = true ↔ a.source < b.source ∨ a.source = b.source ∧ a.target ≤ b.target := by
  simp [FileRelation.le]

theorem FileRelation.le_of_before {a b : FileRelation} (before : a.Before b) : a.le b = true :=
  (FileRelation.le_iff a b).mpr (before.imp_right fun ⟨same, lt⟩ => ⟨same, Std.le_of_lt lt⟩)

theorem FileRelation.le_trans (a b c : FileRelation) (first : a.le b = true)
    (second : b.le c = true) : a.le c = true := by
  rw [FileRelation.le_iff] at *
  rcases first with first | ⟨first, first_target⟩ <;>
    rcases second with second | ⟨second, second_target⟩
  · exact Or.inl (String.lt_trans first second)
  · exact Or.inl (second ▸ first)
  · exact Or.inl (first ▸ second)
  · exact Or.inr ⟨first.trans second, String.le_trans first_target second_target⟩

theorem FileRelation.le_total (a b : FileRelation) : (a.le b || b.le a) = true := by
  rw [Bool.or_eq_true, FileRelation.le_iff, FileRelation.le_iff]
  by_cases same : a.source = b.source
  · exact (String.le_total a.target b.target).imp
      (fun le => Or.inr ⟨same, le⟩) (fun le => Or.inr ⟨same.symm, le⟩)
  · rcases String.le_total a.source b.source with le | le
    · exact Or.inl (Or.inl (Std.lt_of_le_of_ne le same))
    · exact Or.inr (Or.inl (Std.lt_of_le_of_ne le (Ne.symm same)))

theorem FileRelation.le_antisymm {a b : FileRelation} (first : a.le b = true)
    (second : b.le a = true) : a = b := by
  rw [FileRelation.le_iff] at first second
  rcases first with first | ⟨same, first⟩ <;> rcases second with second | ⟨same_too, second⟩
  · exact absurd second (String.lt_asymm first)
  · exact absurd first (same_too ▸ String.lt_irrefl _)
  · exact absurd second (same ▸ String.lt_irrefl _)
  · cases a
    cases b
    cases same
    cases String.le_antisymm first second
    rfl

/-- Sorting relations without repetition puts each strictly before the next. -/
theorem FileRelation.mergeSort_ascending {relations : List FileRelation}
    (nodup : relations.Nodup) :
    (relations.mergeSort FileRelation.le).Pairwise FileRelation.Before := by
  have sorted := List.pairwise_mergeSort FileRelation.le_trans FileRelation.le_total relations
  have apart := (List.mergeSort_perm relations FileRelation.le).nodup_iff.mpr nodup
  refine (sorted.and apart).imp ?_
  -- Two neighbours with one source and one target would be the same relation.
  rintro a b ⟨le, different⟩
  rcases (FileRelation.le_iff a b).mp le with before | ⟨same, le_target⟩
  · exact Or.inl before
  · refine Or.inr ⟨same, Std.lt_of_le_of_ne le_target fun same_target => different ?_⟩
    cases a
    cases b
    exact congr (congrArg FileRelation.mk same) same_target

/-- Two sorted lists of the same relations are equal. -/
theorem FileRelation.mergeSort_eq_of_perm {a b : List FileRelation} (perm : a.Perm b) :
    a.mergeSort FileRelation.le = b.mergeSort FileRelation.le := by
  refine List.Perm.eq_of_pairwise ?_
    (List.pairwise_mergeSort FileRelation.le_trans FileRelation.le_total a)
    (List.pairwise_mergeSort FileRelation.le_trans FileRelation.le_total b)
    (((List.mergeSort_perm a _).trans perm).trans (List.mergeSort_perm b _).symm)
  intro x y _ _ first second
  exact FileRelation.le_antisymm first second

end PackageAtlas
