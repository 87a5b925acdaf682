import PackageAtlas.Proofs.View.Retention

/-!
# Sizes of changes

The size of a change has a sign, and a count that is too large for a signed number of 64 bits is
cut off before it is subtracted. Nothing overflows that way. The difference of two counts tells
which of them is larger as long as one of them is below the limit.
-/
namespace PackageAtlas

/-- Whether a number can be written in 64 bits, one of them for the sign. -/
def FitsSigned (number : Int) : Prop :=
  Int64.minValue.toInt ≤ number ∧ number ≤ Int64.maxValue.toInt

theorem fitsSigned_iff {number : Int} :
    FitsSigned number ↔ -(maxDelta : Int) - 1 ≤ number ∧ number ≤ maxDelta := by
  have least : Int64.minValue.toInt = -(maxDelta : Int) - 1 := rfl
  have greatest : Int64.maxValue.toInt = (maxDelta : Int) := rfl
  rw [FitsSigned, least, greatest]

theorem countDelta_nonneg (count : Nat) : 0 ≤ countDelta count := by
  rw [countDelta]
  omega

theorem countDelta_le (count : Nat) : countDelta count ≤ maxDelta := by
  rw [countDelta]
  omega

/-- Two counts that differ are told apart unless both are cut off. -/
theorem countDelta_lt_iff (count other : Nat) :
    countDelta count < countDelta other ↔ count < other ∧ count < maxDelta := by
  rw [countDelta, countDelta]
  omega

theorem fitsSigned_countDelta (count : Nat) :
    FitsSigned (countDelta count) ∧ FitsSigned (-countDelta count) := by
  have nonneg := countDelta_nonneg count
  have le := countDelta_le count
  rw [fitsSigned_iff, fitsSigned_iff]
  omega

theorem fitsSigned_countDelta_sub (count other : Nat) :
    FitsSigned (countDelta count - countDelta other) := by
  have nonneg := countDelta_nonneg count
  have le := countDelta_le count
  have other_nonneg := countDelta_nonneg other
  have other_le := countDelta_le other
  rw [fitsSigned_iff]
  omega

namespace ViewDependency

theorem displayState_recounted (own old : ViewDependency) :
    (own.recounted old).displayState =
      if old.count < own.count ∧ old.count < maxDelta then .created else .deleted := by
  have grown : countDelta own.count - countDelta old.count > 0 ↔
      old.count < own.count ∧ old.count < maxDelta :=
    Int.sub_pos.trans (countDelta_lt_iff old.count own.count)
  exact if_congr grown rfl rfl

end ViewDependency

/-- The destinations of the baseline may repeat, since those of this side are never among those that
are gone. -/
theorem ViewPackage.dependency?_comparedTo_of_nodup {package : ViewPackage}
    (nodup : (package.dependencies.map (·.destination)).Nodup) (baseline : ViewPackage)
    {destination : String} {own : ViewDependency}
    (drawn : package.dependency? destination = some own) :
    (package.comparedTo baseline).dependency? destination =
      some (own.comparedTo (baseline.dependency? destination)) := by
  obtain ⟨member, rfl⟩ := (find?_key_eq_some_iff nodup).mp drawn
  have perm := comparedTo_perm package baseline
  have listed : own.comparedTo (baseline.dependency? own.destination) ∈
      (package.comparedTo baseline).dependencies :=
    perm.mem_iff.mpr (List.mem_append_left _ (List.mem_map_of_mem member))
  have only : ∀ other ∈ (package.comparedTo baseline).dependencies,
      other.destination = own.destination →
        other = own.comparedTo (baseline.dependency? own.destination) := by
    intro other other_listed same
    rcases List.mem_append.mp (perm.mem_iff.mp other_listed) with kept | removed
    · obtain ⟨first, first_member, rfl⟩ := List.mem_map.mp kept
      rw [ViewDependency.comparedTo_destination] at same
      rw [List.inj_on_of_nodup_map nodup first_member member same]
    · -- What is gone had a destination that this side does not have, so not this one.
      obtain ⟨gone, gone_member, rfl⟩ := List.mem_map.mp removed
      have missing := (List.mem_filter.mp gone_member).2
      rw [show gone.destination = own.destination from same, drawn] at missing
      cases missing
  rw [dependency?]
  cases found_eq : (package.comparedTo baseline).dependencies.find?
      (·.destination = own.destination) with
  | none =>
    have missing := List.find?_eq_none.mp found_eq _ listed
    exact absurd (decide_eq_true (own.comparedTo_destination _)) missing
  | some found =>
    rw [only found (List.mem_of_find?_eq_some found_eq) (by simpa using List.find?_some found_eq)]

namespace View

variable {current baseline : View} {source destination : String} {own old : ViewDependency}

theorem Unambiguous.dependency?_diff (unambiguous : current.Unambiguous)
    (here : current.dependency? source destination = some own)
    (there : baseline.dependency? source destination = some old) :
    (current.diff baseline).dependency? source destination = some (own.comparedTo (some old)) := by
  obtain ⟨package, found, drawn⟩ := Option.bind_eq_some_iff.mp here
  obtain ⟨former, former_found, former_drawn⟩ := Option.bind_eq_some_iff.mp there
  have nodup := unambiguous package (List.mem_of_find?_eq_some found)
  rw [dependency?, find?_diff, found, former_found, ← former_drawn]
  exact package.dependency?_comparedTo_of_nodup nodup former drawn

/-- A changed count is marked with a change that fits into 64 bits, as does all that it is made of.
Its sign says which side has the larger count exactly if the counts are not both cut off. A
dependency that shrank is always drawn as deleted, one that grew as created unless both counts are
cut off. -/
theorem Unambiguous.sign_of_change (unambiguous : current.Unambiguous)
    (here : current.dependency? source destination = some own)
    (there : baseline.dependency? source destination = some old)
    (different : own.count ≠ old.count) :
    ∃ drawn mark,
      (current.diff baseline).dependency? source destination = some drawn ∧
      drawn.mark = some mark ∧ mark.change = .countChanged ∧
      mark.delta = countDelta own.count - countDelta old.count ∧
      ((0 < mark.delta ↔ old.count < own.count) ∧ (mark.delta < 0 ↔ own.count < old.count) ↔
        own.count < maxDelta ∨ old.count < maxDelta) ∧
      (drawn.displayState = (if old.count < own.count then .created else .deleted) ↔
        own.count < old.count ∨ old.count < maxDelta) ∧
      FitsSigned mark.delta ∧
      ∀ count ∈ [own.count, old.count],
        FitsSigned (countDelta count) ∧ FitsSigned (-countDelta count) := by
  have grown := countDelta_lt_iff old.count own.count
  have shrunk := countDelta_lt_iff own.count old.count
  refine ⟨own.recounted old, _, ?_, rfl, rfl, rfl, ?_, ?_, fitsSigned_countDelta_sub _ _,
    fun count _ => fitsSigned_countDelta count⟩
  · rw [unambiguous.dependency?_diff here there, ViewDependency.comparedTo_some,
      if_neg different.symm]
  · dsimp only
    omega
  · rw [ViewDependency.displayState_recounted]
    by_cases grew : old.count < own.count
    · have not_shrunk : ¬ own.count < old.count := by omega
      simp [grew, not_shrunk]
    · have less : own.count < old.count := by omega
      simp [grew, less]

/-- The two packages `a` and `b` with a dependency that stands for so many between files. -/
def countedView (count : Nat) : View :=
  pairView [⟨"a", "b", count, [], .neutral, none⟩]

theorem unambiguous_countedView (count : Nat) : (countedView count).Unambiguous := by
  intro package member
  rcases List.mem_pair.mp member with rfl | rfl
  · exact List.nodup_singleton "b"
  · exact List.nodup_nil

/-- One count at the limit is enough to see which side has more. -/
theorem countedView_sign_of_change :
    (countedView (maxDelta + 1)).Unambiguous ∧
      (∃ own old,
        (countedView (maxDelta + 1)).dependency? "a" "b" = some own ∧
        (countedView (maxDelta - 1)).dependency? "a" "b" = some old ∧ own.count ≠ old.count) ∧
      ∃ drawn mark,
        ((countedView (maxDelta + 1)).diff (countedView (maxDelta - 1))).dependency? "a" "b" =
          some drawn ∧
        drawn.mark = some mark ∧ mark.delta = 1 ∧ drawn.displayState = .created := by
  have here : (countedView (maxDelta + 1)).dependency? "a" "b" =
      some ⟨"a", "b", maxDelta + 1, [], .neutral, none⟩ := rfl
  have there : (countedView (maxDelta - 1)).dependency? "a" "b" =
      some ⟨"a", "b", maxDelta - 1, [], .neutral, none⟩ := rfl
  have different : maxDelta + 1 ≠ maxDelta - 1 := by decide
  obtain ⟨drawn, mark, between, marked, -, delta_eq, -, state_iff, -⟩ :=
    (unambiguous_countedView (maxDelta + 1)).sign_of_change here there different
  refine ⟨unambiguous_countedView _, ⟨_, _, here, there, different⟩, drawn, mark, between, marked,
    delta_eq.trans (by decide), ?_⟩
  exact state_iff.mpr (Or.inr (by decide))

/-- Beyond the limit a dependency that grew is told to have changed by nothing, and is drawn like
one that shrank. -/
theorem countedView_growth_lost :
    (countedView (maxDelta + 1)).Unambiguous ∧ (countedView maxDelta).Unambiguous ∧
      ((countedView (maxDelta + 1)).dependency? "a" "b").map (·.count) =
        some 9223372036854775808 ∧
      ((countedView maxDelta).dependency? "a" "b").map (·.count) = some 9223372036854775807 ∧
      ((countedView (maxDelta + 1)).diff (countedView maxDelta)).changes =
        [.countChanged "a" "b" 0] ∧
      (((countedView (maxDelta + 1)).diff (countedView maxDelta)).dependency? "a" "b").map
        (·.displayState) = some .deleted := by
  refine ⟨unambiguous_countedView _, unambiguous_countedView _, rfl, rfl, ?_, ?_⟩
  · decide +kernel
  · decide +kernel

end View

end PackageAtlas
