import PackageAtlas.Proofs.FileTree.Inside

/-!
# Paths seen from a directory around them

What a path has behind the components of a directory is what it is seen as from there. Joined to the
directory it leads to the same place, and joined to another one it leads to the same place of that
one, however the two are spelled.
-/
namespace PackageAtlas

namespace Path

theorem filter_dropSegments (count : Nat) (segments : List String) :
    (dropSegments count segments).filter (!isVoid ·) =
      (segments.filter (!isVoid ·)).drop count := by
  induction segments generalizing count with
  | nil => cases count <;> simp [dropSegments]
  | cons segment rest ih =>
    cases count with
    | zero => rw [dropSegments, List.drop_zero]
    | succ count =>
      rw [dropSegments]
      split
      next void => rw [ih, List.filter_cons_of_neg (by simp [void])]
      next step => rw [ih, List.filter_cons_of_pos (by simp [step]), List.drop_succ_cons]

theorem dropSegments_subset (count : Nat) (segments : List String) :
    dropSegments count segments ⊆ segments := by
  induction segments generalizing count with
  | nil => cases count <;> simp [dropSegments]
  | cons segment rest ih =>
    cases count with
    | zero => exact List.Subset.refl _
    | succ count =>
      rw [dropSegments]
      split
      next => exact List.subset_cons_of_subset segment (ih _)
      next => exact List.subset_cons_of_subset segment (ih _)

theorem filter_dropWhile_void (segments : List String) :
    (segments.dropWhile isVoid).filter (!isVoid ·) = segments.filter (!isVoid ·) := by
  induction segments with
  | nil => rfl
  | cons segment rest ih =>
    by_cases void : isVoid segment
    · rw [List.dropWhile_cons_of_pos void, ih, List.filter_cons_of_neg (by simp [void])]
    · rw [List.dropWhile_cons_of_neg void]

/-- Segments between two that are not void, in a row without an opening or closing slash. -/
theorem ofParts_none {segments : List String} (clean : ∀ segment ∈ segments, '/' ∉ segment.toList)
    (opening : ∀ segment ∈ segments.head?, isVoid segment = false)
    (closing : endsVoid segments = false) :
    (ofParts none segments).isAbsolute = false ∧
      (ofParts none segments).steps = segments.filter (!isVoid ·) ∧
      ((ofParts none segments).AsksDirectory ↔ segments = []) := by
  by_cases empty : segments = []
  · subst empty
    exact ⟨by decide, by decide, by decide⟩
  · have cut : Text.split '/' (ofParts none segments).text = segments :=
      Text.split_join empty clean
    refine ⟨?_, by rw [steps, cut], ?_⟩
    · -- An absolute path would begin with an empty segment.
      rw [Bool.eq_false_iff]
      intro absolute
      obtain ⟨rest, text⟩ := exists_slash_of_isAbsolute absolute
      rw [Text.split, text, Text.splitChars, if_pos rfl, List.map_cons] at cut
      have void := opening "" (by rw [← cut]; rfl)
      exact absurd void (by decide)
    · rw [AsksDirectory, cut, closing]
      simp [empty]

/-- What is left behind the first segments, without void segments around it. -/
def segmentsBehind (count : Nat) (segments : List String) : List String :=
  dropVoidEnd ((dropSegments count segments).dropWhile isVoid)

theorem filter_segmentsBehind (count : Nat) (segments : List String) :
    (segmentsBehind count segments).filter (!isVoid ·) =
      (segments.filter (!isVoid ·)).drop count := by
  rw [segmentsBehind, (exists_dropVoidEnd _).1, filter_dropWhile_void, filter_dropSegments]

theorem clean_segmentsBehind (count : Nat) {segments : List String}
    (clean : ∀ segment ∈ segments, '/' ∉ segment.toList) :
    ∀ segment ∈ segmentsBehind count segments, '/' ∉ segment.toList := by
  intro segment member
  have among := (List.dropWhile_sublist isVoid).subset (dropVoidEnd_subset _ member)
  exact clean segment (dropSegments_subset _ _ among)

theorem opening_segmentsBehind (count : Nat) (segments : List String) :
    ∀ segment ∈ (segmentsBehind count segments).head?, isVoid segment = false := by
  intro segment first
  obtain ⟨rest, whole⟩ : segmentsBehind count segments <+:
      (dropSegments count segments).dropWhile isVoid := List.rdropWhile_prefix isVoid _
  have head := List.head?_dropWhile_not isVoid (dropSegments count segments)
  rw [← whole, List.head?_append, first] at head
  simpa using head

theorem endsVoid_segmentsBehind (count : Nat) (segments : List String) :
    endsVoid (segmentsBehind count segments) = false := by
  rw [segmentsBehind]
  obtain ⟨-, empty | ⟨before, last, cut, not_void⟩⟩ :=
    exists_dropVoidEnd ((dropSegments count segments).dropWhile isVoid)
  · rw [empty]
    rfl
  · rw [cut, endsVoid, List.getLast?_concat, Option.any_some, not_void]

/-- An absolute path inside of a directory, seen from there, leads through the remaining
segments. -/
theorem Spells.exists_relativeTo? {base path : Path} {names inner : List String}
    (base_spells : base.Spells names) (spells : path.Spells (names ++ inner)) :
    ∃ rest, path.relativeTo? base = some rest ∧ rest.isAbsolute = false ∧ rest.steps = inner ∧
      (rest.AsksDirectory ↔ inner = []) := by
  obtain ⟨segments, parts_eq, steps_eq, clean⟩ := spells.parts
  have inside : base.components.isPrefixOf path.components = true := by
    rw [base_spells.components, spells.components, List.isPrefixOf_iff_prefix, List.map_append,
      ← List.cons_append]
    exact List.prefix_append _ _
  have count : base.components.length = names.length + 1 := by
    rw [base_spells.components, List.length_cons, List.length_map]
  have relative : path.relativeTo? base =
      some (ofParts none (segmentsBehind names.length segments)) := by
    rw [relativeTo?, if_pos inside, parts_eq, count]
    rfl
  have kept_eq : (segmentsBehind names.length segments).filter (!isVoid ·) = inner := by
    rw [filter_segmentsBehind, steps_eq, List.drop_left]
  have closing := endsVoid_segmentsBehind names.length segments
  obtain ⟨not_absolute, steps, asks⟩ := ofParts_none (clean_segmentsBehind names.length clean)
    (opening_segmentsBehind names.length segments) closing
  refine ⟨_, relative, not_absolute, steps.trans kept_eq, asks.trans ?_⟩
  constructor
  · intro empty
    rw [← kept_eq, empty]
    rfl
  · intro empty
    by_contra nonempty
    rw [endsVoid_of_filter_nil nonempty (kept_eq.trans empty)] at closing
    cases closing

/-! ### Any spelling -/

theorem components_segmentsBehind (count : Nat) {segments : List String}
    (clean : ∀ segment ∈ segments, '/' ∉ segment.toList) :
    (ofParts none (segmentsBehind count segments)).components =
      ((segments.filter (!isVoid ·)).map Component.ofSegment).drop count := by
  rw [components_ofParts (Or.inr (Or.inr rfl)) (clean_segmentsBehind count clean)
    fun _ => opening_segmentsBehind count segments, filter_segmentsBehind, List.map_drop]
  rfl

/-- Void segments at its end are not needed for the components of a path. -/
theorem components_dropVoidEnd {path : Path} {lead : Option Component} {segments : List String}
    (parts_eq : path.parts = (lead, segments)) :
    (ofParts lead (dropVoidEnd segments)).components = path.components := by
  have start := path.parts_fst_cases
  have clean := path.clean_parts
  rw [parts_eq] at start clean
  have opening : lead = none →
      ∀ segment ∈ (dropVoidEnd segments).head?, isVoid segment = false := by
    rintro rfl
    exact opening_of_prefix parts_eq List.prefix_rfl
  have kept_clean : ∀ segment ∈ dropVoidEnd segments, '/' ∉ segment.toList := fun segment member =>
    clean segment (dropVoidEnd_subset segments member)
  rw [components_ofParts start kept_clean opening, (exists_dropVoidEnd segments).1, components,
    parts_eq]

/-- A path whose components begin with those of a directory can be seen from there, and has the
remaining components then. -/
theorem exists_relativeTo? {base path : Path} {inner : List Component}
    (inside : path.components = base.components ++ inner) :
    ∃ rest, path.relativeTo? base = some rest ∧ rest.components = inner := by
  have starts : base.components.isPrefixOf path.components = true := by
    rw [List.isPrefixOf_iff_prefix, inside]
    exact List.prefix_append _ _
  have inner_eq : inner = path.components.drop base.components.length := by
    rw [inside, List.drop_left]
  have clean := path.clean_parts
  rw [relativeTo?, if_pos starts, inner_eq]
  rcases parts_eq : path.parts with ⟨lead, segments⟩
  rw [parts_eq] at clean
  have components_eq : path.components =
      lead.toList ++ (segments.filter (!isVoid ·)).map Component.ofSegment := by
    rw [components, parts_eq]
  -- The root and a leading dot are no segments, so with them one segment less is dropped.
  cases base.components.length with
  | zero => exact ⟨_, rfl, components_dropVoidEnd parts_eq⟩
  | succ count =>
    rw [components_eq]
    cases lead with
    | none => exact ⟨_, rfl, components_segmentsBehind (count + 1) clean⟩
    | some first => exact ⟨_, rfl, components_segmentsBehind count clean⟩

/-- A path that has only inner components is relative, and has its steps from them. -/
theorem steps_of_components {path : Path} {names : List String}
    (only : path.components = names.map Component.ofSegment) :
    path.isAbsolute = false ∧ path.steps = names := by
  have no_lead : path.parts.1 = none := by
    by_contra leads
    obtain ⟨first, lead⟩ := Option.ne_none_iff_exists'.mp leads
    have member : first ∈ names.map Component.ofSegment := by
      rw [← only, components_eq, lead]
      exact List.mem_cons_self
    -- The root and a leading dot are no segments.
    obtain ⟨name, -, rfl⟩ := List.mem_map.mp member
    rcases path.parts_fst_cases with rooted | dotted | nothing
    · exact ofSegment_ne_root name (Option.some.inj (lead.symm.trans rooted))
    · exact ofSegment_ne_here name (Option.some.inj (lead.symm.trans dotted))
    · exact leads nothing
  constructor
  · rw [Bool.eq_false_iff]
    intro absolute
    obtain ⟨rest, text⟩ := exists_slash_of_isAbsolute absolute
    simp [parts, text] at no_lead
  · rw [components_eq, no_lead, ← map_ofSegment_steps] at only
    exact List.map_injective_iff.mpr ofSegment_injective only

/-- An entry of a directory, seen from there, leads through the same segments. -/
theorem exists_relativeTo?_join {base directory entry : Path} (same : base.Same directory)
    (relative : entry.isAbsolute = false) :
    ∃ rest, (base.join entry).relativeTo? directory = some rest ∧ rest.isAbsolute = false ∧
      rest.steps = entry.steps := by
  by_cases empty : base.text = ""
  · -- The empty path leaves an entry as it is, with a dot in front if there is one.
    have none_in_front : directory.components = [] := by
      rw [← same]
      exact components_eq_nil_iff.mpr empty
    have inside : entry.components = directory.components ++ entry.components := by
      rw [none_in_front, List.nil_append]
    obtain ⟨rest, seen, same_rest⟩ := exists_relativeTo? inside
    rw [join_of_empty base entry empty relative]
    exact ⟨rest, seen, (Same.isAbsolute_eq same_rest).trans relative, Same.steps_eq same_rest⟩
  · have below : (base.join entry).components =
        directory.components ++ entry.steps.map Component.ofSegment := by
      rw [← same]
      exact components_join base entry.text empty relative
    obtain ⟨rest, seen, only⟩ := exists_relativeTo? below
    exact ⟨rest, seen, steps_of_components only⟩

/-- Behind a directory only the segments of a relative path count. -/
theorem same_join {base a b : Path} (nonempty : base.text ≠ "") (relative : a.isAbsolute = false)
    (relative_too : b.isAbsolute = false) (steps_eq : a.steps = b.steps) :
    (base.join a).Same (base.join b) :=
  calc (base.join a).components
    _ = base.components ++ a.steps.map Component.ofSegment :=
      components_join base a.text nonempty relative
    _ = base.components ++ b.steps.map Component.ofSegment := by rw [steps_eq]
    _ = (base.join b).components := (components_join base b.text nonempty relative_too).symm

end Path

end PackageAtlas
