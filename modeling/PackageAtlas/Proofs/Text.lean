import Mathlib.Data.List.Basic
import PackageAtlas.Text

/-!
# Cutting texts and putting them together

A text that was put together from pieces is cut into these pieces again, unless the separator is
in one of them: such a piece comes apart as well.
-/
namespace PackageAtlas.Text

variable {separator : Char}

/-! ### Lists of characters -/

/-- A text with a separator in it is cut there. -/
theorem splitChars_append (separator : Char) (before after : List Char) :
    splitChars separator (before ++ separator :: after) =
      splitChars separator before ++ splitChars separator after := by
  induction before with
  | nil => simp [splitChars]
  | cons c rest ih =>
    by_cases h : c = separator
    · simp [splitChars, h, ih]
    · obtain ⟨piece, pieces, cut⟩ := List.exists_cons_of_ne_nil (splitChars_ne_nil separator rest)
      simp [splitChars, h, ih, cut]

theorem joinChars_append (separator : Char) {before after : List (List Char)}
    (before_nonempty : before ≠ []) (after_nonempty : after ≠ []) :
    joinChars separator (before ++ after) =
      joinChars separator before ++ separator :: joinChars separator after := by
  induction before with
  | nil => exact absurd rfl before_nonempty
  | cons first rest ih =>
    cases rest with
    | nil =>
      obtain ⟨second, others, rfl⟩ := List.exists_cons_of_ne_nil after_nonempty
      rfl
    | cons second others =>
      have inner := ih (by simp)
      simp only [List.cons_append, List.append_assoc, joinChars] at inner ⊢
      rw [inner]

theorem splitChars_joinChars_eq_flatMap (separator : Char) {pieces : List (List Char)}
    (nonempty : pieces ≠ []) :
    splitChars separator (joinChars separator pieces) =
      pieces.flatMap (splitChars separator) := by
  induction pieces with
  | nil => exact absurd rfl nonempty
  | cons first rest ih =>
    cases rest with
    | nil => rw [joinChars, List.flatMap_singleton]
    | cons second others =>
      have rest_cut := ih (List.cons_ne_nil second others)
      rw [joinChars, splitChars_append, rest_cut]
      · rfl
      · exact List.cons_ne_nil second others

theorem joinChars_eq_intercalate (separator : Char) (pieces : List (List Char)) :
    joinChars separator pieces = [separator].intercalate pieces := by
  induction pieces with
  | nil => rfl
  | cons piece rest ih =>
    cases rest with
    | nil => rw [joinChars, List.intercalate_singleton]
    | cons next others =>
      calc joinChars separator (piece :: next :: others)
          = piece ++ separator :: joinChars separator (next :: others) := rfl
        _ = [separator].intercalate (piece :: next :: others) := by
            rw [ih, List.intercalate_cons_cons, List.append_assoc, List.singleton_append]

theorem splitChars_of_not_mem {text : List Char} (absent : separator ∉ text) :
    splitChars separator text = [text] := by
  induction text with
  | nil => rfl
  | cons c rest ih =>
    rw [List.mem_cons, not_or] at absent
    simp [splitChars, Ne.symm absent.1, ih absent.2]

theorem not_mem_of_mem_splitChars {text piece : List Char}
    (member : piece ∈ splitChars separator text) : separator ∉ piece := by
  induction text generalizing piece with
  | nil => simp_all [splitChars]
  | cons c rest ih =>
    obtain ⟨first, others, cut⟩ := List.exists_cons_of_ne_nil (splitChars_ne_nil separator rest)
    rw [cut] at ih
    by_cases h : c = separator
    · rw [splitChars, if_pos h, cut] at member
      rcases List.mem_cons.mp member with rfl | later
      · exact List.not_mem_nil
      · exact ih later
    · simp only [splitChars, if_neg h, cut] at member
      rcases List.mem_cons.mp member with rfl | later
      · rw [List.mem_cons, not_or]
        exact ⟨Ne.symm h, ih List.mem_cons_self⟩
      · exact ih (List.mem_cons_of_mem first later)

theorem mem_of_mem_splitChars {text piece : List Char} (member : piece ∈ splitChars separator text)
    {c : Char} (inside : c ∈ piece) : c ∈ text := by
  induction text generalizing piece with
  | nil => simp_all [splitChars]
  | cons first rest ih =>
    obtain ⟨next, others, cut⟩ := List.exists_cons_of_ne_nil (splitChars_ne_nil separator rest)
    rw [cut] at ih
    by_cases h : first = separator
    · rw [splitChars, if_pos h, cut] at member
      rcases List.mem_cons.mp member with rfl | later
      · cases inside
      · exact List.mem_cons_of_mem first (ih later inside)
    · simp only [splitChars, if_neg h, cut] at member
      rcases List.mem_cons.mp member with rfl | later
      · rcases List.mem_cons.mp inside with rfl | after
        · exact List.mem_cons_self
        · exact List.mem_cons_of_mem first (ih List.mem_cons_self after)
      · exact List.mem_cons_of_mem first (ih (List.mem_cons_of_mem next later) inside)

/-- Between the pieces there is nothing but the separator. -/
theorem mem_joinChars {pieces : List (List Char)} {c : Char}
    (member : c ∈ joinChars separator pieces) : c = separator ∨ ∃ piece ∈ pieces, c ∈ piece := by
  induction pieces with
  | nil => cases member
  | cons piece rest ih =>
    cases rest with
    | nil => exact Or.inr ⟨piece, List.mem_cons_self, member⟩
    | cons next others =>
      rw [joinChars, List.mem_append, List.mem_cons] at member
      · rcases member with inside | rfl | later
        · exact Or.inr ⟨piece, List.mem_cons_self, inside⟩
        · exact Or.inl rfl
        · rcases ih later with same | ⟨other, among, inside⟩
          · exact Or.inl same
          · exact Or.inr ⟨other, List.mem_cons_of_mem piece among, inside⟩
      · exact List.cons_ne_nil next others

/-- Another separator is written between the pieces. -/
theorem joinChars_splitChars_other (old new : Char) (text : List Char) :
    joinChars new (splitChars old text) = text.map fun c => if c = old then new else c := by
  induction text with
  | nil => rfl
  | cons c rest ih =>
    obtain ⟨piece, pieces, cut⟩ := List.exists_cons_of_ne_nil (splitChars_ne_nil old rest)
    rw [cut] at ih
    by_cases h : c = old
    · simp [splitChars, h, cut, joinChars, ih]
    · cases pieces with
      | nil => simp_all [splitChars, joinChars]
      | cons next others => simp_all [splitChars, joinChars]

/-! ### Texts -/

theorem split_ofList (separator : Char) (text : List Char) :
    split separator (String.ofList text) = (splitChars separator text).map String.ofList := by
  rw [split, String.toList_ofList]

theorem split_ne_nil (separator : Char) (text : String) : split separator text ≠ [] := by
  simpa [split] using splitChars_ne_nil separator text.toList

theorem not_mem_of_mem_split {text piece : String} (member : piece ∈ split separator text) :
    separator ∉ piece.toList := by
  obtain ⟨chars, is_piece, rfl⟩ := List.mem_map.mp member
  rw [String.toList_ofList]
  exact not_mem_of_mem_splitChars is_piece

theorem mem_of_mem_split {text piece : String} (member : piece ∈ split separator text) {c : Char}
    (inside : c ∈ piece.toList) : c ∈ text.toList := by
  obtain ⟨chars, is_piece, rfl⟩ := List.mem_map.mp member
  rw [String.toList_ofList] at inside
  exact mem_of_mem_splitChars is_piece inside

theorem mem_join {pieces : List String} {c : Char} (member : c ∈ (join separator pieces).toList) :
    c = separator ∨ ∃ piece ∈ pieces, c ∈ piece.toList := by
  rw [join, String.toList_ofList] at member
  rcases mem_joinChars member with same | ⟨_, among, inside⟩
  · exact Or.inl same
  · obtain ⟨piece, there, rfl⟩ := List.mem_map.mp among
    exact Or.inr ⟨piece, there, inside⟩

theorem split_of_not_mem {text : String} (absent : separator ∉ text.toList) :
    split separator text = [text] := by
  rw [split, splitChars_of_not_mem absent, List.map_singleton, String.ofList_toList]

theorem split_dotted (before after : String) :
    split '.' (before ++ "." ++ after) = split '.' before ++ split '.' after := by
  have whole : (before ++ "." ++ after).toList = before.toList ++ '.' :: after.toList := by
    simp [String.toList_append]
  simp only [split, whole, splitChars_append, List.map_append]

theorem map_toList_split (separator : Char) (text : String) :
    (split separator text).map String.toList = splitChars separator text.toList := by
  rw [split, List.map_map]
  exact (List.map_congr_left fun chars _ => String.toList_ofList).trans (List.map_id _)

theorem join_split (separator : Char) (text : String) :
    join separator (split separator text) = text := by
  rw [join, map_toList_split, joinChars_splitChars, String.ofList_toList]

theorem replace_eq_join (old new : Char) (text : String) :
    replace old new text = join new (split old text) := by
  rw [join, map_toList_split, joinChars_splitChars_other, replace]

theorem join_eq_intercalate (separator : Char) (pieces : List String) :
    join separator pieces = (String.singleton separator).intercalate pieces := by
  rw [join, joinChars_eq_intercalate, ← String.toList_inj, String.toList_ofList,
    String.toList_intercalate, String.toList_singleton]

theorem join_singleton (separator : Char) (piece : String) : join separator [piece] = piece := by
  simp [join, joinChars]

theorem replace_of_not_mem {old new : Char} {text : String} (absent : old ∉ text.toList) :
    replace old new text = text := by
  rw [replace_eq_join, split_of_not_mem absent, join_singleton]

theorem replace_append (old new : Char) (before after : String) :
    replace old new (before ++ after) = replace old new before ++ replace old new after := by
  simp only [replace, String.toList_append, List.map_append, String.ofList_append]

/-- A character that is new to a text can be taken back out of it. -/
theorem replace_replace_of_not_mem {old new : Char} {text : String} (absent : new ∉ text.toList) :
    replace new old (replace old new text) = text := by
  simp only [replace, String.toList_ofList, List.map_map]
  have unchanged (c : Char) (member : c ∈ text.toList) :
      ((fun c => if c = new then old else c) ∘ fun c => if c = old then new else c) c = id c := by
    have known : c ≠ new := fun is_new => absent (is_new ▸ member)
    by_cases same : c = old <;> simp [same, known]
  rw [List.map_congr_left unchanged, List.map_id, String.ofList_toList]

theorem toList_join_append (separator : Char) {before after : List String}
    (before_nonempty : before ≠ []) (after_nonempty : after ≠ []) :
    (join separator (before ++ after)).toList =
      (join separator before).toList ++ separator :: (join separator after).toList := by
  simp only [join, String.toList_ofList, List.map_append]
  exact joinChars_append separator (by simpa using before_nonempty) (by simpa using after_nonempty)

theorem split_join_eq_flatMap (separator : Char) {pieces : List String} (nonempty : pieces ≠ []) :
    split separator (join separator pieces) = pieces.flatMap (split separator) := by
  rw [split, join, String.toList_ofList,
    splitChars_joinChars_eq_flatMap separator (by simpa using nonempty), List.flatMap_map,
    List.map_flatMap]
  rfl

/-- Pieces without the separator do not come apart. -/
theorem flatMap_split {pieces : List String} (clean : ∀ piece ∈ pieces, separator ∉ piece.toList) :
    pieces.flatMap (split separator) = pieces := by
  induction pieces with
  | nil => rfl
  | cons first rest ih =>
    rw [List.flatMap_cons, split_of_not_mem (clean first List.mem_cons_self),
      ih fun piece member => clean piece (List.mem_cons_of_mem first member)]
    rfl

theorem split_join {pieces : List String} (nonempty : pieces ≠ [])
    (clean : ∀ piece ∈ pieces, separator ∉ piece.toList) :
    split separator (join separator pieces) = pieces := by
  rw [split_join_eq_flatMap separator nonempty, flatMap_split clean]

/-- Two rows of pieces read alike if they come apart into the same pieces. -/
theorem join_eq_iff (separator : Char) {first second : List String} (first_nonempty : first ≠ [])
    (second_nonempty : second ≠ []) :
    join separator first = join separator second ↔
      first.flatMap (split separator) = second.flatMap (split separator) := by
  rw [← split_join_eq_flatMap separator first_nonempty,
    ← split_join_eq_flatMap separator second_nonempty]
  constructor
  · exact congrArg (split separator)
  · intro same
    rw [← join_split separator (join separator first), same, join_split]

theorem dropStart?_eq_some_iff {start text rest : String} :
    dropStart? start text = some rest ↔ text = start ++ rest := by
  rw [dropStart?, Option.map_eq_some_iff]
  constructor
  · rintro ⟨chars, dropped, rfl⟩
    apply String.toList_inj.mp
    rw [String.toList_append, String.toList_ofList,
      List.isPrefixOf?_eq_some_iff_append_eq.mp dropped]
  · rintro rfl
    refine ⟨rest.toList, List.isPrefixOf?_eq_some_iff_append_eq.mpr ?_, String.ofList_toList⟩
    rw [String.toList_append]

theorem dropEnding?_eq_some_iff {ending text rest : String} :
    dropEnding? ending text = some rest ↔ text = rest ++ ending := by
  rw [dropEnding?, Option.map_eq_some_iff]
  constructor
  · rintro ⟨chars, dropped, rfl⟩
    apply String.toList_inj.mp
    rw [String.toList_append, String.toList_ofList,
      List.isSuffixOf?_eq_some_iff_append_eq.mp dropped]
  · rintro rfl
    refine ⟨rest.toList, List.isSuffixOf?_eq_some_iff_append_eq.mpr ?_, String.ofList_toList⟩
    rw [String.toList_append]

theorem startsWith_iff {start text : String} :
    startsWith start text = true ↔ start.toList <+: text.toList :=
  List.isPrefixOf_iff_prefix

theorem hasInfix_iff {part text : List Char} : hasInfix part text = true ↔ part <:+: text := by
  induction text with
  | nil => rw [hasInfix, List.isEmpty_iff, List.infix_nil]
  | cons c rest ih =>
    rw [hasInfix, Bool.or_eq_true, List.isPrefixOf_iff_prefix, ih, List.infix_cons_iff]

theorem contains_iff {part text : String} :
    contains part text = true ↔ part.toList <:+: text.toList :=
  hasInfix_iff

end PackageAtlas.Text
