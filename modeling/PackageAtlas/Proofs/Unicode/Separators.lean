import PackageAtlas.Proofs.Unicode.Tables
import PackageAtlas.Python.Token

/-!
# Normal forms without separators

The dots and slashes of a normal form come from those of the text, or from one of a few characters
that decompose to them, such as the fullwidth slash. No identifier has one of these, so the name
that it stands for has neither dots nor slashes.
-/
namespace PackageAtlas.Unicode

/-- The dot and the slash. -/
def separators : List Nat := [0x2E, 0x2F]

/-- The characters that have a separator in their decompositions. -/
def separatorSources : List Nat :=
  [0x2024, 0x2025, 0x2026, 0x2100, 0x2101, 0x2105, 0x2106] ++ List.range' 0x2488 20 ++
    [0x33C2, 0x33C7, 0x33D8, 0xFE19, 0xFE30, 0xFE52, 0xFF0E, 0xFF0F, 0x1F100]

/-- Whether a character neither is a separator nor decomposes to one. -/
def NoSource (c : Char) : Prop := c.toNat ∉ separators ∧ c.toNat ∉ separatorSources

/-! ### Decompositions -/

/-- The characters of a run that have a code in their decompositions. -/
def DecompositionRun.sources (run : DecompositionRun) (code : Nat) : List Nat :=
  match run.target with
  | [target] =>
    if target ≤ code ∧ code < target + run.count then [run.first + (code - target)] else []
  | target => if code ∈ target then List.range' run.first run.count else []

/-- A run as its characters spell it. -/
def DecompositionRun.ofChars (entry : List Char) : DecompositionRun :=
  match Text.splitChars ':' entry with
  | [codes, target] =>
    let target := (Text.splitChars ',' target).map (Numeral.value 16)
    match (Text.splitChars '+' codes).map (Numeral.value 16) with
    | [first, count] => { first, count, target }
    | first :: _ => { first, count := 1, target }
    | [] => { first := 0, count := 0, target }
  | _ => { first := 0, count := 0, target := [] }

theorem DecompositionRun.ofEntry_ofList (entry : List Char) :
    ofEntry (String.ofList entry) = ofChars entry := by
  rw [ofEntry, ofChars, Text.split_ofList]
  cases Text.splitChars ':' entry with
  | nil => rfl
  | cons codes rest =>
    match rest with
    | [] => rfl
    | [target] =>
      match values : (Text.splitChars '+' codes).map (Numeral.value 16) with
      | [] | [_] | [_, _] | _ :: _ :: _ :: _ =>
        simp only [List.map_cons, List.map_nil, map_codePoint_split, values]
    | _ :: _ :: _ => rfl

/-- Whether all characters of a run that decompose to separators are known. -/
def DecompositionRun.Listed (run : DecompositionRun) : Prop :=
  ∀ code ∈ separators, ∀ source ∈ run.sources code, source ∈ separatorSources

/-- Runs over the characters of an entry what `Listed` says. -/
def checkRun (entry : List Char) : Bool :=
  separators.all fun code =>
    ((DecompositionRun.ofChars entry).sources code).all separatorSources.contains

theorem decompositionRuns_listed : ∀ run ∈ decompositionRuns, run.Listed := by
  have checked : ∀ entry, checkRun entry = true →
      (DecompositionRun.ofEntry (String.ofList entry)).Listed := by
    intro entry holds code separator source member
    rw [DecompositionRun.ofEntry_ofList] at member
    have inside := List.all_eq_true.mp (List.all_eq_true.mp holds code separator) source member
    exact List.contains_iff_mem.mp inside
  rw [decompositionRuns, List.forall_mem_map]
  change Throughout (fun entry => (DecompositionRun.ofEntry entry).Listed) _
  exact throughout_of_spelled checked
    (by
      dsimp only
      repeat apply spelled_cons
      exact spelled_nil)
    (by decide +kernel)

/-- A character that is no separator decomposes to separators only if it is known to. -/
theorem mem_separatorSources_of_decompose {character code : Nat} (separator : code ∈ separators)
    (apart : character ∉ separators) (member : code ∈ decompose character) :
    character ∈ separatorSources := by
  have small : ∀ code ∈ separators, code < 0x1100 := by decide
  unfold decompose at member
  split at member
  next hangul =>
    -- The letters of a syllable lie far behind the separators.
    have far : 0x1100 ≤ code := by
      have lead (index : Nat) : 0x1100 ≤ leadBase + index := Nat.le_add_right _ _
      have vowel (index : Nat) : 0x1100 ≤ vowelBase + index := by unfold vowelBase; omega
      have tail (index : Nat) : 0x1100 ≤ tailBase + index := by unfold tailBase; omega
      unfold decomposeHangul at member
      dsimp only at member
      split at member <;> simp only [List.mem_cons, List.not_mem_nil, or_false] at member
      · rcases member with same | same
        · exact same ▸ lead _
        · exact same ▸ vowel _
      · rcases member with same | same | same
        · exact same ▸ lead _
        · exact same ▸ vowel _
        · exact same ▸ tail _
    exact absurd (small code separator) (Nat.not_lt.mpr far)
  next =>
    split at member
    next =>
      rw [List.mem_singleton.mp member] at separator
      exact absurd separator apart
    next run found =>
      have listed := decompositionRuns_listed run (List.mem_of_find?_eq_some found) code separator
      have inside := List.find?_some found
      simp only [Bool.and_eq_true, decide_eq_true_eq] at inside
      apply listed
      unfold DecompositionRun.sources
      match target_eq : run.target with
      | [] =>
        rw [target_eq] at member
        cases member
      | [target] =>
        rw [target_eq] at member
        have same := List.mem_singleton.mp member
        dsimp only
        rw [if_pos (by omega), List.mem_singleton]
        omega
      | first :: second :: rest =>
        rw [target_eq] at member
        dsimp only at member ⊢
        rw [if_pos member, List.mem_range'_1]
        exact inside

/-! ### Compositions -/

/-- Whether no number in an entry is a separator. -/
def Spared (entry : String) : Prop :=
  ∀ part ∈ Text.split ':' entry, ∀ digits ∈ Text.split ',' part, codePoint digits ∉ separators

/-- Runs over the characters of an entry what `Spared` says. -/
def checkSpared (entry : List Char) : Bool :=
  (Text.splitChars ':' entry).all fun part =>
    (Text.splitChars ',' part).all fun digits => !separators.contains (Numeral.value 16 digits)

theorem compositions_spared : ∀ entry ∈ compositions, entry.2 ∉ separators := by
  have checked : ∀ entry, checkSpared entry = true → Spared (String.ofList entry) := by
    intro entry holds part part_inside digits inside
    rw [Text.split_ofList] at part_inside
    obtain ⟨part, among, rfl⟩ := List.mem_map.mp part_inside
    rw [Text.split_ofList] at inside
    obtain ⟨digits, digits_among, rfl⟩ := List.mem_map.mp inside
    rw [codePoint_ofList]
    have spared := List.all_eq_true.mp (List.all_eq_true.mp holds part among) digits digits_among
    simpa using spared
  intro composition member
  rw [compositions, List.mem_filterMap] at member
  obtain ⟨entry, inside, parsed⟩ := member
  have spared : Spared entry := throughout_of_spelled checked
    (by
      dsimp only
      repeat apply spelled_cons
      exact spelled_nil)
    (by decide +kernel) entry inside
  clear inside
  split at parsed
  next first second composed parts =>
    obtain ⟨code, head, rfl⟩ := Option.map_eq_some_iff.mp parsed
    have last : composed ∈ (Text.split ':' entry).map fun part =>
        (Text.split ',' part).map codePoint := by
      rw [parts]
      simp
    obtain ⟨part, among, rfl⟩ := List.mem_map.mp last
    obtain ⟨digits, digits_among, rfl⟩ := List.mem_map.mp (List.mem_of_mem_head? head)
    exact spared part among digits digits_among
  next => cases parsed

theorem compose?_spared {first second composed : Nat}
    (composes : compose? first second = some composed) : composed ∉ separators := by
  have behind {code : Nat} (far : hangulBase ≤ code) : code ∉ separators := by
    have small : ∀ code ∈ separators, code < hangulBase := by decide +kernel
    exact fun separator => absurd (small code separator) (Nat.not_lt.mpr far)
  unfold compose? at composes
  cases syllable : composeHangul? first second with
  | some code =>
    rw [syllable] at composes
    cases composes
    unfold composeHangul? at syllable
    split at syllable
    next =>
      rw [← Option.some.inj syllable]
      exact behind (Nat.le_add_right _ _)
    next =>
      split at syllable
      next tail =>
        rw [← Option.some.inj syllable]
        simp only [isHangul, Bool.and_eq_true, decide_eq_true_eq] at tail
        exact behind (Nat.le_add_right_of_le tail.1.1.1.1)
      next => cases syllable
  | none =>
    rw [syllable] at composes
    obtain ⟨before, after, whole, -⟩ := List.lookup_eq_some_iff.mp composes
    have among : ((first, second), composed) ∈ compositions := by
      rw [whole]
      simp
    exact compositions_spared _ among

/-! ### Normal forms -/

theorem mem_placeMark {mark other : Nat × Nat} {done : List (Nat × Nat)}
    (member : other ∈ placeMark mark done) : other = mark ∨ other ∈ done := by
  induction done with
  | nil => exact Or.inl (List.mem_singleton.mp member)
  | cons last before ih =>
    rw [placeMark] at member
    split at member
    next =>
      rcases List.mem_cons.mp member with rfl | inner
      · exact Or.inr List.mem_cons_self
      · exact (ih inner).imp_right (List.mem_cons_of_mem last)
    next => exact List.mem_cons.mp member

theorem mem_foldl_placeMark {codes : List Nat} {mark : Nat × Nat} {done : List (Nat × Nat)}
    (member : mark ∈ codes.foldl
      (fun done code => placeMark (code, combiningClass code) done) done) :
    mark ∈ done ∨ mark.1 ∈ codes := by
  induction codes generalizing done with
  | nil => exact Or.inl member
  | cons code rest ih =>
    rcases ih member with early | late
    · rcases mem_placeMark early with rfl | before
      · exact Or.inr List.mem_cons_self
      · exact Or.inl before
    · exact Or.inr (List.mem_cons_of_mem code late)

/-- Marks change places, but no character is added. -/
theorem mem_ordered {codes : List Nat} {mark : Nat × Nat} (member : mark ∈ ordered codes) :
    mark.1 ∈ codes :=
  (mem_foldl_placeMark (List.mem_reverse.mp member)).resolve_left List.not_mem_nil

/-- Whether neither the starter nor a mark behind it is a separator. -/
structure Cluster.Spared (cluster : Cluster) : Prop where
  starter : cluster.starter ∉ separators
  kept : ∀ mark ∈ cluster.kept, mark.1 ∉ separators

theorem Cluster.Spared.codes {cluster : Cluster} (spared : cluster.Spared) :
    ∀ code ∈ cluster.codes, code ∉ separators := by
  intro code member
  rcases List.mem_cons.mp member with rfl | behind
  · exact spared.starter
  · obtain ⟨mark, inside, rfl⟩ := List.mem_map.mp behind
    exact spared.kept mark (List.mem_reverse.mp inside)

/-- Whether no character that composing has gone through is a separator. -/
structure SparedState (state : List Nat × Option Cluster) : Prop where
  done : ∀ code ∈ state.1, code ∉ separators
  cluster {cluster : Cluster} : state.2 = some cluster → cluster.Spared

theorem SparedState.composeNext {state : List Nat × Option Cluster} (spared : SparedState state)
    {next : Nat × Nat} (next_spared : next.1 ∉ separators) :
    SparedState (Unicode.composeNext state next) := by
  obtain ⟨done, last⟩ := state
  have done_spared : ∀ code ∈ done, code ∉ separators := spared.done
  have fresh : (Cluster.mk next.1 []).Spared := ⟨next_spared, by simp⟩
  cases last with
  | none =>
    unfold Unicode.composeNext
    dsimp only
    split
    next => exact ⟨done_spared, fun same => Option.some.inj same ▸ fresh⟩
    next => exact ⟨List.forall_mem_cons.mpr ⟨next_spared, done_spared⟩, by simp⟩
  | some last =>
    have last_spared : last.Spared := spared.cluster rfl
    unfold Unicode.composeNext
    dsimp only
    split
    next composed composes =>
      have composed_spared : composed ∉ separators :=
        compose?_spared (Option.ite_none_left_eq_some.mp composes).2
      have grown : ({ last with starter := composed } : Cluster).Spared :=
        ⟨composed_spared, last_spared.kept⟩
      exact ⟨done_spared, fun same => Option.some.inj same ▸ grown⟩
    next =>
      split
      next =>
        refine ⟨fun code member => ?_, fun same => Option.some.inj same ▸ fresh⟩
        rcases List.mem_append.mp member with ended | early
        · exact last_spared.codes code (List.mem_reverse.mp ended)
        · exact done_spared code early
      next =>
        have grown : ({ last with kept := next :: last.kept } : Cluster).Spared :=
          ⟨last_spared.starter, List.forall_mem_cons.mpr ⟨next_spared, last_spared.kept⟩⟩
        exact ⟨done_spared, fun same => Option.some.inj same ▸ grown⟩

theorem SparedState.foldl {marks : List (Nat × Nat)}
    (marks_spared : ∀ mark ∈ marks, mark.1 ∉ separators) {state : List Nat × Option Cluster}
    (spared : SparedState state) : SparedState (marks.foldl Unicode.composeNext state) := by
  induction marks generalizing state with
  | nil => exact spared
  | cons mark rest ih =>
    obtain ⟨here, later⟩ := List.forall_mem_cons.mp marks_spared
    exact ih later (spared.composeNext here)

/-- Composing brings no separators. -/
theorem compose_spared {marks : List (Nat × Nat)} (spared : ∀ mark ∈ marks, mark.1 ∉ separators) :
    ∀ code ∈ compose marks, code ∉ separators := by
  have nothing : SparedState ([], none) := ⟨by simp, by simp⟩
  have ended := nothing.foldl spared
  intro code member
  unfold compose at member
  split at member
  next done whole =>
    rw [whole] at ended
    exact ended.done code (List.mem_reverse.mp member)
  next done last whole =>
    rw [whole] at ended
    rcases List.mem_append.mp member with early | late
    · exact ended.done code (List.mem_reverse.mp early)
    · exact (ended.cluster rfl).codes code late

/-- A text without separators and without characters that decompose to them has a normal form
without separators. -/
theorem normalize_spared {text : String} (spared : ∀ c ∈ text.toList, NoSource c) :
    ∀ c ∈ (normalize text).toList, c.toNat ∉ separators := by
  intro c member
  unfold normalize at member
  dsimp only at member
  rw [String.toList_ofList] at member
  obtain ⟨code, composed, rfl⟩ := List.mem_map.mp member
  have code_spared : code ∉ separators := by
    refine compose_spared ?_ code composed
    intro mark inside
    obtain ⟨c, among, decomposed⟩ := List.mem_flatMap.mp (mem_ordered inside)
    obtain ⟨apart, no_source⟩ := spared c among
    exact fun separator => no_source (mem_separatorSources_of_decompose separator apart decomposed)
  by_cases valid : code.isValidChar
  · rw [Char.ofNat, dif_pos valid]
    exact code_spared
  · rw [Char.ofNat, dif_neg valid]
    decide

/-! ### Identifiers -/

/-- A range as its characters spell it. -/
def rangeOfChars (entry : List Char) : Nat × Nat :=
  match (Text.splitChars '-' entry).map (Numeral.value 16) with
  | [first, last] => (first, last)
  | first :: _ => (first, first)
  | [] => (0, 0)

theorem rangeOf_ofList (entry : List Char) :
    rangeOf (String.ofList entry) = rangeOfChars entry := by
  rw [rangeOf, map_codePoint_split]
  rfl

/-- Whether a range has no character in it that decomposes to separators. -/
def Sourceless (entry : String) : Prop :=
  ∀ source ∈ separatorSources, ¬ ((rangeOf entry).1 ≤ source ∧ source ≤ (rangeOf entry).2)

/-- Runs over the characters of an entry what `Sourceless` says. -/
def checkSourceless (entry : List Char) : Bool :=
  separatorSources.all fun source =>
    !((rangeOfChars entry).1 ≤ source && source ≤ (rangeOfChars entry).2)

theorem sourceless_of_check {entry : List Char} (checked : checkSourceless entry = true) :
    Sourceless (String.ofList entry) := by
  intro source member inside
  rw [rangeOf_ofList] at inside
  have apart := List.all_eq_true.mp checked source member
  simp [inside.1, inside.2] at apart

theorem not_inRanges_of_sourceless {lines : List String} (sourceless : Throughout Sourceless lines)
    {source : Nat} (member : source ∈ separatorSources) :
    inRanges (ranges lines) source = false := by
  rw [inRanges, List.any_eq_false]
  intro range among
  obtain ⟨entry, inside, rfl⟩ := List.mem_map.mp among
  simpa using sourceless entry inside source member

theorem not_inRanges_start {source : Nat} (member : source ∈ separatorSources) :
    inRanges identifierStartRanges source = false :=
  not_inRanges_of_sourceless
    (throughout_of_spelled (fun _ => sourceless_of_check)
      (by
        repeat apply spelled_cons
        exact spelled_nil)
      (by decide +kernel)) member

theorem not_inRanges_part {source : Nat} (member : source ∈ separatorSources) :
    inRanges identifierPartRanges source = false :=
  not_inRanges_of_sourceless
    (throughout_of_spelled (fun _ => sourceless_of_check)
      (by
        repeat apply spelled_cons
        exact spelled_nil)
      (by decide +kernel)) member

private theorem not_word : ∀ code ∈ separators ++ separatorSources,
    (Char.ofNat code).isAlphanum = false ∧ Char.ofNat code ≠ '_' := by
  decide +kernel

private theorem noSource_of_word {c : Char} (word : c.isAlphanum = true ∨ c = '_') :
    NoSource c := by
  rw [NoSource, ← not_or, ← List.mem_append]
  intro member
  obtain ⟨not_alphanum, not_underscore⟩ := not_word c.toNat member
  rw [Char.ofNat_toNat] at not_alphanum not_underscore
  rcases word with alphanum | underscore
  · rw [alphanum] at not_alphanum
    cases not_alphanum
  · exact not_underscore underscore

private theorem noSource_of_inRanges {ranges : List (Nat × Nat)} {c : Char}
    (apart : ∀ source ∈ separatorSources, inRanges ranges source = false) (far : 0x80 ≤ c.toNat)
    (inside : inRanges ranges c.toNat = true) : NoSource c := by
  have small : ∀ code ∈ separators, code < 0x80 := by decide
  refine ⟨fun separator => ?_, fun source => ?_⟩
  · exact absurd (small _ separator) (Nat.not_lt.mpr far)
  · rw [apart _ source] at inside
    cases inside

theorem noSource_of_isIdentifierPart {c : Char} (part : isIdentifierPart c = true) :
    NoSource c := by
  simp only [isIdentifierPart, Bool.or_eq_true, Bool.and_eq_true, decide_eq_true_eq] at part
  rcases part with word | ⟨far, inside⟩
  · exact noSource_of_word word
  · exact noSource_of_inRanges (fun _ => not_inRanges_part) far inside

theorem noSource_of_isIdentifierStart {c : Char} (start : isIdentifierStart c = true) :
    NoSource c := by
  simp only [isIdentifierStart, Bool.or_eq_true, Bool.and_eq_true, decide_eq_true_eq] at start
  rcases start with alpha | ⟨far, inside⟩
  · exact noSource_of_word (Or.inl (by rw [Char.isAlphanum, alpha, Bool.true_or]))
  · exact noSource_of_inRanges (fun _ => not_inRanges_start) far inside

end PackageAtlas.Unicode

namespace PackageAtlas.Python

open Unicode

theorem Identifier.noSource (identifier : Identifier) :
    ∀ c ∈ identifier.spelling.toList, NoSource c := by
  have valid := identifier.valid
  unfold isIdentifier at valid
  split at valid
  next => cases valid
  next first rest spelled =>
    rw [spelled]
    simp only [Bool.and_eq_true, Bool.or_eq_true, decide_eq_true_eq] at valid
    obtain ⟨underscore | start, parts⟩ := valid
    · exact List.forall_mem_cons.mpr ⟨noSource_of_word (Or.inr underscore), fun c member =>
        noSource_of_isIdentifierPart (List.all_eq_true.mp parts c member)⟩
    · exact List.forall_mem_cons.mpr ⟨noSource_of_isIdentifierStart start, fun c member =>
        noSource_of_isIdentifierPart (List.all_eq_true.mp parts c member)⟩

/-- A name has neither dots nor slashes. -/
theorem Name.spared (name : Name) : ∀ c ∈ name.text.toList, c.toNat ∉ separators := by
  obtain ⟨_, identifier, rfl⟩ := name
  dsimp only
  unfold Identifier.name
  split
  next => exact fun c member => (identifier.noSource c member).1
  next => exact normalize_spared identifier.noSource

end PackageAtlas.Python
