import Mathlib.Data.List.Basic
import Mathlib.Data.List.Induction
import PackageAtlas.FileTree.Basic
import PackageAtlas.Proofs.Path.Components

/-!
# Paths of locations

The path of a location is cut into its names again. Its parent, its file name and the directories
around it are those of the location.
-/
namespace PackageAtlas

/-- Names that stand as one segment of a path and mean an entry of a directory. -/
structure PlainName (name : String) : Prop where
  not_void : Path.isVoid name = false
  not_up : name ≠ ".."
  no_slash : '/' ∉ name.toList

theorem PlainName.relative {name : String} (plain : PlainName name) :
    (Path.mk name).isAbsolute = false := by
  rw [Path.isAbsolute, beq_eq_false_iff_ne]
  exact fun slash => plain.no_slash (List.mem_of_mem_head? slash)

namespace Location

def Plain (location : Location) : Prop :=
  ∀ name ∈ location, PlainName name

theorem plain_append {before after : Location} :
    Plain (before ++ after) ↔ Plain before ∧ Plain after := by
  simp only [Plain, List.mem_append]
  exact ⟨fun plain => ⟨fun name member => plain name (Or.inl member),
    fun name member => plain name (Or.inr member)⟩,
    fun plain name member => member.elim (plain.1 name) (plain.2 name)⟩

theorem plain_nil : Plain [] := fun _ member => absurd member List.not_mem_nil

theorem plain_singleton {name : String} : Plain [name] ↔ PlainName name := by
  simp [Plain]

theorem plain_concat {location : Location} {name : String} :
    Plain (location ++ [name]) ↔ Plain location ∧ PlainName name := by
  rw [plain_append, plain_singleton]

/-- The segments of the path of a location, of which the root has an empty one. -/
def segments (location : Location) : List String :=
  if location = [] then [""] else location

theorem split_join_names {location : Location} (plain : location.Plain) :
    Text.split '/' (Text.join '/' location) = location.segments := by
  unfold segments
  split
  next empty => rw [empty]; decide
  next nonempty => exact Text.split_join nonempty fun name member => (plain name member).no_slash

theorem parts_path {location : Location} (plain : location.Plain) :
    location.path.parts = (some .root, location.segments) := by
  have text : location.path.text.toList = '/' :: (Text.join '/' location).toList := by
    simp [path, String.toList_append]
  unfold Path.parts
  rw [text]
  change (some Component.root, Text.split '/' (String.ofList (Text.join '/' location).toList)) = _
  rw [String.ofList_toList, split_join_names plain]

theorem split_path {location : Location} (plain : location.Plain) :
    Text.split '/' location.path.text = "" :: location.segments := by
  have text : location.path.text.toList = '/' :: (Text.join '/' location).toList := by
    simp [path, String.toList_append]
  rw [← split_join_names plain, Text.split, Text.split, text, Text.splitChars, if_pos rfl]
  rfl

theorem components_path {location : Location} (plain : location.Plain) :
    location.path.components = .root :: location.map .named := by
  have kept : location.segments.filter (!Path.isVoid ·) = location := by
    unfold segments
    split
    next empty => rw [empty]; rfl
    next => exact List.filter_eq_self.mpr fun name member => by simp [(plain name member).not_void]
  rw [Path.components, parts_path plain]
  simp only [Option.toList_some, List.singleton_append, kept, List.cons.injEq, true_and]
  apply List.map_congr_left
  intro name member
  exact if_neg (plain name member).not_up

theorem text_path_append {location : Location} (nonempty : location ≠ []) (name : String) :
    (path (location ++ [name])).text = location.path.text ++ "/" ++ name := by
  apply String.toList_inj.mp
  simp [path, String.toList_append, Text.toList_join_append '/' nonempty, Text.join_singleton]

theorem path_singleton (name : String) : path [name] = ⟨"/" ++ name⟩ := by
  simp [path, Text.join_singleton]

/-- Only the path of the root ends with a slash. -/
theorem getLast?_path {location : Location} (plain : location.Plain) (nonempty : location ≠ []) :
    location.path.text.toList.getLast? ≠ some '/' := by
  obtain ⟨before, last, rfl⟩ : ∃ before last, location = before ++ [last] :=
    ⟨_, _, (List.dropLast_concat_getLast nonempty).symm⟩
  obtain ⟨-, plain_last⟩ := plain_append.mp plain
  have last_plain := plain_singleton.mp plain_last
  obtain ⟨start, text⟩ : ∃ start, (path (before ++ [last])).text.toList = start ++ last.toList := by
    by_cases empty : before = []
    · exact ⟨['/'], by simp [empty, path_singleton, String.toList_append]⟩
    · exact ⟨(path before).text.toList ++ ['/'], by
        simp [text_path_append empty, String.toList_append]⟩
  -- A name is not empty, so the last character is one of the name, which has no slash.
  have some_char : last.toList ≠ [] := by
    intro none_char
    have void := last_plain.not_void
    rw [String.toList_eq_nil_iff.mp none_char] at void
    exact absurd void (by decide)
  rw [text, List.getLast?_append_of_ne_nil _ some_char]
  exact fun slash => last_plain.no_slash (List.mem_of_getLast? slash)

/-- The entry of a directory lies one name further. -/
theorem child_path {location : Location} {name : String} (plain : location.Plain)
    (plain_name : PlainName name) : location.path.child name = path (location ++ [name]) := by
  rw [Path.child, Path.join, if_neg (by simp [plain_name.relative])]
  by_cases empty : location = []
  · rw [empty, if_pos (by decide), List.nil_append, path_singleton]
    rfl
  · -- Any other location has a path without a slash at its end, so the join puts one there.
    have text_nonempty : location.path.text.isEmpty = false := by
      simp [path]
    have not_slash := getLast?_path plain empty
    rw [if_neg (by simp [text_nonempty, not_slash])]
    exact congrArg Path.mk (text_path_append empty name).symm

/-! ### Directories around a location -/

theorem dropVoidEnd_segments {location : Location} (plain : location.Plain) :
    Path.dropVoidEnd location.segments = location := by
  unfold segments
  split
  next empty => rw [empty]; rfl
  next nonempty =>
    obtain ⟨before, last, rfl⟩ : ∃ before last, location = before ++ [last] :=
      ⟨_, _, (List.dropLast_concat_getLast nonempty).symm⟩
    have last_plain := plain_singleton.mp (plain_append.mp plain).2
    simp [Path.dropVoidEnd, last_plain.not_void]

theorem parent?_root : (path []).parent? = none := by
  simp [Path.parent?, parts_path plain_nil, dropVoidEnd_segments plain_nil]

theorem parent?_path {location : Location} {name : String} (plain : Plain (location ++ [name])) :
    (path (location ++ [name])).parent? = some location.path := by
  have above_plain := (plain_append.mp plain).1
  have above_end : Path.dropVoidEnd location = location := by
    by_cases empty : location = []
    · rw [empty]; rfl
    · have same := dropVoidEnd_segments above_plain
      rwa [segments, if_neg empty] at same
  simp only [Path.parent?, parts_path plain, dropVoidEnd_segments plain, List.dropLast_concat]
  split
  next empty => simp at empty
  next => rw [above_end]; rfl

theorem fileName?_root : (path []).fileName? = none := by
  rw [Path.fileName?, components_path plain_nil]
  rfl

theorem fileName?_path {location : Location} {name : String} (plain : Plain (location ++ [name])) :
    (path (location ++ [name])).fileName? = some name := by
  rw [Path.fileName?, components_path plain, List.map_append, List.map_singleton,
    ← List.cons_append, List.getLast?_concat]

theorem lineageWithin_root (bound : Nat) : (path []).lineageWithin bound = [path []] := by
  cases bound with
  | zero => rfl
  | succ bound => rw [Path.lineageWithin, parent?_root]

theorem lineageWithin_path {location : Location} {name : String}
    (plain : Plain (location ++ [name])) (bound : Nat) :
    (path (location ++ [name])).lineageWithin (bound + 1) =
      path (location ++ [name]) :: location.path.lineageWithin bound := by
  rw [Path.lineageWithin, parent?_path plain]

theorem lineage_root : (path []).lineage = [path []] :=
  lineageWithin_root _

theorem lineage_path {location : Location} {name : String} (plain : Plain (location ++ [name])) :
    (path (location ++ [name])).lineage = path (location ++ [name]) :: location.path.lineage := by
  have above_plain := (plain_append.mp plain).1
  have count {place : Location} (place_plain : place.Plain) :
      place.path.components.length = place.length + 1 := by
    rw [components_path place_plain, List.length_cons, List.length_map]
  rw [Path.lineage, Path.lineage, count plain, count above_plain, lineageWithin_path plain,
    List.length_append, List.length_singleton]

end Location

end PackageAtlas
