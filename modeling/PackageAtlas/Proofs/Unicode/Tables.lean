import PackageAtlas.Proofs.Text
import PackageAtlas.Unicode.Table

/-!
# What all entries of a table have in common

The tables are literals, and the kernel takes long to read the characters of a literal out of its
bytes. So the lines of a table are spelled out first: a literal is the text of its list of
characters, which unification finds. Checks are then run on those lists.
-/
namespace PackageAtlas.Unicode

theorem codePoint_ofList (digits : List Char) :
    codePoint (String.ofList digits) = Numeral.value 16 digits := by
  rw [codePoint, String.toList_ofList]

theorem map_codePoint_split (separator : Char) (entry : List Char) :
    (Text.split separator (String.ofList entry)).map codePoint =
      (Text.splitChars separator entry).map (Numeral.value 16) := by
  rw [Text.split_ofList, List.map_map]
  exact List.map_congr_left fun digits _ => codePoint_ofList digits

theorem spelled_nil : ([] : List String) = ([] : List (List Char)).map String.ofList := rfl

theorem spelled_cons {line : List Char} {lines : List String} {spelled : List (List Char)}
    (rest : lines = spelled.map String.ofList) :
    String.ofList line :: lines = (line :: spelled).map String.ofList := by
  rw [rest, List.map_cons]

/-- Whether all entries in the lines of a table have a property. -/
def Throughout (property : String → Prop) (lines : List String) : Prop :=
  ∀ entry ∈ entries lines, property entry

/-- What is checked on the characters of all entries holds throughout the table. -/
theorem throughout_of_spelled {property : String → Prop} {check : List Char → Bool}
    (checked : ∀ entry, check entry = true → property (String.ofList entry))
    {lines : List String} {spelled : List (List Char)} (same : lines = spelled.map String.ofList)
    (all : (spelled.all fun line => (Text.splitChars ' ' line).all check) = true) :
    Throughout property lines := by
  intro entry member
  obtain ⟨line, among, inside⟩ := List.mem_flatMap.mp member
  rw [same] at among
  obtain ⟨chars, spelled_line, rfl⟩ := List.mem_map.mp among
  rw [Text.split_ofList] at inside
  obtain ⟨piece, piece_inside, rfl⟩ := List.mem_map.mp inside
  exact checked piece (List.all_eq_true.mp (List.all_eq_true.mp all chars spelled_line) piece
    piece_inside)

end PackageAtlas.Unicode
