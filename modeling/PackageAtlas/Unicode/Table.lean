import PackageAtlas.Numeral
import PackageAtlas.Text

/-!
# Tables of character properties

A table is kept as lines of entries with blanks between them. The numbers in it are code points in
hexadecimal digits.
-/
namespace PackageAtlas.Unicode

def entries (lines : List String) : List String :=
  lines.flatMap (Text.split ' ')

def codePoint (digits : String) : Nat :=
  Numeral.value 16 digits.toList

/-- A closed range, written `first-last`, or `first` alone for a range of one. -/
def rangeOf (entry : String) : Nat × Nat :=
  match (Text.split '-' entry).map codePoint with
  | [first, last] => (first, last)
  | first :: _ => (first, first)
  | [] => (0, 0)

def ranges (lines : List String) : List (Nat × Nat) :=
  (entries lines).map rangeOf

def inRanges (ranges : List (Nat × Nat)) (code : Nat) : Bool :=
  ranges.any fun range => range.1 ≤ code && code ≤ range.2

end PackageAtlas.Unicode
