/-!
# Separated text

A text is cut at a separator character and put together again. All functions look at the text
as its list of characters, so that facts about lists carry over.
-/
namespace PackageAtlas.Text

/-- The pieces between the occurrences of `separator`: one more than there are separators. -/
def splitChars (separator : Char) : List Char → List (List Char)
  | [] => [[]]
  | c :: rest =>
    if c = separator then [] :: splitChars separator rest
    else match splitChars separator rest with
      | [] => [[c]]
      | piece :: pieces => (c :: piece) :: pieces

/-- The pieces put in a row with one `separator` between neighbours. -/
def joinChars (separator : Char) : List (List Char) → List Char
  | [] => []
  | [piece] => piece
  | piece :: pieces => piece ++ separator :: joinChars separator pieces

theorem splitChars_ne_nil (separator : Char) (text : List Char) :
    splitChars separator text ≠ [] := by
  induction text with
  | nil => simp [splitChars]
  | cons c rest ih =>
    simp only [splitChars]
    split
    · simp
    · split <;> simp

/-- Cutting loses nothing. -/
theorem joinChars_splitChars (separator : Char) (text : List Char) :
    joinChars separator (splitChars separator text) = text := by
  induction text with
  | nil => rfl
  | cons c rest ih =>
    obtain ⟨piece, pieces, cut⟩ := List.exists_cons_of_ne_nil (splitChars_ne_nil separator rest)
    rw [cut] at ih
    by_cases h : c = separator
    · simp [splitChars, h, cut, joinChars, ih]
    · cases pieces with
      | nil => simp_all [splitChars, joinChars]
      | cons next others => simp_all [splitChars, joinChars]

def split (separator : Char) (text : String) : List String :=
  (splitChars separator text.toList).map String.ofList

def join (separator : Char) (pieces : List String) : String :=
  String.ofList (joinChars separator (pieces.map String.toList))

/-- `text` with every `old` replaced by `new`. -/
def replace (old new : Char) (text : String) : String :=
  String.ofList (text.toList.map fun c => if c = old then new else c)

def trim (c : Char) (text : String) : String :=
  String.ofList ((text.toList.dropWhile (· == c)).reverse.dropWhile (· == c)).reverse

/-- What follows `start` in `text`, when `text` begins with it. -/
def dropStart? (start text : String) : Option String :=
  (start.toList.isPrefixOf? text.toList).map String.ofList

/-- What precedes `ending` in `text`, when `text` closes with it. -/
def dropEnding? (ending text : String) : Option String :=
  (ending.toList.isSuffixOf? text.toList).map String.ofList

def startsWith (start text : String) : Bool :=
  start.toList.isPrefixOf text.toList

/-- Whether `part` stands somewhere in a row in the given list. -/
def hasInfix (part : List Char) : List Char → Bool
  | [] => part.isEmpty
  | c :: rest => part.isPrefixOf (c :: rest) || hasInfix part rest

def contains (part text : String) : Bool :=
  hasInfix part.toList text.toList

end PackageAtlas.Text
