import PackageAtlas.Python.Expression

/-!
# Patterns of Python

What a `case` matches its subject against. Like expressions, patterns hold no statements and are
only recognized.
-/
namespace PackageAtlas.Python

open Reader

variable {Block : Type}

/-! ### Literals -/

/-- A number behind its sign; answers whether it is imaginary. -/
def signedNumber : Parser Bool := do
  let _ ← given (symbol "-")
  match ← next with
  | .number imaginary => return imaginary
  | _ => failure

/-- A number, or a real number with an imaginary one added or taken away. -/
def numberPattern : Parser Unit := do
  let imaginary ← signedNumber
  if ← given (anySymbol ["+", "-"]) then
    if imaginary then failure
    exactly [.number true]

def literalPattern (phrases : Phrases Block) : Parser Unit :=
  numberPattern
    <|> strings phrases
    <|> keyword "None" <|> keyword "True" <|> keyword "False"

/-! ### Sequences -/

/-- A name that a part of the subject is kept under. -/
def captureName : Parser Unit := do
  if (← identifier).spelling = "_" then failure

/-- An element of a sequence; answers whether it is a star, which stands for any number of them. -/
def sequenceItem (phrases : Phrases Block) : Parser Bool :=
  (symbol "*" *> identifier *> pure true) <|> (phrases.pattern *> pure false)

def openSequence (phrases : Phrases Block) : Parser Unit := do
  let items ← separated (sequenceItem phrases) (symbol ",")
  let closed ← given (symbol ",")
  -- A star alone is no sequence.
  if items = [true] && !closed then failure

/-! ### Mappings and classes -/

/-- An entry of a mapping; answers whether it takes all entries that are left. -/
def mappingItem (phrases : Phrases Block) : Parser Bool :=
  (symbol "**" *> captureName *> pure true)
  <|> (do
    let dotted := do
      let names ← separated identifier (symbol ".")
      if names.length < 2 then failure
    literalPattern phrases <|> dotted
    symbol ":"
    phrases.pattern
    return false)

def mappingPattern (phrases : Phrases Block) : Parser Unit := do
  let items ← commaListOrNone (mappingItem phrases)
  -- What takes all entries that are left stands at the end.
  if items.dropLast.contains true then failure
  symbol "\x7d"

/-- A part of an object; answers whether it is named. -/
def classItem (phrases : Phrases Block) : Parser Bool :=
  (identifier *> symbol "=" *> phrases.pattern *> pure true) <|> (phrases.pattern *> pure false)

def classPattern (phrases : Phrases Block) : Parser Unit := do
  let items ← commaListOrNone (classItem phrases)
  -- Parts by position come before those by name.
  if (items.dropWhile (!·)).contains false then failure
  symbol ")"

/-! ### Patterns -/

def closedPattern (phrases : Phrases Block) : Parser Unit := do
  match ← peek with
  | some (.symbol "(") =>
    let _ ← next
    let _ ← given (openSequence phrases)
    symbol ")"
  | some (.symbol "[") =>
    let _ ← next
    let _ ← commaListOrNone (sequenceItem phrases)
    symbol "]"
  | some (.symbol "\x7b") => next *> mappingPattern phrases
  | some (.name ⟨"_", _⟩) => next *> pure ()
  | some (.name _) =>
    let _ ← separated identifier (symbol ".")
    let _ ← given (symbol "(" *> classPattern phrases)
  | _ => literalPattern phrases

/-- Alternatives, perhaps with a name for what they match. -/
def pattern (phrases : Phrases Block) : Parser Unit := do
  let _ ← separated (closedPattern phrases) (symbol "|")
  let _ ← given (keyword "as" *> captureName)

end PackageAtlas.Python
