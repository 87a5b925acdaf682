import PackageAtlas.Python.Expression
import PackageAtlas.Python.Statement

/-!
# Simple statements of Python

The statements without a block. They stand on one line, with semicolons between them.
-/
namespace PackageAtlas.Python

open Reader

variable {Block : Type}

/-! ### Imports -/

def dottedName : Parser (List Name) :=
  separated name (symbol ".")

def importModules : Parser Statement := do
  keyword "import"
  let modules ← separated (dottedName <* given (keyword "as" *> identifier)) (symbol ",")
  return .importModules modules

def importedName : Parser ImportedName := do
  let first ← name
  return .single first (← optional (keyword "as" *> name))

/-- The first of the imported names, and the others. -/
def importedNames : Parser (ImportedName × List ImportedName) :=
  let row := firstSeparated importedName (symbol ",")
  (symbol "*" *> pure (.all, []))
    -- Only a list between parentheses may end in a comma.
    <|> (symbol "(" *> (row <* given (symbol ",")) <* symbol ")")
    <|> row

def leadingDots : Parser Nat := do
  -- Three dots in a row are one symbol.
  let symbols ← many (((fun _ => 1) <$> symbol ".") <|> ((fun _ => 3) <$> symbol "..."))
  return symbols.foldl Nat.add 0

def importFrom : Parser Statement := do
  keyword "from"
  let level ← leadingDots
  let module ← optional dottedName
  if level = 0 && module.isNone then failure
  keyword "import"
  let (first, others) ← importedNames
  return .importFrom module first others level

def importStatement : Parser Statement := do
  -- `lazy` makes no difference to what is imported.
  let _ ← given (softKeyword "lazy")
  importModules <|> importFrom

/-! ### Type parameters -/

/-- A type parameter with its bound and its default. -/
def typeParameter (phrases : Phrases Block) : Parser Unit :=
  let default (value : Parser Shape) := given (symbol "=" *> value) *> pure ()
  (symbol "**" *> identifier *> default phrases.expression)
    <|> (symbol "*" *> identifier *> default (starredOf (sum phrases) <|> phrases.expression))
    <|> (identifier *> given (symbol ":" *> phrases.expression) *> default phrases.expression)

def typeParameters (phrases : Phrases Block) : Parser Unit := do
  let _ ← given (symbol "[" *> commaList (typeParameter phrases) *> symbol "]")

def typeAlias (phrases : Phrases Block) : Parser Unit := do
  softKeyword "type"
  let _ ← identifier
  typeParameters phrases
  symbol "="
  let _ ← phrases.expression

/-! ### Assignments -/

/-- The sign of an assignment that works on the old value. -/
def updateSign : Parser Unit :=
  anySymbol ["+=", "-=", "*=", "/=", "//=", "%=", "@=", "&=", "|=", "^=", ">>=", "<<=", "**="]

/-- An expression, or values assigned to it. -/
def assignment (phrases : Phrases Block) : Parser Unit := do
  let first ← assigned phrases
  if ← givenWhere first.isPlace (symbol ":") then
    let _ ← phrases.expression
    let _ ← given (symbol "=" *> assigned phrases)
  else if ← givenWhere first.isPlace updateSign then
    let _ ← assigned phrases
  else
    let rest ← many (symbol "=" *> assigned phrases)
    if Shape.areTargets ((first :: rest).dropLast) then pure () else failure

/-! ### Statements -/

/-- A simple statement that begins with a keyword and imports nothing. -/
def keywordStatement (phrases : Phrases Block) : Parser Unit := do
  match ← next with
  | .keyword "pass" | .keyword "break" | .keyword "continue" => pure ()
  | .keyword "return" =>
    let _ ← given (expressions phrases)
  | .keyword "raise" =>
    let _ ← given (phrases.expression *> given (keyword "from" *> phrases.expression))
  | .keyword "assert" =>
    let _ ← phrases.expression
    let _ ← given (symbol "," *> phrases.expression)
  | .keyword "del" =>
    let shapes ← commaList phrases.primary
    if Shape.areDeletable shapes then pure () else failure
  | .keyword "global" | .keyword "nonlocal" =>
    let _ ← separated identifier (symbol ",")
  | _ => failure

def simpleStatement (phrases : Phrases Block) : Parser Statement :=
  importStatement
    <|> ((keywordStatement phrases <|> typeAlias phrases <|> assignment phrases) *> pure .simple)

def simpleLine (phrases : Phrases Block) : Parser (List Statement) :=
  separated (simpleStatement phrases) (symbol ";") <* given (symbol ";") <* exactly [.newline]

end PackageAtlas.Python
