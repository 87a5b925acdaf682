import PackageAtlas.Python.Lexer
import PackageAtlas.Python.Pattern
import PackageAtlas.Python.Simple

/-!
# Blocks of Python

The statements with blocks of further statements. Since those nest, and so do expressions and
patterns, all phrases are built level by level: a phrase of one level is made of phrases of the
level below, and the lowest level has none. A level for each token is more than any source needs.
-/
namespace PackageAtlas.Python

open Reader

/-! ### Compound statements -/

abbrev BlockPhrases := Phrases (List Statement)

def colonBlock (phrases : BlockPhrases) : Parser (List Statement) :=
  symbol ":" *> phrases.block

/-- The block behind a keyword of its own, or no statements where there is none. -/
def blockAfter (phrases : BlockPhrases) (word : String) : Parser (List Statement) :=
  (keyword word *> colonBlock phrases) <|> pure []

def ifStatement (phrases : BlockPhrases) : Parser Statement := do
  keyword "if"
  let _ ← namedExpression phrases
  let first ← colonBlock phrases
  let rest ← many (keyword "elif" *> namedExpression phrases *> colonBlock phrases)
  return .conditional (first :: rest) (← blockAfter phrases "else")

def whileStatement (phrases : BlockPhrases) : Parser Statement := do
  keyword "while"
  let _ ← namedExpression phrases
  let body ← colonBlock phrases
  return .loop body (← blockAfter phrases "else")

def forStatement (phrases : BlockPhrases) : Parser Statement := do
  keyword "for"
  loopTargets phrases
  keyword "in"
  let _ ← expressions phrases
  let body ← colonBlock phrases
  return .loop body (← blockAfter phrases "else")

def handled (phrases : BlockPhrases) : Parser Unit := do
  let types ← separated phrases.expression (symbol ",")
  let closed ← given (symbol ",")
  -- Only a single exception without a comma can be given a name.
  if types.length = 1 && !closed then
    let _ ← given (keyword "as" *> identifier)

/-- A handler for the exceptions it names, or for all where it names none. -/
def handler (phrases : BlockPhrases) : Parser (List Statement) := do
  keyword "except"
  colonBlock phrases <|> (handled phrases *> colonBlock phrases)

def groupHandler (phrases : BlockPhrases) : Parser (List Statement) :=
  keyword "except" *> symbol "*" *> handled phrases *> colonBlock phrases

def tryStatement (phrases : BlockPhrases) : Parser Statement := do
  keyword "try"
  let body ← colonBlock phrases
  let handlers ← manyOne (groupHandler phrases) <|> many (handler phrases)
  if handlers.isEmpty then
    keyword "finally"
    return .attempt body [] [] (← colonBlock phrases)
  else
    let otherwise ← blockAfter phrases "else"
    return .attempt body handlers otherwise (← blockAfter phrases "finally")

/-- A value that a block is run with, and what it is assigned to. -/
def contextItem (phrases : BlockPhrases) : Parser Unit := do
  let _ ← phrases.expression
  let _ ← given (keyword "as" *> target phrases)

def withStatement (phrases : BlockPhrases) : Parser Statement := do
  keyword "with"
  -- The parentheses around items are told from those of an expression by the colon behind them.
  (symbol "(" *> commaList (contextItem phrases) *> symbol ")" *> ahead (symbol ":"))
    <|> (separated (contextItem phrases) (symbol ",") *> pure ())
  return .context (← colonBlock phrases)

def functionDefinition (phrases : BlockPhrases) : Parser Statement := do
  keyword "def"
  let _ ← identifier
  typeParameters phrases
  symbol "("
  parameters phrases true
  symbol ")"
  let _ ← given (symbol "->" *> phrases.expression)
  return .function (← colonBlock phrases)

def classStatement (phrases : BlockPhrases) : Parser Statement := do
  keyword "class"
  let _ ← identifier
  typeParameters phrases
  let _ ← given (symbol "(" *> arguments phrases *> symbol ")")
  return .classDefinition (← colonBlock phrases)

def definition (phrases : BlockPhrases) : Parser Statement := do
  let _ ← many (symbol "@" *> namedExpression phrases *> exactly [.newline])
  functionDefinition phrases
    <|> (keyword "async" *> functionDefinition phrases)
    <|> classStatement phrases

def caseBlock (phrases : BlockPhrases) : Parser (List Statement) := do
  softKeyword "case"
  openSequence phrases
  let _ ← given (keyword "if" *> namedExpression phrases)
  colonBlock phrases

def matchStatement (phrases : BlockPhrases) : Parser Statement := do
  softKeyword "match"
  let subject ← tupleOf (element phrases)
  if subject.isStarred then failure
  symbol ":"
  exactly [.newline, .indent]
  let cases ← manyOne (caseBlock phrases)
  exactly [.dedent]
  return .choice cases

def compoundStatement (phrases : BlockPhrases) : Parser Statement :=
  ifStatement phrases
    <|> whileStatement phrases
    <|> forStatement phrases
    <|> tryStatement phrases
    <|> withStatement phrases
    <|> definition phrases
    <|> (keyword "async" *> (forStatement phrases <|> withStatement phrases))
    <|> matchStatement phrases

/-! ### Blocks -/

/-- A compound statement, or the simple statements on one line. -/
def statements (phrases : BlockPhrases) : Parser (List Statement) :=
  ((fun statement => [statement]) <$> compoundStatement phrases) <|> simpleLine phrases

def block (phrases : BlockPhrases) : Parser (List Statement) :=
  (do
    exactly [.newline, .indent]
    let lines ← manyOne (statements phrases)
    exactly [.dedent]
    return lines.flatten)
  <|> simpleLine phrases

/-! ### Levels -/

namespace BlockPhrases

/-- The level at which nothing can be read any more. -/
def none : BlockPhrases := ⟨failure, failure, failure, failure, failure⟩

/-- The phrases made of those of the level below. -/
def next (below : BlockPhrases) : BlockPhrases :=
  ⟨expression below, primary below, pattern below, field below, block below⟩

def levels (count : Nat) : BlockPhrases :=
  Nat.repeat next count none

end BlockPhrases

def statements? (source : String) : Option (List Statement) := do
  let tokens ← tokens? source
  -- No phrase nests deeper than there are tokens.
  let lines ← whole (many (statements (.levels (tokens.length + 1)))) tokens
  return lines.flatten

/-- The imports of a source in the order of its text, or nothing when it is no valid module. -/
def imports? (source : String) : Option (List Import) :=
  importsOf <$> statements? source

end PackageAtlas.Python
