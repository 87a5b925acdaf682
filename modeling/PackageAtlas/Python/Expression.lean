import PackageAtlas.Python.Token
import PackageAtlas.Reader

/-!
# Expressions of Python

Expressions hold no statements, so they are only recognized. What is kept of an expression is its
shape, which decides whether something may be assigned to it.
-/
namespace PackageAtlas.Python

/-- What an expression looks like from outside. Parentheses around it make no difference. -/
inductive Shape where
  | name
  | attribute
  | subscript
  | starred (inner : Shape)
  | tuple (items : List Shape)
  | list (items : List Shape)
  /-- An assignment expression without parentheses. -/
  | binding
  | other

namespace Shape

/-- Whether it names one place, which can be annotated or updated. -/
def isPlace : Shape → Bool
  | .name | .attribute | .subscript => true
  | _ => false

def isStarred : Shape → Bool
  | .starred _ => true
  | _ => false

def isBinding : Shape → Bool
  | .binding => true
  | _ => false

mutual
/-- Whether it can be assigned to. -/
def isTarget : Shape → Bool
  | .name | .attribute | .subscript => true
  | .tuple items | .list items => areTargets items
  | _ => false

/-- Whether all can be assigned to together, the rest going to those with a star. -/
def areTargets : List Shape → Bool
  | [] => true
  | .starred inner :: rest => inner.isTarget && areTargets rest
  | item :: rest => item.isTarget && areTargets rest
end

mutual
def isDeletable : Shape → Bool
  | .name | .attribute | .subscript => true
  | .tuple items | .list items => areDeletable items
  | _ => false

def areDeletable : List Shape → Bool
  | [] => true
  | item :: rest => item.isDeletable && areDeletable rest
end

end Shape

abbrev Parser := Reader Token

/-- The phrases that occur inside of themselves, for one level of nesting and those below it. -/
structure Phrases (Block : Type) where
  expression : Parser Shape
  /-- A value with the attributes, calls and subscriptions behind it. -/
  primary : Parser Shape
  pattern : Parser Unit
  /-- A replacement field of a string. -/
  field : Parser Unit
  block : Parser Block

open Reader

/-! ### Single tokens -/

def symbol (text : String) : Parser Unit := exactly [.symbol text]

def keyword (word : String) : Parser Unit := exactly [.keyword word]

def identifier : Parser Identifier := do
  match ← next with
  | .name identifier => return identifier
  | _ => failure

def name : Parser Name :=
  (fun identifier => ⟨identifier.name, identifier, rfl⟩) <$> identifier

/-- A word that is an identifier everywhere else. -/
def softKeyword (word : String) : Parser Unit := do
  if (← identifier).spelling ≠ word then failure

def anySymbol (texts : List String) : Parser Unit := do
  match ← next with
  | .symbol text => if texts.contains text then pure () else failure
  | _ => failure

/-- Elements with commas between them and an optional comma behind the last. -/
def commaList {α : Type} (element : Parser α) : Parser (List α) :=
  separated element (symbol ",") <* given (symbol ",")

def commaListOrNone {α : Type} (element : Parser α) : Parser (List α) :=
  commaList element <|> pure []

variable {Block : Type}

/-! ### Strings -/

/-- What the pieces of a string in a row have to agree in. -/
inductive StringKind where
  | text
  | bytes
  | template
deriving DecidableEq

def stringPiece (phrases : Phrases Block) : Parser StringKind := do
  match ← next with
  | .string isBytes => return if isBytes then .bytes else .text
  | .fieldsStart isTemplate =>
    let _ ← many phrases.field
    exactly [.fieldsEnd]
    return if isTemplate then .template else .text
  | _ => failure

/-- Strings in a row, all of one kind. -/
def strings (phrases : Phrases Block) : Parser Unit := do
  let kinds ← manyOne (stringPiece phrases)
  if kinds.all (· = kinds.headD .text) then pure () else failure

/-! ### Operators -/

/-- One operand between operators keeps its shape; with an operator nothing can be assigned. -/
def operated (first : Shape) (operators : Nat) : Shape :=
  if operators = 0 then first else .other

/-- An operand of arithmetic, with its signs. -/
def factor (phrases : Phrases Block) : Parser Shape := do
  let signs ← many (anySymbol ["+", "-", "~"])
  let awaited ← given (keyword "await")
  let value ← phrases.primary
  return operated value (signs.length + if awaited then 1 else 0)

def sum (phrases : Phrases Block) : Parser Shape := do
  -- How operands group does not matter here, so all operators are of one rank.
  let first ← factor phrases
  let rest ← many do
    anySymbol ["|", "^", "&", "<<", ">>", "+", "-", "*", "/", "//", "%", "@", "**"]
    factor phrases
  return operated first rest.length

def comparator : Parser Unit :=
  anySymbol ["==", "!=", "<", "<=", ">", ">="]
    <|> keyword "in"
    <|> (keyword "not" *> keyword "in")
    <|> (keyword "is" <* given (keyword "not"))

def comparison (phrases : Phrases Block) : Parser Shape := do
  let negations ← many (keyword "not")
  let first ← sum phrases
  let rest ← many (comparator *> sum phrases)
  return operated first (negations.length + rest.length)

def disjunction (phrases : Phrases Block) : Parser Shape := do
  let first ← comparison phrases
  let rest ← many ((keyword "and" <|> keyword "or") *> comparison phrases)
  return operated first rest.length

/-! ### Phrases made of expressions -/

/-- An expression, or a name with a value that it is bound to. -/
def namedExpression (phrases : Phrases Block) : Parser Shape :=
  (do
    let _ ← identifier
    symbol ":="
    let _ ← phrases.expression
    return .binding)
  <|> phrases.expression

def starredOf (value : Parser Shape) : Parser Shape :=
  symbol "*" *> (Shape.starred <$> value)

def element (phrases : Phrases Block) : Parser Shape :=
  starredOf (sum phrases) <|> namedExpression phrases

def tupleOf (element : Parser Shape) : Parser Shape := do
  let items ← separated element (symbol ",")
  let closed ← given (symbol ",")
  match items, closed with
  -- A comma behind a single element makes a tuple of it.
  | [item], false => return item
  | items, _ => return .tuple items

/-- Expressions with commas between them, some perhaps under a star. -/
def expressions (phrases : Phrases Block) : Parser Shape :=
  tupleOf (starredOf (sum phrases) <|> phrases.expression)

def yielded (phrases : Phrases Block) : Parser Shape := do
  keyword "yield"
  let _ ← given ((keyword "from" *> phrases.expression) <|> expressions phrases)
  return .other

/-- What may stand behind the sign of an assignment. -/
def assigned (phrases : Phrases Block) : Parser Shape :=
  yielded phrases <|> expressions phrases

/-- What values are assigned to in a loop or by `as`. -/
def target (phrases : Phrases Block) : Parser Shape := do
  let shape ← starredOf phrases.primary <|> phrases.primary
  if Shape.areTargets [shape] then return shape else failure

def loopTargets (phrases : Phrases Block) : Parser Unit := do
  let _ ← commaList (target phrases)

/-! ### Parameters -/

inductive Parameter where
  | plain (hasDefault : Bool)
  | slash
  /-- A star, with the name of the parameter that takes the rest or alone. -/
  | star (named : Bool)
  | doubleStar

/-- Parameters without a default before those with one, up to the star or the end. -/
def plainOrdered (afterDefault : Bool) : List Parameter → Bool
  | .plain hasDefault :: rest => (hasDefault || !afterDefault) && plainOrdered hasDefault rest
  | .slash :: rest => plainOrdered afterDefault rest
  | _ => true

def Parameter.isPlain : Parameter → Bool
  | .plain _ => true
  | _ => false

def Parameter.isSlash : Parameter → Bool
  | .slash => true
  | _ => false

def restOrdered : List Parameter → Bool
  | [] => true
  | [.doubleStar] => true
  | .star named :: rest =>
    -- A star alone needs a parameter that is given by its name.
    let (keyed, last) := (rest.takeWhile Parameter.isPlain, rest.dropWhile Parameter.isPlain)
    (named || !keyed.isEmpty) && match last with
      | [] | [.doubleStar] => true
      | _ => false
  | _ => false

def parametersOrdered (parameters : List Parameter) : Bool :=
  let positional := parameters.takeWhile fun p => p.isPlain || p.isSlash
  let rest := parameters.dropWhile fun p => p.isPlain || p.isSlash
  let slashes := positional.countP Parameter.isSlash
  let led := match positional with
    | .slash :: _ => false
    | _ => true
  slashes ≤ 1 && led && plainOrdered false positional && restOrdered rest

def parameter (phrases : Phrases Block) (annotated : Bool) : Parser Parameter :=
  let typing (starred : Bool) : Parser Unit :=
    -- The parameters of a `lambda` have no annotations: a colon ends them.
    if annotated then do
      let _ ← given do
        symbol ":"
        if starred then starredOf phrases.expression <|> phrases.expression
        else phrases.expression
    else pure ()
  (symbol "/" *> pure .slash)
  <|> (do
    symbol "**"
    let _ ← identifier
    typing false
    return .doubleStar)
  <|> (do
    symbol "*"
    let named ← given (identifier *> typing true)
    return .star named)
  <|> (do
    let _ ← identifier
    typing false
    return .plain (← given (symbol "=" *> phrases.expression)))

/-- The parameters of a definition, without the brackets around them. -/
def parameters (phrases : Phrases Block) (annotated : Bool) : Parser Unit := do
  let all ← commaListOrNone (parameter phrases annotated)
  if parametersOrdered all then pure () else failure

/-! ### Arguments -/

inductive Argument where
  | positional
  | named
  | starred
  | doubleStarred

def Argument.isPositional : Argument → Bool
  | .positional => true
  | _ => false

def argumentsOrdered (seenNamed seenMapping : Bool) : List Argument → Bool
  | [] => true
  -- Values by position come first; behind a mapping there are only named values and mappings.
  | .positional :: rest => !seenNamed && !seenMapping && argumentsOrdered false false rest
  | .starred :: rest => !seenMapping && argumentsOrdered seenNamed false rest
  | .named :: rest => argumentsOrdered true seenMapping rest
  | .doubleStarred :: rest => argumentsOrdered seenNamed true rest

def argument (phrases : Phrases Block) : Parser Argument :=
  (symbol "**" *> phrases.expression *> pure .doubleStarred)
  <|> (symbol "*" *> phrases.expression *> pure .starred)
  <|> (do
    let _ ← identifier
    symbol "="
    let _ ← phrases.expression
    return .named)
  <|> (namedExpression phrases *> pure .positional)

def arguments (phrases : Phrases Block) : Parser Unit := do
  let all ← commaListOrNone (argument phrases)
  if argumentsOrdered false false all then pure () else failure

/-! ### Brackets -/

def clauses (phrases : Phrases Block) : Parser Unit := do
  let _ ← manyOne do
    let _ ← given (keyword "async")
    keyword "for"
    loopTargets phrases
    keyword "in"
    let _ ← disjunction phrases
    many (keyword "if" *> disjunction phrases)

/-- The elements between brackets, or a comprehension of the one element there is. Answers the
elements, and whether a comma stands behind the last; nothing for a comprehension. -/
def collected (phrases : Phrases Block) : Parser (Option (List Shape × Bool)) := do
  let first ← element phrases
  if ← given (clauses phrases) then
    if first.isStarred then failure else return none
  else
    let rest ← many (symbol "," *> element phrases)
    return some (first :: rest, ← given (symbol ","))

def parenthesized (phrases : Phrases Block) : Parser Shape :=
  (symbol ")" *> pure (.tuple []))
  <|> (yielded phrases <* symbol ")")
  <|> (do
    let found ← collected phrases
    symbol ")"
    match found with
    | none => return .other
    | some ([item], false) =>
      -- A single element without a comma is only put in parentheses.
      if item.isStarred then failure
      else return if item.isBinding then .other else item
    | some (items, _) => return .tuple items)

def bracketed (phrases : Phrases Block) : Parser Shape :=
  (symbol "]" *> pure (.list []))
  <|> (do
    let found ← collected phrases
    symbol "]"
    match found with
    | none => return .other
    | some (items, _) => return .list items)

/-- An entry of a dictionary: a key with its value, or a mapping. -/
def dictionaryEntry (phrases : Phrases Block) : Parser Unit :=
  (symbol "**" *> sum phrases *> pure ())
  <|> (phrases.expression *> symbol ":" *> phrases.expression *> pure ())

/-- What follows the first entry of a dictionary, up to the closing brace. -/
def dictionaryRest (phrases : Phrases Block) : Parser Unit := do
  let _ ← many (symbol "," *> dictionaryEntry phrases)
  let _ ← given (symbol ",")
  symbol "\x7d"

def braced (phrases : Phrases Block) : Parser Shape :=
  (symbol "\x7d" *> pure .other)
  <|> (symbol "**" *> sum phrases *> dictionaryRest phrases *> pure .other)
  <|> (do
    let first ← element phrases
    -- A colon behind the first element makes it the key of a dictionary.
    if ← given (symbol ":") then
      if first.isStarred || first.isBinding then failure
      let _ ← phrases.expression
      (clauses phrases *> symbol "\x7d") <|> dictionaryRest phrases
    else if ← given (clauses phrases) then
      if first.isStarred then failure
      symbol "\x7d"
    else
      let _ ← many (symbol "," *> element phrases)
      let _ ← given (symbol ",")
      symbol "\x7d"
    return .other)

/-! ### Primaries -/

def atom (phrases : Phrases Block) : Parser Shape := do
  match ← peek with
  | some (.name _) => next *> pure .name
  | some (.number _) | some (.symbol "...") => next *> pure .other
  | some (.keyword word) =>
    if ["None", "True", "False"].contains word then next *> pure .other else failure
  | some (.string _) | some (.fieldsStart _) => strings phrases *> pure .other
  | some (.symbol "(") => next *> parenthesized phrases
  | some (.symbol "[") => next *> bracketed phrases
  | some (.symbol "\x7b") => next *> braced phrases
  | _ => failure

/-- The arguments of a call behind its opening parenthesis, or the generator that is its only
one. -/
def callArguments (phrases : Phrases Block) : Parser Unit :=
  symbol ")" <|> do
    let first ← argument phrases
    if ← givenWhere first.isPositional (clauses phrases) then symbol ")"
    else
      let rest ← many (symbol "," *> argument phrases)
      let _ ← given (symbol ",")
      if !argumentsOrdered false false (first :: rest) then failure
      symbol ")"

def slice (phrases : Phrases Block) : Parser Unit := do
  let first ← optional (starredOf phrases.expression <|> namedExpression phrases)
  let whole := match first with
    | some shape => shape.isStarred || shape.isBinding
    | none => false
  -- Neither a starred value nor a binding has bounds.
  if ← givenWhere (!whole) (symbol ":") then
    let _ ← optional phrases.expression
    let _ ← given (symbol ":" *> optional phrases.expression)
  else if first.isNone then failure

/-- What may be applied to a value: an attribute, a call or a subscription. -/
def trailer (phrases : Phrases Block) : Parser Shape :=
  (symbol "." *> identifier *> pure .attribute)
  <|> (symbol "(" *> callArguments phrases *> pure .other)
  <|> (symbol "[" *> commaList (slice phrases) *> symbol "]" *> pure .subscript)

def primary (phrases : Phrases Block) : Parser Shape := do
  let first ← atom phrases
  let trailers ← many (trailer phrases)
  return trailers.getLastD first

/-! ### Expressions -/

def lambda (phrases : Phrases Block) : Parser Shape := do
  keyword "lambda"
  parameters phrases false
  symbol ":"
  let _ ← phrases.expression
  return .other

def conditional (phrases : Phrases Block) : Parser Shape := do
  let first ← disjunction phrases
  if ← given (keyword "if") then
    let _ ← disjunction phrases
    keyword "else"
    let _ ← phrases.expression
    return .other
  else return first

def expression (phrases : Phrases Block) : Parser Shape :=
  lambda phrases <|> conditional phrases

/-- A replacement field of a string. -/
def field (phrases : Phrases Block) : Parser Unit := do
  symbol "\x7b"
  let _ ← assigned phrases
  let _ ← given (symbol "=")
  let _ ← given (exactly [.conversion])
  let _ ← given (exactly [.formatStart] *> many phrases.field)
  symbol "\x7d"

end PackageAtlas.Python
