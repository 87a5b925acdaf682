import PackageAtlas.Reader
import PackageAtlas.Toml.Scalar

/-!
# The lines of a TOML document

A document is read into a list of statements: headers and entries with the keys that lead to
them. What the statements amount to is not decided here.
-/
namespace PackageAtlas.Toml

open Numeral Reader

/-- A value as it is written: an inline table still has its entries in written order. -/
inductive Written where
  | plain (value : Value)
  | array (items : List Written)
  | inlineTable (entries : List (List String × Written))

inductive Statement where
  /-- A header `[keys]`. -/
  | table (keys : List String)
  /-- A header `[[keys]]`. -/
  | element (keys : List String)
  /-- An entry `keys = value`. -/
  | entry (keys : List String) (value : Written)

/-- Characters that stand in no text other than by an escape. -/
def isControl (c : Char) : Bool :=
  (c.toNat < 0x20 && c ≠ '\t') || c.toNat = 0x7f

def isBlank (c : Char) : Bool := c = ' ' || c = '\t'

def blanks : Reader Char Unit := takeWhile isBlank *> pure ()

def lineFeed : Reader Char Unit :=
  exactly ['\n'] <|> exactly ['\r', '\n']

def comment : Reader Char Unit :=
  exactly ['#'] <* takeWhile (!isControl ·)

def gap : Reader Char Unit := do
  blanks
  let _ ← many ((lineFeed <|> (comment *> (lineFeed <|> atEnd))) <* blanks)

def lineEnd : Reader Char Unit := do
  blanks
  let _ ← given comment
  lineFeed <|> atEnd

/-- The character with the given number, unless there is none. -/
def charOfCode? (code : Nat) : Option Char :=
  if h : code.isValidChar then some (Char.ofNatAux code h) else none

def hexEscape : Nat → Nat → Reader Char Nat
  | 0, code => pure code
  | count + 1, code => do
    let digit ← only isHexadecimal
    hexEscape count (code * 16 + digitValue digit)

def codeEscape (count : Nat) : Reader Char Char := do
  match charOfCode? (← hexEscape count 0) with
  | some c => return c
  | none => failure

/-- What a backslash and the characters behind it stand for, the backslash being read. -/
def escaped : Reader Char Char := do
  match ← next with
  | 'b' => return '\x08'
  | 't' => return '\t'
  | 'n' => return '\n'
  | 'f' => return '\x0c'
  | 'r' => return '\r'
  | 'e' => return '\x1b'
  | '"' => return '"'
  | '\\' => return '\\'
  | 'x' => codeEscape 2
  | 'u' => codeEscape 4
  | 'U' => codeEscape 8
  | _ => failure

def basicChar : Reader Char Char := do
  match ← next with
  | '\\' => escaped
  | '"' => failure
  | c => if isControl c then failure else return c

def basicString : Reader Char String := do
  exactly ['"']
  let text ← many basicChar
  exactly ['"']
  return String.ofList text

def literalString : Reader Char String := do
  exactly ['\'']
  let text ← takeWhile fun c => c ≠ '\'' && !isControl c
  exactly ['\'']
  return String.ofList text

/-- A line end inside of a text, as it is written. -/
def keptLineFeed : Reader Char (List Char) :=
  (exactly ['\n'] *> pure ['\n']) <|> (exactly ['\r', '\n'] *> pure ['\r', '\n'])

/-- A backslash at the end of a line, which takes all blanks and line ends behind it away. -/
def joinedLines : Reader Char (List Char) := do
  exactly ['\\']
  blanks
  lineFeed
  let _ ← many (lineFeed <|> (only isBlank *> pure ()))
  return []

/-- One or two quotes that do not close the text. -/
def innerQuotes (quote : Char) : Reader Char (List Char) := do
  notAhead (exactly [quote, quote, quote])
  takeWhile (· = quote) >>= fun quotes => if quotes.isEmpty then failure else return quotes

def multilineBasicPart : Reader Char (List Char) :=
  innerQuotes '"' <|> keptLineFeed <|> joinedLines <|> (do return [← basicChar])

def multilineLiteralPart : Reader Char (List Char) :=
  innerQuotes '\'' <|> keptLineFeed <|>
    (do return [← only fun c => c ≠ '\'' && !isControl c])

def multiline (quote : Char) (part : Reader Char (List Char)) : Reader Char String := do
  exactly [quote, quote, quote]
  -- A line end right behind the opening is no part of the text.
  let _ ← given lineFeed
  let parts ← many part
  exactly [quote, quote, quote]
  -- Of up to five quotes at the end the last three close the text.
  let more ← takeWhile (· = quote)
  if more.length ≤ 2 then return String.ofList (parts.flatten ++ more) else failure

def quotedString : Reader Char String :=
  multiline '"' multilineBasicPart <|> multiline '\'' multilineLiteralPart
    <|> basicString <|> literalString

def isBareKeyChar (c : Char) : Bool :=
  c.isAlphanum || c = '_' || c = '-'

def bareKey : Reader Char String := do
  let text ← takeWhile isBareKeyChar
  if text.isEmpty then failure else return String.ofList text

def keys : Reader Char (List String) :=
  separated (blanks *> (bareKey <|> basicString <|> literalString) <* blanks) (exactly ['.'])

def isScalarChar (c : Char) : Bool :=
  c.isAlphanum || c = '+' || c = '-' || c = '_' || c = '.' || c = ':'

def scalarText : Reader Char (List Char) := do
  let text ← takeWhile isScalarChar
  -- A blank may stand between a date and a time.
  if isDate text then
    (do
      exactly [' ']
      ahead (only isDecimal)
      return text ++ ' ' :: (← takeWhile isScalarChar)) <|> pure text
  else return text

def scalar : Reader Char Value := do
  match scalar? (← scalarText) with
  | some value => return value
  | none => failure

/-- Elements between brackets, with gaps around them and an optional comma at the end. -/
def enclosed {α : Type} (opening closing : Char) (element : Reader Char α) :
    Reader Char (List α) := do
  exactly [opening]
  gap
  let elements ← separated (element <* gap) (exactly [','] *> gap) <|> pure []
  let _ ← if elements.isEmpty then pure false else given (exactly [','])
  gap
  exactly [closing]
  return elements

def plainValue : Reader Char Written := do
  match ← peek with
  | some '"' | some '\'' => return .plain (.string (← quotedString))
  | _ => return .plain (← scalar)

/-- A value with at most the given number of levels of brackets. -/
def valueWithin : Nat → Reader Char Written
  | 0 => plainValue
  | levels + 1 => do
    match ← peek with
    | some '[' => return .array (← enclosed '[' ']' (valueWithin levels))
    | some '\x7b' =>
      return .inlineTable (← enclosed '\x7b' '\x7d' do
        let path ← keys
        exactly ['=']
        blanks
        return (path, ← valueWithin levels))
    | _ => plainValue

def value : Reader Char Written :=
  valueWithin 80

def entry : Reader Char Statement := do
  let path ← keys
  exactly ['=']
  blanks
  return .entry path (← value)

def elementHeader : Reader Char Statement := do
  exactly ['[', '[']
  let path ← keys
  exactly [']', ']']
  return .element path

def tableHeader : Reader Char Statement := do
  exactly ['[']
  let path ← keys
  exactly [']']
  return .table path

def statementLine : Reader Char Statement :=
  blanks *> (elementHeader <|> tableHeader <|> entry) <* lineEnd

def statements? (text : String) : Option (List Statement) :=
  let lines := do
    gap
    let found ← many (statementLine <* gap)
    return found
  match text.toList with
  -- A byte order mark in front is no part of the document.
  | '\ufeff' :: rest => whole lines rest
  | input => whole lines input

end PackageAtlas.Toml
