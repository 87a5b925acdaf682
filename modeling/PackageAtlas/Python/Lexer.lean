import PackageAtlas.Python.Literal
import PackageAtlas.Python.Token

/-!
# Cutting a source into tokens

Lines, indentation and brackets decide where statements end, so they are followed here. A string
with replacement fields is cut up as well: its fields hold ordinary tokens, and what stands around
them is only checked.
-/
namespace PackageAtlas.Python

open Reader

/-- What has been opened and is not closed yet. -/
inductive Frame where
  | bracket (closing : Char)
  /-- A string with replacement fields. -/
  | fields (style : StringStyle)
  /-- A replacement field of the string below it. -/
  | field
  /-- The format specification of the field below it. -/
  | format
deriving DecidableEq, Repr

/-- The depth of an indentation, with tabs up to the next multiple of eight and with tabs as one
blank. Two indentations that the two measures put in different orders cannot be compared. -/
structure Depth where
  columns : Nat
  characters : Nat
deriving DecidableEq, Repr

structure LexerState where
  /-- What is open, the innermost first. -/
  frames : List Frame
  /-- The depths of the enclosing blocks, the innermost first. -/
  indents : List Depth
  atLineStart : Bool

namespace LexerState

def initial : LexerState := ⟨[], [], true⟩

def push (state : LexerState) (frame : Frame) : LexerState :=
  { state with frames := frame :: state.frames }

def pop (state : LexerState) : LexerState :=
  { state with frames := state.frames.tail }

end LexerState

/-! ### Indentation -/

/-- The depth of the blanks in front of a line, and the rest of it. -/
def indentation (depth : Depth) (joined : Nat) : List Char → Option (Depth × List Char)
  | ' ' :: rest => indentation ⟨depth.columns + 1, depth.characters + 1⟩ joined rest
  | '\t' :: rest => indentation ⟨(depth.columns / 8 + 1) * 8, depth.characters + 1⟩ joined rest
  | '\x0c' :: rest => indentation ⟨0, 0⟩ joined rest
  -- Of lines joined by backslashes the first that is indented counts.
  | '\\' :: '\n' :: rest =>
    if rest.isEmpty then none
    else indentation depth (if joined = 0 then depth.columns else joined) rest
  | '\\' :: _ => none
  | rest => some (if joined = 0 then depth else ⟨joined, joined⟩, rest)

/-- The enclosing blocks that go on after the blocks deeper than `depth` have ended, and how many
have ended. -/
def endBlocks (depth : Depth) : List Depth → Option (Nat × List Depth)
  | [] => if depth = ⟨0, 0⟩ then some (0, []) else none
  | block :: outer =>
    if block.columns = depth.columns then
      if block.characters = depth.characters then some (0, block :: outer) else none
    else if depth.columns < block.columns then do
      let (ended, remaining) ← endBlocks depth outer
      return (ended + 1, remaining)
    -- The depth lies between those of two blocks.
    else none

/-- The tokens in front of a line of the given depth, and the blocks it lies in. -/
def blockTokens (depth : Depth) (indents : List Depth) : Option (List Token × List Depth) :=
  let current := indents.head?.getD ⟨0, 0⟩
  if current.columns < depth.columns then
    if current.characters < depth.characters then some ([.indent], depth :: indents) else none
  else do
    let (ended, remaining) ← endBlocks depth indents
    return (List.replicate ended .dedent, remaining)

abbrev LexerStep := Option (List Token × LexerState × List Char)

def lineStart (state : LexerState) (input : List Char) : LexerStep := do
  let (depth, rest) ← indentation ⟨0, 0⟩ 0 input
  match rest with
  -- Lines with nothing but blanks or a comment have no part in the blocks.
  | '#' :: _ => return ([], state, (rest.dropWhile (· ≠ '\n')).drop 1)
  | '\n' :: rest => return ([], state, rest)
  | [] => return ([], { state with atLineStart := false }, [])
  | _ =>
    let (tokens, indents) ← blockTokens depth state.indents
    return (tokens, { state with indents, atLineStart := false }, rest)

/-! ### Strings with replacement fields -/

def fieldTextEscape (raw : Bool) : Reader Char Unit := do
  match ← peek with
  -- A brace keeps its meaning behind a backslash.
  | some '\x7b' | some '\x7d' => pure ()
  | _ => if raw then next *> pure () else escapeRest false

def fieldText (state : LexerState) (style : StringStyle) (inFormat : Bool) (input : List Char) :
    LexerStep :=
  if style.closing.isPrefixOf input then
    if inFormat then none
    else some ([.fieldsEnd], state.pop, input.drop style.closing.length)
  else match input with
    | '\x7b' :: '\x7b' :: rest =>
      if inFormat then some ([.symbol "\x7b"], state.push .field, '\x7b' :: rest)
      else some ([], state, rest)
    | '\x7b' :: rest => some ([.symbol "\x7b"], state.push .field, rest)
    | '\x7d' :: rest =>
      -- The brace ends the format specification together with its field.
      if inFormat then some ([.symbol "\x7d"], state.pop.pop, rest)
      else match rest with
        | '\x7d' :: rest => some ([], state, rest)
        | _ => none
    | '\\' :: rest => do
      let (_, rest) ← fieldTextEscape style.raw rest
      return ([], state, rest)
    | '\n' :: rest => if style.long then some ([], state, rest) else none
    | _ :: rest => some ([], state, rest)
    | [] => none

/-- The string that the innermost field or format specification belongs to. -/
def enclosingStyle? : List Frame → Option StringStyle
  | [] => none
  | .fields style :: _ => some style
  | _ :: outer => enclosingStyle? outer

/-! ### Ordinary tokens -/

def stringStep (state : LexerState) (letters : StringPrefix) (input : List Char) : LexerStep := do
  let ((quote, long), rest) ← openingQuotes input
  let style : StringStyle := ⟨quote, long, letters.raw, letters.isBytes⟩
  match letters.fields with
  | some isTemplate => return ([.fieldsStart isTemplate], state.push (.fields style), rest)
  | none =>
    let (_, rest) ← stringRest style rest
    return ([.string letters.isBytes], state, rest)

def isQuote (c : Option Char) : Bool :=
  c = some '"' || c = some '\''

def wordStep (state : LexerState) (input : List Char) : LexerStep := do
  let word := input.takeWhile isWordChar
  let rest := input.dropWhile isWordChar
  match isQuote rest.head?, StringPrefix.ofWord? word with
  | true, some letters => stringStep state letters rest
  | _, _ => return ([← Token.ofWord? word], state, rest)

def symbolStep (state : LexerState) (input : List Char) : LexerStep := do
  let symbol ← symbols.find? (·.toList.isPrefixOf input)
  return ([.symbol symbol], state, input.drop symbol.length)

def conversionStep (state : LexerState) (input : List Char) : LexerStep :=
  let rest := input.dropWhile isWordChar
  match input.takeWhile isWordChar with
  | ['s'] | ['r'] | ['a'] =>
    if isQuote rest.head? then none else some ([.conversion], state, rest)
  | _ => none

def opened (state : LexerState) (opening closing : Char) (rest : List Char) : LexerStep :=
  some ([.symbol (String.singleton opening)], state.push (.bracket closing), rest)

def closed (state : LexerState) (closing : Char) (rest : List Char) : LexerStep :=
  match state.frames with
  | .bracket expected :: _ =>
    if closing = expected then some ([.symbol (String.singleton closing)], state.pop, rest)
    else none
  | .field :: _ =>
    if closing = '\x7d' then some ([.symbol "\x7d"], state.pop, rest) else none
  | _ => none

def codeStep (state : LexerState) (input : List Char) : LexerStep :=
  let inField := state.frames.head? = some .field
  match input with
  | [] => none
  | '\n' :: rest =>
    if state.frames.isEmpty then some ([.newline], { state with atLineStart := true }, rest)
    else some ([], state, rest)
  | '\\' :: '\n' :: rest => if rest.isEmpty then none else some ([], state, rest)
  | '#' :: rest => some ([], state, rest.dropWhile (· ≠ '\n'))
  | '(' :: rest => opened state '(' ')' rest
  | '[' :: rest => opened state '[' ']' rest
  | '\x7b' :: rest => opened state '\x7b' '\x7d' rest
  | ')' :: rest => closed state ')' rest
  | ']' :: rest => closed state ']' rest
  | '\x7d' :: rest => closed state '\x7d' rest
  | c :: rest =>
    if c = ' ' || c = '\t' || c = '\x0c' then some ([], state, rest)
    -- Only right inside of a field: between brackets of their own these two are ordinary symbols.
    else if c = ':' && inField then some ([.formatStart], state.push .format, rest)
    else if c = '!' && inField && rest.head? ≠ some '=' then conversionStep state rest
    else if isQuote c then stringStep state ⟨false, false, none⟩ input
    else if c.isDigit || (c = '.' && rest.head?.any Char.isDigit) then do
      let (imaginary, rest) ← number input
      return ([.number imaginary], state, rest)
    else if isWordChar c then wordStep state input
    else symbolStep state input

def lexerStep (state : LexerState) (input : List Char) : LexerStep :=
  match state.frames with
  | .fields style :: _ => fieldText state style false input
  | .format :: outer => do fieldText state (← enclosingStyle? outer) true input
  | _ => if state.atLineStart then lineStart state input else codeStep state input

/-- The tokens of an input, behind those in `done`, which stand in reverse. Every block that is
still open ends with the input. -/
def tokensWithin : Nat → LexerState → List Token → List Char → Option (List Token)
  | 0, _, _, _ => none
  | bound + 1, state, done, input =>
    if input.isEmpty then
      if state.frames.isEmpty then
        some ((List.replicate state.indents.length Token.dedent ++ done).reverse)
      else none
    else
      match lexerStep state input with
      | none => none
      | some (tokens, state, rest) => tokensWithin bound state (tokens.reverse ++ done) rest

/-- A source with one kind of line end, which also stands behind the last line. -/
def unifyLines : List Char → List Char
  | [] | ['\n'] | ['\r'] | ['\r', '\n'] => ['\n']
  | '\r' :: '\n' :: rest => '\n' :: unifyLines rest
  | '\r' :: rest => '\n' :: unifyLines rest
  | c :: rest => c :: unifyLines rest

def tokens? (source : String) : Option (List Token) :=
  let text := match source.toList with
    | '\ufeff' :: rest => rest
    | text => text
  if text.contains '\x00' then none
  else
    let lines := unifyLines text
    -- Every step takes a character or comes right behind one that does.
    tokensWithin (2 * lines.length + 2) .initial [] lines

end PackageAtlas.Python
