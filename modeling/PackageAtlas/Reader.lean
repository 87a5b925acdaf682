/-!
# Readers

A reader takes a value off the front of a list or refuses it. Choice tries its alternatives in
order, each from the same place.
-/
namespace PackageAtlas

/-- Reads a value from a list of `τ`; the rest of the list is left for the next reader. -/
abbrev Reader (τ : Type) := StateT (List τ) Option

namespace Reader

variable {τ α β : Type}

def next : Reader τ τ
  | [] => none
  | first :: rest => some (first, rest)

/-- The first element, which stays in place; nothing at the end. -/
def peek : Reader τ (Option τ) :=
  fun input => some (input.head?, input)

def only (p : τ → Bool) : Reader τ τ := do
  let first ← next
  if p first then return first else failure

def atEnd : Reader τ Unit
  | [] => some ((), [])
  | _ :: _ => none

/-- The elements up to the first without the property. -/
def takeWhile (p : τ → Bool) : Reader τ (List τ) :=
  fun input => some (input.takeWhile p, input.dropWhile p)

def exactly [DecidableEq τ] : List τ → Reader τ Unit
  | [] => pure ()
  | expected :: rest => do
    let _ ← only (· = expected)
    exactly rest

/-- As many values in a row as there are, at most one for each element of `clock`. -/
def manyAlong (reader : Reader τ α) : List τ → Reader τ (List α)
  | [] => pure []
  | _ :: clock => fun input =>
    match reader input with
    | none => some ([], input)
    | some (value, rest) =>
      match manyAlong reader clock rest with
      | none => none
      | some (values, remaining) => some (value :: values, remaining)

def many (reader : Reader τ α) : Reader τ (List α) :=
  -- A reader that succeeds takes something, so the input itself counts the rounds.
  fun input => manyAlong reader input input

def given (reader : Reader τ α) : Reader τ Bool :=
  (reader *> pure true) <|> pure false

/-- Whether the value is there, where one may be; takes nothing elsewhere. -/
def givenWhere (allowed : Bool) (reader : Reader τ α) : Reader τ Bool :=
  if allowed then given reader else pure false

def manyOne (reader : Reader τ α) : Reader τ (List α) := do
  let first ← reader
  return first :: (← many reader)

/-- The first of one or more values with separators between them, and the others. -/
def firstSeparated (reader : Reader τ α) (separator : Reader τ β) : Reader τ (α × List α) := do
  let first ← reader
  let rest ← many (separator *> reader)
  return (first, rest)

/-- One value or more, with separators between them. -/
def separated (reader : Reader τ α) (separator : Reader τ β) : Reader τ (List α) := do
  let (first, rest) ← firstSeparated reader separator
  return first :: rest

/-- Refuses where the value begins; takes nothing. -/
def notAhead (reader : Reader τ α) : Reader τ Unit :=
  fun input => if (reader input).isSome then none else some ((), input)

/-- Refuses where the value does not begin; takes nothing. -/
def ahead (reader : Reader τ α) : Reader τ Unit :=
  fun input => if (reader input).isSome then some ((), input) else none

/-- The value of a whole list. -/
def whole (reader : Reader τ α) (input : List τ) : Option α :=
  match reader input with
  | some (value, []) => some value
  | _ => none

end Reader

end PackageAtlas
