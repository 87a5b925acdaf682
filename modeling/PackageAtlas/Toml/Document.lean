import PackageAtlas.Toml.Syntax

/-!
# TOML documents

The statements of a document, carried out in order, build up its table. A key has one value: what
is written twice is refused, and so is a table that is added to in a way its first mention does
not allow.
-/
namespace PackageAtlas.Toml

/-- How a table came to be, which decides who may add to it. -/
inductive Origin where
  /-- By its own header. -/
  | header
  /-- On the way to a table with a header. -/
  | passage
  /-- By a dotted key. -/
  | dottedKey
deriving DecidableEq

inductive Part where
  | closed (value : Value)
  | table (origin : Origin) (entries : List (String × Part))
  /-- The elements that headers of the form `[[keys]]` have added. -/
  | elements (tables : List (List (String × Part)))

/-- The entries with one more, in place of one with the same key. -/
def setPart (key : String) (part : Part) : List (String × Part) → List (String × Part)
  | [] => [(key, part)]
  | (other, old) :: rest =>
    if other = key then (key, part) :: rest else (other, old) :: setPart key part rest

/-- Changes the table that keys lead to. Tables on the way come to be as `origin`. -/
def changeAt (origin : Origin) (change : List (String × Part) → Option (List (String × Part))) :
    List String → List (String × Part) → Option (List (String × Part))
  | [], entries => change entries
  | key :: rest, entries =>
    match entries.lookup key with
    | none => do
      let inner ← changeAt origin change rest []
      return setPart key (.table origin inner) entries
    | some (.table first inner) =>
      -- A dotted key neither passes through a table with a header nor adds to one on the way there.
      if origin = .dottedKey && first = .header then none
      else if origin = .dottedKey && rest.isEmpty && first = .passage then none
      else do
        let inner ← changeAt origin change rest inner
        return setPart key (.table first inner) entries
    | some (.elements tables) =>
      match origin, tables.getLast? with
      | .dottedKey, _ | _, none => none
      -- Headers below an array add to its last table.
      | _, some last => do
        let last ← changeAt origin change rest last
        return setPart key (.elements (tables.dropLast ++ [last])) entries
    | some (.closed _) => none

def addNew (key : String) (part : Part) (entries : List (String × Part)) :
    Option (List (String × Part)) :=
  if (entries.lookup key).isSome then none else some (entries ++ [(key, part)])

/-- Carries out an entry `keys = value` in a table. -/
def addEntry (keys : List String) (part : Part) (entries : List (String × Part)) :
    Option (List (String × Part)) :=
  match keys.getLast? with
  | none => none
  | some key => changeAt .dottedKey (addNew key part) keys.dropLast entries

def openTable (key : String) (entries : List (String × Part)) :
    Option (List (String × Part)) :=
  match entries.lookup key with
  | none => some (entries ++ [(key, .table .header [])])
  -- A table that was only passed through may still get its header.
  | some (.table .passage inner) => some (setPart key (.table .header inner) entries)
  | some _ => none

def openElement (key : String) (entries : List (String × Part)) :
    Option (List (String × Part)) :=
  match entries.lookup key with
  | none => some (entries ++ [(key, .elements [[]])])
  | some (.elements tables) => some (setPart key (.elements (tables ++ [[]])) entries)
  | some _ => none

mutual
def Part.finish : Part → Value
  | .closed value => value
  | .table _ entries => .table (finishEntries entries)
  | .elements tables => .array (finishTables tables)

def finishEntries : List (String × Part) → List (String × Value)
  | [] => []
  | (key, part) :: rest => (key, part.finish) :: finishEntries rest

def finishTables : List (List (String × Part)) → List Value
  | [] => []
  | entries :: rest => .table (finishEntries entries) :: finishTables rest
end

mutual
/-- The value that is meant by a written one. -/
def Written.value? : Written → Option Value
  | .plain value => some value
  | .array items => do return .array (← writtenItems? items)
  | .inlineTable entries => do return .table (finishEntries (← writtenEntries? entries []))

def writtenItems? : List Written → Option (List Value)
  | [] => some []
  | item :: rest => do
    let value ← item.value?
    return value :: (← writtenItems? rest)

/-- The entries of an inline table, added in turn to those before them. -/
def writtenEntries? :
    List (List String × Written) → List (String × Part) → Option (List (String × Part))
  | [], entries => some entries
  | (keys, written) :: rest, entries => do
    let value ← written.value?
    writtenEntries? rest (← addEntry keys (.closed value) entries)
end

/-- Carries out statements. The keys are those of the header they stand under. -/
def carryOut : List Statement → List String → List (String × Part) →
    Option (List (String × Part))
  | [], _, entries => some entries
  | .table keys :: rest, _, entries => do
    let key ← keys.getLast?
    carryOut rest keys (← changeAt .passage (openTable key) keys.dropLast entries)
  | .element keys :: rest, _, entries => do
    let key ← keys.getLast?
    carryOut rest keys (← changeAt .passage (openElement key) keys.dropLast entries)
  | .entry keys written :: rest, header, entries => do
    let value ← written.value?
    carryOut rest header (← changeAt .passage (addEntry keys (.closed value)) header entries)

def parse? (text : String) : Option (List (String × Value)) := do
  let statements ← statements? text
  return finishEntries (← carryOut statements [] [])

end PackageAtlas.Toml
