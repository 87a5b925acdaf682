import PackageAtlas.Text

/-!
# File paths

A path keeps the text it was written with and is compared by its components: repeated and
closing slashes and the segment `.` behind the first place make no difference, while `..` is a
component like any other. Nothing here looks at a file system.
-/
namespace PackageAtlas

inductive Component where
  | root
  /-- The segment `.` at the start of a relative path. -/
  | here
  | up
  | named (name : String)
deriving DecidableEq, Repr

structure Path where
  text : String
deriving DecidableEq, Repr, Inhabited

/-- The component a segment behind the start of a path stands for. -/
def Component.ofSegment (segment : String) : Component :=
  if segment = ".." then .up else .named segment

namespace Path

/-- A segment that is no component: nothing between two slashes, or a single dot. -/
def isVoid (segment : String) : Bool :=
  segment = "" || segment = "."

/-- The first component with its own text when it is the root or a leading dot, and the
segments behind it. -/
def parts (path : Path) : Option Component × List String :=
  match path.text.toList with
  | '/' :: rest => (some .root, Text.split '/' (String.ofList rest))
  | ['.'] => (some .here, [])
  | '.' :: '/' :: rest => (some .here, Text.split '/' (String.ofList rest))
  | _ => (none, Text.split '/' path.text)

def components (path : Path) : List Component :=
  let (lead, segments) := path.parts
  lead.toList ++ (segments.filter (!isVoid ·)).map Component.ofSegment

def Same (a b : Path) : Prop :=
  a.components = b.components

instance (a b : Path) : Decidable (Same a b) :=
  inferInstanceAs (Decidable (a.components = b.components))

def distinct : List Path → List Path
  | [] => []
  | path :: rest => path :: (distinct rest).filter fun other => !decide (path.Same other)

def isAbsolute (path : Path) : Bool :=
  path.text.toList.head? == some '/'

/-- `entry` seen from the directory `base`. The texts are put together with one slash, which also an
empty entry gets. -/
def join (base entry : Path) : Path :=
  -- An absolute entry stands for itself.
  if entry.isAbsolute then entry
  else if base.text.isEmpty || base.text.toList.getLast? == some '/' then
    ⟨base.text ++ entry.text⟩
  else ⟨base.text ++ "/" ++ entry.text⟩

/-- The entry called `name` in the directory `base`. -/
def child (base : Path) (name : String) : Path :=
  base.join ⟨name⟩

/-- The text of a first component followed by segments. -/
def ofParts (lead : Option Component) (segments : List String) : Path :=
  match lead with
  | some .root => ⟨"/" ++ Text.join '/' segments⟩
  | some .here => ⟨if segments.isEmpty then "." else "./" ++ Text.join '/' segments⟩
  | _ => ⟨Text.join '/' segments⟩

def dropVoidEnd (segments : List String) : List String :=
  (segments.reverse.dropWhile isVoid).reverse

/-- The path without its last component. The root and the empty path have no parent. -/
def parent? (path : Path) : Option Path :=
  let (lead, segments) := path.parts
  match (dropVoidEnd segments).dropLast, dropVoidEnd segments with
  | _, [] => if lead = some .here then some ⟨""⟩ else none
  | before, _ => some (ofParts lead (dropVoidEnd before))

def fileName? (path : Path) : Option String :=
  match path.components.getLast? with
  | some (.named name) => some name
  | _ => none

/-- What follows the last dot of a file name that has more than the dot before it. -/
def extension? (path : Path) : Option String :=
  match path.fileName? with
  | none => none
  | some name =>
    match (Text.split '.' name).reverse with
    | [] | [_] => none
    -- A name that starts with its only dot has no extension.
    | [_, ""] => none
    | ending :: _ => some ending

/-- The segments behind the first `count` components, void segments not counted. -/
def dropSegments : Nat → List String → List String
  | 0, segments => segments
  | _ + 1, [] => []
  | count + 1, segment :: rest =>
    if isVoid segment then dropSegments (count + 1) rest else dropSegments count rest

/-- `path` seen from `base`, when the components of `base` begin those of `path`. The inner text
of the remainder stays as written. -/
def relativeTo? (path base : Path) : Option Path :=
  if base.components.isPrefixOf path.components then
    let (lead, segments) := path.parts
    match base.components.length, lead with
    | 0, _ => some (ofParts lead (dropVoidEnd segments))
    | count + 1, some _ =>
      some (ofParts none (dropVoidEnd ((dropSegments count segments).dropWhile isVoid)))
    | count, none =>
      some (ofParts none (dropVoidEnd ((dropSegments count segments).dropWhile isVoid)))
  else none

/-- `path` and the directories around it, nearest first. -/
def lineageWithin : Nat → Path → List Path
  | 0, path => [path]
  | bound + 1, path =>
    match path.parent? with
    | none => [path]
    | some parent => path :: lineageWithin bound parent

/-- `path`, its parent, the parent of that, up to a path that has none. Every step drops a
component, so their number bounds the steps. -/
def lineage (path : Path) : List Path :=
  lineageWithin path.components.length path

end Path

end PackageAtlas
