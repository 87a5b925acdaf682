import PackageAtlas.FileTree.Locate

/-!
# Changing a file tree

Files are written through links, directories are made together with those around them, and
entries are removed with all that is below them.
-/
namespace PackageAtlas.FileTree

def isEntryName (name : String) : Bool :=
  !name.toList.contains '\x00' && name.utf8ByteSize ≤ 255

/-- Where the last component of a path stands or could be made: a name in an existing
directory. -/
def entry? (tree : FileTree) (path : Path) : Option Location := do
  let name ← path.fileName?
  let parent ← path.parent?
  let place ← tree.locate? (if parent.text.isEmpty then ⟨"."⟩ else parent)
  if place.node.isDirectory && isEntryName name then some (place.location ++ [name]) else none

/-- The location that writing to a path writes to, along at most `links` links at its end. -/
def destinationWithin (tree : FileTree) : Nat → Path → Option Location
  | 0, _ => none
  | links + 1, path => do
    let location ← tree.entry? path
    match tree.node? location with
    | some (.link target) =>
      destinationWithin tree links ((Location.path location.dropLast).join ⟨target⟩)
    | some (.directory _) => none
    | _ => some location

/-- The tree with `text` in the file at a path, which is made if it is not there. -/
def write? (tree : FileTree) (path : Path) (text : Option String) : Option FileTree := do
  let location ← tree.destinationWithin linkLimit path
  return tree.insert location (.file text)

def makeDirectory? (tree : FileTree) (path : Path) : Option FileTree := do
  let location ← tree.entry? path
  match tree.node? location with
  | some _ => none
  | none => some (tree.insert location (.directory []))

/-- Makes the first of the given directories, the next of which is the one around it, and so
on. -/
def makeAlong (tree : FileTree) : List Path → Option FileTree
  | [] => none
  | path :: outer =>
    if path.text.isEmpty || tree.isDirectory path then some tree
    else match tree.makeDirectory? path with
      | some made => some made
      -- Once the directories around it are made, a path through `..` may be there already.
      | none => do
        let made ← makeAlong tree outer
        if made.isDirectory path then some made else made.makeDirectory? path

def makeDirectories? (tree : FileTree) (path : Path) : Option FileTree :=
  tree.makeAlong path.lineage

/-- The tree with `text` in the file at a path, in directories that are made as needed. -/
def save? (tree : FileTree) (path : Path) (text : Option String) : Option FileTree := do
  let parent ← path.parent?
  (← tree.makeDirectories? parent).write? path text

def link? (tree : FileTree) (path : Path) (target : String) : Option FileTree := do
  let tree ← tree.makeDirectories? (← path.parent?)
  let location ← tree.entry? path
  match tree.node? location with
  | some _ => none
  | none => some (tree.insert location (.link target))

def remove (tree : FileTree) (path : Path) : FileTree :=
  match tree.entry? path with
  | none => tree
  | some location => tree.erase location

end PackageAtlas.FileTree
