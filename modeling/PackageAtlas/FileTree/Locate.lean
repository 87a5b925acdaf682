import PackageAtlas.FileTree.Basic

/-!
# Following paths

A path is followed segment by segment. A link on the way is replaced by the segments of its
target, up to a fixed number of links. Every segment needs a directory to stand in, also one that
leads nowhere, so that a slash behind a file is refused.
-/
namespace PackageAtlas

namespace FileTree

/-- A node with the location it was found at. -/
structure Place where
  location : Location
  node : Node

/-- The number of links that are followed on the way along one path. -/
def linkLimit : Nat := 40

def start? (tree : FileTree) (path : Path) : Option Place :=
  let location := if path.isAbsolute then [] else tree.here
  (tree.node? location).map (⟨location, ·⟩)

/-- Follows segments up to the first link, and from there on by `follow`, which is given the
directory of the link, its target, and the segments that are left. -/
def walkWith (tree : FileTree) (follow : Place → Path → List String → Option Place)
    (place : Place) : List String → Option Place
  | [] => some place
  | segment :: rest =>
    if !place.node.isDirectory then none
    else if Path.isVoid segment then walkWith tree follow place rest
    -- The directory above is that of the place itself, whatever links led to it.
    else if segment = ".." then
      match tree.node? place.location.dropLast with
      | none => none
      | some above => walkWith tree follow ⟨place.location.dropLast, above⟩ rest
    else
      match place.node.child? segment with
      | none => none
      | some (.link target) => follow place ⟨target⟩ rest
      | some child => walkWith tree follow ⟨place.location ++ [segment], child⟩ rest

def walk (tree : FileTree) : Nat → Place → List String → Option Place
  | 0 => walkWith tree fun _ _ _ => none
  | links + 1 => walkWith tree fun place target rest =>
    let from_ := if target.isAbsolute then ⟨[], tree.root⟩ else place
    walk tree links from_ (Text.split '/' target.text ++ rest)

/-- What a path leads to. The empty path leads nowhere. -/
def locate? (tree : FileTree) (path : Path) : Option Place :=
  if path.text.isEmpty then none
  else
    match tree.start? path with
    | none => none
    | some place => tree.walk linkLimit place (Text.split '/' path.text)

/-- The absolute path without links to what a path leads to. -/
def canonical? (tree : FileTree) (path : Path) : Option Path :=
  (tree.locate? path).map (·.location.path)

/-- The canonical path, or the path itself where it leads nowhere. -/
def canonicalOrSelf (tree : FileTree) (path : Path) : Path :=
  (tree.canonical? path).getD path

def isFile (tree : FileTree) (path : Path) : Bool :=
  (tree.locate? path).any (·.node.isFile)

def isDirectory (tree : FileTree) (path : Path) : Bool :=
  (tree.locate? path).any (·.node.isDirectory)

/-- The text of the file that a path leads to. -/
def text? (tree : FileTree) (path : Path) : Option String :=
  (tree.locate? path).bind (·.node.text?)

end FileTree

end PackageAtlas
