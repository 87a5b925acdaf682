import PackageAtlas.Import
import PackageAtlas.ModuleSearch
import PackageAtlas.Python.Block
import PackageAtlas.StandardLibrary

/-!
# Analyzers

An analyzer parses source files and finds the files of modules. It keeps what it has found: a
file that was parsed once and a name that was looked up once keep their answers, also when the
file tree has changed since. A file that could not be parsed is tried again.
-/
namespace PackageAtlas

inductive SourceError where
  | unreadable (path : Path)
  | invalid (path : Path)
deriving DecidableEq, Repr

def SourceError.message : SourceError → String
  | .unreadable path => "Failed to read " ++ path.text
  | .invalid path => "Failed to parse " ++ path.text

structure Analyzer where
  /-- Where modules are looked for after the directories of the importing file. -/
  searchPaths : List Path
  /-- Minor version of the Python 3 whose standard library is left out. -/
  pythonVersion : Nat
  /-- The modules parsed so far, by the components of their paths. -/
  parsed : List (List Component × ParsedModule)
  /-- The answers given so far, by the name and the components of the directory it was imported
  in. -/
  resolved : List ((String × List Component) × Option Path)

namespace Analyzer

/-- An analyzer that has found nothing yet. -/
def new (tree : FileTree) (searchPaths : List Path) (pythonVersion : Nat) : Analyzer where
  searchPaths := Path.distinct (searchPaths.map tree.canonicalOrSelf)
  pythonVersion
  parsed := []
  resolved := []

def parsedCount (analyzer : Analyzer) : Nat :=
  analyzer.parsed.length

/-! ### Parsing -/

/-- The module in the file at a path, as the file tree has it now. -/
def readModule (tree : FileTree) (path : Path) : Except SourceError ParsedModule :=
  let canonical := tree.canonicalOrSelf path
  match tree.text? canonical with
  | none => .error (.unreadable path)
  | some text =>
    match Python.imports? text with
    | none => .error (.invalid path)
    | some imports => .ok ⟨canonical, imports⟩

def parse (tree : FileTree) (path : Path) : StateM Analyzer (Except SourceError ParsedModule) :=
  fun analyzer =>
    let key := (tree.canonicalOrSelf path).components
    match analyzer.parsed.lookup key with
    | some module => (.ok module, analyzer)
    | none =>
      -- A file that could not be parsed is tried again, so only successes are kept.
      match readModule tree path with
      | .error error => (.error error, analyzer)
      | .ok module => (.ok module, { analyzer with parsed := (key, module) :: analyzer.parsed })

/-! ### Finding modules -/

/-- The directories in which a module imported from `context` is looked for, in this order. -/
def searchDirectories (analyzer : Analyzer) (tree : FileTree) (context : Path) : List Path :=
  Path.distinct (context :: tree.importRoot context :: analyzer.searchPaths)

/-- The canonical path of the file that defines a module, as the file tree has it now. -/
def search (analyzer : Analyzer) (tree : FileTree) (name : String) (context : Path) :
    Option Path :=
  -- Modules of the standard library are not looked for.
  if StandardLibrary.has analyzer.pythonVersion name || Text.startsWith "." name then none
  else
    let parts := FileTree.nameParts name
    let found := (analyzer.searchDirectories tree context).findSome? (tree.moduleIn? · parts)
    found.map tree.canonicalOrSelf

def resolve (tree : FileTree) (name : String) (context : Path) :
    StateM Analyzer (Option Path) :=
  fun analyzer =>
    let key := (name, context.components)
    match analyzer.resolved.lookup key with
    | some answer => (answer, analyzer)
    | none =>
      -- That nothing was found is kept as well.
      let answer := analyzer.search tree name context
      (answer, { analyzer with resolved := (key, answer) :: analyzer.resolved })

end Analyzer

end PackageAtlas
