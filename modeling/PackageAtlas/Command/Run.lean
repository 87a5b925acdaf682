import PackageAtlas.Command.Arguments
import PackageAtlas.Config.Project
import PackageAtlas.FileTree.Change
import PackageAtlas.View.Diff
import PackageAtlas.View.Rollup

/-!
# Running the program

A run takes a file tree and the arguments, and gives an exit code, a text to print and the file
tree it leaves. The views of a configuration are drawn one after another: what was saved before an
error stays.
-/
namespace PackageAtlas.Command

structure Outcome where
  exitCode : Nat
  output : String
  /-- What went wrong, if anything did. -/
  complaint : Option String
  tree : FileTree

namespace Outcome

def success (tree : FileTree) (output : String) : Outcome :=
  ⟨0, output, none, tree⟩

def failure (tree : FileTree) (complaint : String) : Outcome :=
  ⟨1, "", some complaint, tree⟩

def behindLine (outcome : Outcome) (line : String) : Outcome :=
  { outcome with output := line ++ "\n" ++ outcome.output }

end Outcome

/-! ### Drawing -/

/-- A document to save, and the line that reports it. -/
structure Drawing where
  stem : String
  document : Document
  report : Option String

def outputPath (config : Config) (drawing : Drawing) : Path :=
  config.saveLocation.join
    ⟨config.name ++ "-" ++ drawing.stem ++ "." ++ drawing.document.extension⟩

def drawAll (config : Config) (draw : String → ViewSpec → Except LookupError (Option Drawing))
    (tree : FileTree) : List (String × ViewSpec) → Outcome
  | [] => .success tree ""
  | (name, spec) :: rest =>
    match draw name spec with
    | .error error => .failure tree error.message
    | .ok none => drawAll config draw tree rest
    | .ok (some drawing) =>
      let path := outputPath config drawing
      -- What was saved before an error stays.
      match tree.save? path (some drawing.document.text) with
      | none => .failure tree ("Failed to write " ++ path.text)
      | some tree =>
        let outcome := drawAll config draw tree rest
        match drawing.report with
        | none => outcome
        | some line => outcome.behindLine line

def drawView (config : Config) (project : Project) (name : String) (spec : ViewSpec) :
    Except LookupError (Option Drawing) := do
  project.validateSpec name spec
  return some ⟨name, config.render name (project.view spec), none⟩

/-- The drawing of what is different in a view, reported by the view's name; none where nothing
is. -/
def drawDiff (config : Config) (project baseline : Project) (name : String) (spec : ViewSpec) :
    Except LookupError (Option Drawing) := do
  project.validateSpec name spec
  let diff := (project.view spec).diff (baseline.view spec)
  if diff.hasChanges then
    let document := config.render name (diff.applyLabels spec.labelsByPath)
    return some ⟨"diff-" ++ name, document, some name⟩
  else return none

/-! ### Actions -/

def render (tree : FileTree) (config : Config) : Outcome :=
  match config.project tree with
  | .error error => .failure tree error.message
  | .ok project => drawAll config (drawView config project) tree config.views

/-- Compares the project with that of another checkout, which is found by moving the
configuration there from its own directory. -/
def compare (tree : FileTree) (config : Config) (directory base : Path) : Outcome :=
  match config.project tree, (config.rebased directory base).project tree with
  | .error error, _ => .failure tree ("Failed to build the local model: " ++ error.message)
  | _, .error error => .failure tree ("Failed to build the baseline model: " ++ error.message)
  | .ok project, .ok baseline =>
    drawAll config (drawDiff config project baseline) tree config.views

def validate (tree : FileTree) (config : Config) : Outcome :=
  match config.project tree with
  | .error error => .failure tree error.message
  | .ok project =>
    match project.violations with
    | [] => .success tree ""
    | violations =>
      let lines := violations.map fun violation => violation.describe project ++ "\n"
      ⟨1, String.join lines, none, tree⟩

def version : String := "archlens 0.3.0\n"

def usage : String :=
  "Usage: archlens [-v] render|diff|validate [-c CONFIG] [--format plantuml|json] [--base DIR]\n"

def run (tree : FileTree) (arguments : List String) : Outcome :=
  match Request.ofArguments arguments with
  | .version => .success tree version
  | .help => .success tree usage
  | .misuse => ⟨2, "", some usage, tree⟩
  | .run action path format =>
    match Config.load tree path with
    | .error error => .failure tree error.message
    | .ok loaded =>
      let config := { loaded with format := format.getD loaded.format }
      match action with
      | .render => render tree config
      | .diff base => compare tree config (path.parent?.getD ⟨""⟩) base
      | .validate => validate tree config

end PackageAtlas.Command
