import PackageAtlas.Command.Run
import PackageAtlas.FileTree.Files

/-!
# The program

The directories that a command is about are surveyed first. The command then runs on the file tree
that was seen, and the files it has written there are saved.
-/
namespace PackageAtlas.Main

/-! ### Looking at the disk -/

/-- A file tree that fills up, and the directories that are in it with all below them. -/
structure Survey where
  tree : FileTree
  explored : List Location

abbrev SurveyM := StateT Survey IO

/-- The answer of an action, or nothing where it fails. -/
def attempt {α : Type} (action : IO α) : IO (Option α) := do
  try return some (← action)
  catch _ => return none

/-- The place on the disk that a path of the program means. -/
def onDisk (path : Path) := do
  return (← IO.currentDir) / path.text

def isAbsent (path : Path) : SurveyM Bool := do
  let tree := (← get).tree
  return (tree.entry? path).any fun location => (tree.node? location).isNone

def record (path : Path) (node : FileTree.Node) : SurveyM Unit :=
  modify fun survey =>
    match survey.tree.entry? path with
    | some location => { survey with tree := survey.tree.insert location node }
    | none => survey

/-- Takes in what a path leads to, with the directories and links on the way. -/
partial def look (path : Path) : SurveyM Unit := do
  match path.parent? with
  | none => pure ()
  | some parent =>
    look parent
    if ← isAbsent path then
      let place ← onDisk path
      match ← attempt place.symlinkMetadata with
      | none => pure ()
      | some found =>
        match found.type with
        | .dir => record path (.directory [])
        | .file => record path (.file none)
        | .symlink =>
          match ← attempt (IO.FS.realPath place) with
          | none => pure ()
          | some target =>
            record path (.link target.toString)
            look ⟨target.toString⟩
        | .other => pure ()

/-- Takes in all that is below a directory, and what the links in it lead to. Hidden entries are
not reached by imports. -/
partial def explore (path : Path) : SurveyM Unit := do
  look path
  let survey ← get
  match survey.tree.locate? path with
  | none => pure ()
  | some place =>
    let directory := place.location
    if place.node.isDirectory && !survey.explored.contains directory then
      set { survey with explored := directory :: survey.explored }
      match ← attempt (← onDisk directory.path).readDir with
      | none => pure ()
      | some entries =>
        for entry in entries do
          unless FileTree.isHidden entry.fileName do
            explore (directory.path.child entry.fileName)

/-- Takes in the text of a file. -/
def readText (path : Path) : SurveyM Unit := do
  look path
  match (← get).tree.canonical? path with
  | none => pure ()
  | some canonical =>
    match ← attempt (IO.FS.readFile (← onDisk canonical)) with
    | none => pure ()
    | some text =>
      if (← get).tree.isFile canonical then record canonical (.file (some text))

/-- Takes in the directory that imports in a package start from. -/
partial def exploreImportRoot (directory : Path) : SurveyM Unit := do
  look (directory.child packageMarker)
  match (← get).tree.isPackage directory, directory.parent? with
  | true, some parent => exploreImportRoot parent
  | _, _ => explore directory

/-! ### What a command is about -/

/-- Takes in the project of a configuration, with the texts of its source files. -/
def surveyProject (config : Config) : SurveyM Unit := do
  config.pythonPath.forM explore
  look config.rootFolder
  let tree := (← get).tree
  exploreImportRoot (tree.canonicalOrSelf config.rootFolder)
  explore config.rootFolder
  let tree := (← get).tree
  match tree.locate? config.rootFolder with
  | none => pure ()
  | some root =>
    for directory in root.location :: tree.markedDirectories root.location do
      for name in tree.fileNames directory do
        let path := directory.path.child name
        if path.extension? = some "py" then readText path

/-- Takes in all that a request needs to know. -/
def surveyRequest : Command.Request → SurveyM Unit
  | .run action path _ => do
    readText path
    match Config.load (← get).tree path with
    | .error _ => pure ()
    | .ok config =>
      explore config.saveLocation
      surveyProject config
      match action with
      | .diff base => surveyProject (config.rebased (path.parent?.getD ⟨""⟩) base)
      | _ => pure ()
  | _ => pure ()

/-- The file tree that a request is about, seen from the working directory. -/
def survey (request : Command.Request) : IO FileTree := do
  let here : Path := ⟨(← IO.FS.realPath (← IO.currentDir)).toString⟩
  let ((), seen) ← (look here).run ⟨FileTree.empty, []⟩
  match seen.tree.locate? here with
  | none => throw (IO.userError "the working directory cannot be read")
  | some place =>
    let ((), seen) ← (surveyRequest request).run
      { seen with tree := { seen.tree with here := place.location } }
    return seen.tree

end PackageAtlas.Main

open PackageAtlas

def main (arguments : List String) : IO UInt32 := do
  let before ← Main.survey (Command.Request.ofArguments arguments)
  let outcome := Command.run before arguments
  for (location, text) in FileTree.written before outcome.tree do
    IO.FS.createDirAll (← Main.onDisk (Location.path location.dropLast))
    IO.FS.writeFile (← Main.onDisk location.path) text
  IO.print outcome.output
  match outcome.complaint with
  | none => pure ()
  | some complaint => IO.eprintln complaint
  return UInt32.ofNat outcome.exitCode
