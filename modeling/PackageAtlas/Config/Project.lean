import PackageAtlas.Config.Decode
import PackageAtlas.Policy.Check
import PackageAtlas.Project.Build
import PackageAtlas.Project.Lookup

/-!
# Configured projects

A configuration is loaded from a file, and the project that it describes is built.
-/
namespace PackageAtlas

inductive ConfigError where
  | unreadable (path : Path)
  | invalid (path : Path)
deriving DecidableEq, Repr

def ConfigError.message : ConfigError → String
  | .unreadable path => "Failed to read config file " ++ path.text
  | .invalid path => "Invalid config file " ++ path.text

inductive ProjectError where
  | noRootFolder (path : Path)
  | policy (error : LookupError)
  | scope (error : LookupError)
deriving DecidableEq, Repr

def ProjectError.message : ProjectError → String
  | .noRootFolder path => "Failed to access root folder " ++ path.text
  | .policy error => "Invalid policy declaration: " ++ error.message
  | .scope error => "Invalid scope: " ++ error.message

namespace Config

/-- The configuration in a file, with its paths seen from the directory of the file. -/
def load (tree : FileTree) (path : Path) : Except ConfigError Config :=
  match tree.text? path with
  | none => .error (.unreadable path)
  | some text =>
    match parse? text with
    | none => .error (.invalid path)
    | some config => .ok (config.anchored (path.parent?.getD ⟨""⟩))

/-- A built project with the policies and the scope of the configuration. -/
def applied (config : Config) (project : Project) : Except ProjectError Project :=
  match project.applyRules config.policies with
  | (_, some error) => .error (.policy error)
  | (project, none) =>
    match config.scope with
    | none => .ok project
    | some scope =>
      match project.changeScope scope with
      | .error error => .error (.scope error)
      | .ok (_, project) => .ok project

def project (config : Config) (tree : FileTree) : Except ProjectError Project :=
  let analyzer := Analyzer.new tree config.pythonPath config.pythonVersion
  match (Project.build tree config.rootFolder).run analyzer with
  | (none, _) => .error (.noRootFolder config.rootFolder)
  | (some project, _) => config.applied project

end Config

end PackageAtlas
