import PackageAtlas.Diagram.Graph
import PackageAtlas.Diagram.PlantUml
import PackageAtlas.Path
import PackageAtlas.Policy.Basic
import PackageAtlas.View.Spec

/-!
# Configurations

A configuration says where a project lies, how its modules are found, which views are drawn of
it and which policies hold for it. Its paths are relative to the directory of its file.
-/
namespace PackageAtlas

structure Config where
  /-- The project's name, used in titles and file names. -/
  name : String
  /-- Directory of the root package. -/
  rootFolder : Path
  /-- Directory for finished diagrams. -/
  saveLocation : Path
  format : OutputFormat
  showDependencyCount : Bool
  packageColor : String
  /-- Directories that are searched for modules besides those of the importing file. -/
  pythonPath : List Path
  /-- Minor version of the Python 3 whose standard library is left out. -/
  pythonVersion : Nat
  /-- Number of workers; the model does not depend on it. -/
  jobs : Nat
  scope : Option String
  /-- Views by ascending name. -/
  views : List (String × ViewSpec)
  policies : List PolicyRule
deriving DecidableEq, Repr

namespace Config

def standard : Config where
  name := ""
  rootFolder := ⟨"."⟩
  saveLocation := ⟨"./diagrams"⟩
  format := .plantUml
  showDependencyCount := true
  packageColor := "#Azure"
  pythonPath := []
  pythonVersion := 12
  jobs := 0
  scope := none
  views := []
  policies := []

/-- The configuration with its paths seen from the directory that holds its file. -/
def anchored (config : Config) (directory : Path) : Config :=
  { config with
    rootFolder := directory.join config.rootFolder
    saveLocation := directory.join config.saveLocation
    pythonPath := config.pythonPath.map directory.join }

/-- A path below `directory` moved to the same place below `other`; any other path as it is. -/
def moved (directory other path : Path) : Path :=
  match path.relativeTo? directory with
  | some rest => other.join rest
  | none => path

/-- The configuration pointed at another checkout: what it names below its own directory is
looked for at the same place below `other`. Diagrams are saved where they were. -/
def rebased (config : Config) (directory other : Path) : Config :=
  { config with
    rootFolder := moved directory other config.rootFolder
    pythonPath := config.pythonPath.map (moved directory other) }

def render (config : Config) (viewName : String) (view : View) : Document :=
  match config.format with
  | .plantUml =>
    PlantUml.render ⟨config.name, config.showDependencyCount, config.packageColor⟩ viewName view
  | .json => Graph.render config.name viewName view

end Config

end PackageAtlas
