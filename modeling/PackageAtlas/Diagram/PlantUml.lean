import PackageAtlas.Text
import PackageAtlas.Diagram.Basic

/-!
# PlantUML package diagrams

One line for every package and one for every dependency. A dotted prefix that all labels share is
left out of the names and stated in the title.
-/
namespace PackageAtlas.PlantUml

structure Style where
  projectName : String
  showDependencyCount : Bool
  packageColor : String
deriving DecidableEq, Repr

def Style.standard (projectName : String) : Style where
  projectName
  showDependencyCount := true
  packageColor := "#Azure"

def createdColor : String := "#Green"

def deletedColor : String := "#Red"

def Style.color (style : Style) : EntityState → String
  | .neutral => style.packageColor
  | .created => createdColor
  | .deleted => deletedColor

/-- The number of leading elements that two lists have in common. -/
def sharedLength : List String → List String → Nat
  | a :: as, b :: bs => if a = b then sharedLength as bs + 1 else 0
  | _, _ => 0

/-- The longest dotted prefix that can be taken off every label and leaves none empty. -/
def commonPrefix (labels : List String) : Option String :=
  match labels.map (Text.split '.') with
  | [] => none
  | first :: others =>
    let shared := others.foldl (fun length parts => min length (sharedLength first parts))
      first.length
    -- Every label keeps its last part.
    let kept := if (first :: others).any (·.length = shared) then shared - 1 else shared
    if kept = 0 then none else some (Text.join '.' (first.take kept))

/-- A label without the prefix and the dot behind it. -/
def withoutPrefix (stem : Option String) (label : String) : String :=
  ((stem.bind (Text.dropStart? · label)).bind (Text.dropStart? ".")).getD label

def quoted (name : String) : String :=
  "\"" ++ name ++ "\""

def titleLine (style : Style) (viewName : String) (stem : Option String) : String :=
  let title := "title " ++ Diagram.title style.projectName viewName
  match stem with
  | none => title
  | some stem => title ++ "\\n<size:12>" ++ stem ++ ".*</size>"

def packageLine (style : Style) (shown : String → String) (package : ViewPackage) : String :=
  "package " ++ quoted (shown package.path) ++ " " ++ style.color package.state

def dependencyLine (style : Style) (shown : String → String) (dependency : ViewDependency) :
    String :=
  let state := dependency.displayState
  let arrow := quoted (shown dependency.source) ++ "-->" ++ quoted (shown dependency.destination)
  let color := if state = .neutral then "" else " " ++ style.color state
  let label := match dependency.mark with
    | some mark => " : " ++ mark.label
    | none => if style.showDependencyCount then " : " ++ toString dependency.count else ""
  arrow ++ color ++ label

def lines (style : Style) (viewName : String) (view : View) : List String :=
  let stem := commonPrefix (view.packages.map (·.label))
  let shown path := withoutPrefix stem (Diagram.labelOf view path)
  ["@startuml", "skinparam backgroundColor GhostWhite", titleLine style viewName stem]
    ++ view.packages.map (packageLine style shown)
    ++ (view.packages.flatMap (·.dependencies)).map (dependencyLine style shown)
    ++ ["@enduml"]

def render (style : Style) (viewName : String) (view : View) : Document where
  extension := "puml"
  text := String.join ((lines style viewName view).map (· ++ "\n"))

end PackageAtlas.PlantUml
