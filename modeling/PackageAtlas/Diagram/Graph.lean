import PackageAtlas.Text
import PackageAtlas.Diagram.Basic
import PackageAtlas.Diagram.JsonText

/-!
# JSON graphs

A view as packages and edges for programs that draw diagrams of their own. Every edge lists the
dependencies between files behind it.
-/
namespace PackageAtlas.Graph

def stateName : EntityState → String
  | .neutral => "NEUTRAL"
  | .created => "CREATED"
  | .deleted => "DELETED"

def packageValue (package : ViewPackage) : JsonValue :=
  .record [("name", .text package.label), ("state", .text (stateName package.state))]

/-- A file by its last segment and its whole path. -/
def fileValue (path : String) : JsonValue :=
  .record [("name", .text ((Text.split '/' path).getLastD path)), ("path", .text path)]

def relationValue (relation : FileRelation) : JsonValue :=
  .record [("from_file", fileValue relation.source), ("to_file", fileValue relation.target)]

def edgeValue (view : View) (dependency : ViewDependency) : JsonValue :=
  let label := match dependency.mark with
    | some mark => mark.label
    | none => toString dependency.count
  .record [
    ("state", .text (stateName dependency.displayState)),
    ("fromPackage", .text (Diagram.labelOf view dependency.source)),
    ("toPackage", .text (Diagram.labelOf view dependency.destination)),
    ("label", .text label),
    ("relations", .list (dependency.relations.map relationValue))]

def value (projectName viewName : String) (view : View) : JsonValue :=
  .record [
    ("title", .text (Diagram.title projectName viewName)),
    ("packages", .list (view.packages.map packageValue)),
    ("edges", .list ((view.packages.flatMap (·.dependencies)).map (edgeValue view)))]

def render (projectName viewName : String) (view : View) : Document where
  extension := "json"
  text := (value projectName viewName view).pretty 0 ++ "\n"

end PackageAtlas.Graph
