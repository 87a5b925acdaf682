import PackageAtlas.Analyzer.Basic

/-!
# Targets of imports

What an import names can be a module or something inside of one, so it is tried under several
dotted names. A relative import is made absolute first. What leads to no file is left out.
-/
namespace PackageAtlas

/-- The dotted names to try for one import in a file in the directory `context`, one list for each
thing that is imported. Of each list the first name that leads to a file counts. -/
def Import.candidates (imported : Import) (tree : FileTree) (context : Path) :
    List (List String) :=
  let base := if imported.isRelative then
      tree.absoluteName? context imported.level imported.module
    else some (imported.module.getD "")
  match base with
  | none => []
  | some base =>
    let itself := if base.isEmpty then [] else [base]
    if !imported.isFromImport then if base.isEmpty then [] else [[base]]
    else
      let lists := imported.names.map fun (name, _) =>
        if name = "*" then itself
        -- The name may be a module of its own, or something inside of the module.
        else (if base.isEmpty then name else base ++ "." ++ name) :: itself
      lists.filter (!·.isEmpty)

/-- A file that is imported, with the dotted name it is imported by. -/
structure ImportTarget where
  name : String
  path : Path
deriving DecidableEq, Repr

namespace Analyzer

def firstTarget (tree : FileTree) (context : Path) :
    List String → StateM Analyzer (Option ImportTarget)
  | [] => return none
  | name :: rest => do
    match ← resolve tree name context with
    | some path => return some ⟨name, path⟩
    | none => firstTarget tree context rest

/-- The targets of all imports of a module, each once, in the order of the imports. -/
def targets (tree : FileTree) (module : ParsedModule) : StateM Analyzer (List ImportTarget) := do
  match module.path.parent? with
  | none => return []
  | some context =>
    let candidates := module.imports.flatMap (·.candidates tree context)
    let found ← candidates.mapM (firstTarget tree context)
    return (found.filterMap id).eraseDups

end Analyzer

end PackageAtlas
