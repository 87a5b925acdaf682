import PackageAtlas.FileTree.Basic

/-!
# The files of a file tree

All files of a tree with their texts, and those in which two trees differ. Links are not followed.
-/
namespace PackageAtlas.FileTree

mutual
/-- The files at a node and below it. -/
def Node.files : Node → List (Location × Option String)
  | .directory entries => filesOf entries
  | .file text => [([], text)]
  | .link _ => []

/-- The files in a directory with the given entries and below it. -/
def filesOf : List (String × Node) → List (Location × Option String)
  | [] => []
  | (name, node) :: rest =>
    node.files.map (fun (location, text) => (name :: location, text)) ++ filesOf rest
end

/-- The files with a text of `after` that `before` does not have like that. -/
def written (before after : FileTree) : List (Location × String) :=
  after.root.files.filterMap fun (location, text) => do
    let new ← text
    match before.node? location with
    | some (.file (some old)) => if old = new then none else some (location, new)
    | _ => some (location, new)

end PackageAtlas.FileTree
