import PackageAtlas.Text

/-!
# Logical paths

A logical path names a package or a file by its position below the root package: segments
separated by slashes, empty for the root itself. Users may also write dots for the slashes.
-/
namespace PackageAtlas.LogicalPath

/-- The slash-separated form of a path as a user spells it (`api.v1`, `api/v1/`). -/
def normalize (spelling : String) : String :=
  Text.trim '/' (Text.replace '.' '/' spelling)

def child (parent name : String) : String :=
  if parent.isEmpty then name else parent ++ "/" ++ name

/-- The spelling of a path with dots between its segments. -/
def dotted (path : String) : String :=
  Text.replace '/' '.' path

/-- The segments of a path; the empty path has the empty segment alone. -/
def segments (path : String) : List String :=
  Text.split '/' path

end PackageAtlas.LogicalPath
