import PackageAtlas.Proofs.View.Isolation

/-!
# Lookups by logical path

What a spelling means is told by the logical paths in a project alone. A package or file with the
very path comes first, and only without any is the root's name taken off. An element is found under
all spellings of its path, unless the path has dots in it or ends in a slash, for those are read as
separators.
-/
namespace PackageAtlas

/-! ### Spellings of a path -/

/-- Outer separators are all that is cut off. -/
theorem Text.trim_append {c : Char} {before text after : String}
    (separators : ∀ d ∈ before.toList ++ after.toList, d = c)
    (opens : text.toList.head? ≠ some c) (closes : text.toList.getLast? ≠ some c) :
    Text.trim c (before ++ text ++ after) = text := by
  obtain ⟨only_before, only_after⟩ := List.forall_mem_append.mp separators
  have kept (chars : List Char) (starts : chars.head? ≠ some c) :
      chars.dropWhile (· == c) = chars := by
    cases chars with
    | nil => rfl
    | cons first rest => exact List.dropWhile_cons_of_neg (by simpa using starts)
  have front : (before.toList ++ (text.toList ++ after.toList)).dropWhile (· == c) =
      (text.toList ++ after.toList).dropWhile (· == c) :=
    List.dropWhile_append_of_pos (by simpa using only_before)
  rw [Text.trim, String.toList_append, String.toList_append, List.append_assoc, front]
  cases cut : text.toList with
  | nil =>
    -- Nothing but separators is left.
    have nothing : after.toList.dropWhile (· == c) = [] := by simpa using only_after
    simp [nothing, String.toList_eq_nil_iff.mp cut]
  | cons first rest =>
    rw [cut] at opens closes
    have at_first : (first :: rest ++ after.toList).dropWhile (· == c) =
        first :: rest ++ after.toList := kept _ (by simpa using opens)
    have at_last : (first :: rest).reverse.dropWhile (· == c) = (first :: rest).reverse :=
      kept _ (by rwa [List.head?_reverse])
    rw [at_first, List.reverse_append, List.dropWhile_append_of_pos (by simpa using only_after),
      at_last, List.reverse_reverse, ← cut, String.ofList_toList]

namespace LogicalPath

/-- A path as it may be written: with slashes or dots between its segments, and with separators of
either kind around it. -/
def Spelling (path spelling : String) : Prop :=
  ∃ before after : String, (∀ c ∈ before.toList ++ after.toList, c = '/' ∨ c = '.') ∧
    (spelling = before ++ path ++ after ∨ spelling = before ++ dotted path ++ after)

/-- Whether a path is told from separators around it, however it is spelled. -/
structure Spellable (path : String) : Prop where
  dotless : '.' ∉ path.toList
  opens : path.toList.head? ≠ some '/'
  closes : path.toList.getLast? ≠ some '/'

private theorem replaced_separators {separators : String}
    (only : ∀ c ∈ separators.toList, c = '/' ∨ c = '.') :
    ∀ c ∈ (Text.replace '.' '/' separators).toList, c = '/' := by
  intro c member
  rw [Text.replace, String.toList_ofList] at member
  obtain ⟨old, inside, rfl⟩ := List.mem_map.mp member
  rcases only old inside with rfl | rfl <;> simp

/-- All spellings of a path have it as their normal form. -/
theorem Spellable.normalize_eq {path spelling : String} (spellable : Spellable path)
    (spelled : Spelling path spelling) : normalize spelling = path := by
  obtain ⟨before, after, separators, spelling_cases⟩ := spelled
  obtain ⟨only_before, only_after⟩ := List.forall_mem_append.mp separators
  have trimmed := Text.trim_append (List.forall_mem_append.mpr
    ⟨replaced_separators only_before, replaced_separators only_after⟩) spellable.opens
    spellable.closes
  rcases spelling_cases with rfl | rfl
  · rwa [normalize, Text.replace_append, Text.replace_append,
      Text.replace_of_not_mem spellable.dotless]
  · rwa [normalize, Text.replace_append, Text.replace_append, dotted,
      Text.replace_replace_of_not_mem spellable.dotless]

end LogicalPath

namespace Project

variable {project : Project}

/-! ### Packages -/

/-- Whether a logical path means a package: it is the package's own, or that of no package and leads
to this one behind the name of the root. -/
def MeansPackage (project : Project) (path : String) (id : PackageId) : Prop :=
  (project.package id).relative = path ∨
    (∀ other, project.HasPackage other → (project.package other).relative ≠ path) ∧
      (path = (project.package root).name ++ "/" ++ (project.package id).relative ∨
        path = (project.package root).name ∧ id = root)

theorem packageWithRelative?_eq_none_iff (placed : LogicallyPlaced project)
    (tree : PackageTree project) {path : String} :
    project.packageWithRelative? path = none ↔
      ∀ other, project.HasPackage other → (project.package other).relative ≠ path := by
  simp only [Option.eq_none_iff_forall_ne_some, ne_eq, packageWithRelative?_eq_some_iff placed tree,
    not_and]

/-- The empty path is that of the root alone. -/
theorem Reachable.eq_root_of_relative (reachable : Reachable RelativeName project) {id : PackageId}
    (has : project.HasPackage id) (empty : (project.package id).relative = "") : id = root := by
  have tree := reachable.wellFormed.tree
  apply reachable.logicallyPlaced.package_eq tree has tree.has_root
  rw [empty, reachable.stepwise.root_relative]

private theorem ne_append_slash (name rest : String) : name ≠ name ++ "/" ++ rest := by
  intro same
  have longer := congrArg String.length same
  simp only [String.length_append] at longer
  have slash : "/".length = 1 := rfl
  omega

theorem Reachable.findPackage_exact (reachable : Reachable RelativeName project) {spelling : String}
    {id : PackageId} :
    project.findPackage spelling = .ok id ↔
      project.HasPackage id ∧ project.MeansPackage (LogicalPath.normalize spelling) id := by
  have tree := reachable.wellFormed.tree
  have known_iff (path : String) (id : PackageId) : project.packageWithRelative? path = some id ↔
      project.HasPackage id ∧ (project.package id).relative = path :=
    packageWithRelative?_eq_some_iff reachable.logicallyPlaced tree
  rw [findPackage_eq_ok_iff, packageWithRelative?_eq_none_iff reachable.logicallyPlaced tree,
    known_iff, MeansPackage]
  generalize LogicalPath.normalize spelling = path
  have behind_iff : (∃ rest, project.dropRootName? path = some rest ∧
        project.packageWithRelative? rest = some id) ↔
      project.HasPackage id ∧
        (path = (project.package root).name ++ "/" ++ (project.package id).relative ∨
          path = (project.package root).name ∧ id = root) := by
    simp only [dropRootName?_eq_some_iff, known_iff]
    by_cases own : path = (project.package root).name
    · -- The name of the root alone leaves the empty path.
      have no_slash := own ▸ ne_append_slash path (project.package id).relative
      simp only [own, if_true, exists_eq_left, no_slash, false_or, true_and]
      refine and_congr_right fun has => ⟨reachable.eq_root_of_relative has, ?_⟩
      rintro rfl
      exact reachable.stepwise.root_relative
    · simp only [own, if_false, false_and, or_false]
      constructor
      · rintro ⟨rest, led, has, rfl⟩
        exact ⟨has, led⟩
      · rintro ⟨has, led⟩
        exact ⟨_, led, has, rfl⟩
  rw [behind_iff]
  tauto

/-! ### Files -/

/-- The logical paths of the files that define the module at a path, the one that comes first in
front. -/
def modulePaths (path : String) : List String :=
  [path ++ ".py", if path = "" then "__init__.py" else path ++ "/__init__.py"]

/-- Whether no file of the project has one of the given logical paths. -/
def NoFileAt (project : Project) (paths : List String) : Prop :=
  ∀ path ∈ paths, ∀ other, project.HasFile other → (project.file other).relative ≠ path

/-- Whether a file has one of the given logical paths, and no file has one of those before it. -/
def FirstFileAt (project : Project) (paths : List String) (id : FileId) : Prop :=
  ∃ before path after, paths = before ++ path :: after ∧
    (project.HasFile id ∧ (project.file id).relative = path) ∧ project.NoFileAt before

/-- Whether a logical path means a file: the module at the path, or if there is none the one behind
the name of the root. -/
def MeansFile (project : Project) (path : String) (id : FileId) : Prop :=
  project.FirstFileAt (modulePaths path) id ∨
    project.NoFileAt (modulePaths path) ∧
      ∃ rest, (path = (project.package root).name ++ "/" ++ rest ∨
          path = (project.package root).name ∧ rest = "") ∧
        project.FirstFileAt (modulePaths rest) id

theorem fileWithRelative?_eq_none_iff (placed : LogicallyPlaced project) (lists : FileLists project)
    {path : String} :
    project.fileWithRelative? path = none ↔
      ∀ other, project.HasFile other → (project.file other).relative ≠ path := by
  simp only [Option.eq_none_iff_forall_ne_some, ne_eq, fileWithRelative?_eq_some_iff placed lists,
    not_and]

theorem moduleFile?_eq (path : String) :
    project.moduleFile? path = (modulePaths path).findSome? project.fileWithRelative? := by
  have marker : LogicalPath.child path "__init__.py" =
      if path = "" then "__init__.py" else path ++ "/__init__.py" := by
    by_cases empty : path = ""
    · rw [empty]
      rfl
    · rw [LogicalPath.child, if_neg (mt String.isEmpty_iff.mp empty), if_neg empty,
        String.append_assoc]
      rfl
  rw [moduleFile?, marker, modulePaths]
  cases source : project.fileWithRelative? (path ++ ".py") with
  | some id => simp [source]
  | none =>
    cases package : project.fileWithRelative?
        (if path = "" then "__init__.py" else path ++ "/__init__.py") <;>
      simp [source, package]

theorem moduleFile?_eq_some_iff (placed : LogicallyPlaced project) (lists : FileLists project)
    {path : String} {id : FileId} :
    project.moduleFile? path = some id ↔ project.FirstFileAt (modulePaths path) id := by
  simp only [moduleFile?_eq, List.findSome?_eq_some_iff, fileWithRelative?_eq_some_iff placed lists,
    fileWithRelative?_eq_none_iff placed lists, FirstFileAt, NoFileAt]

theorem moduleFile?_eq_none_iff (placed : LogicallyPlaced project) (lists : FileLists project)
    {path : String} :
    project.moduleFile? path = none ↔ project.NoFileAt (modulePaths path) := by
  simp only [moduleFile?_eq, List.findSome?_eq_none_iff, fileWithRelative?_eq_none_iff placed lists,
    NoFileAt]

theorem findFile_eq_ok_iff {spelling : String} {id : FileId} :
    project.findFile spelling = .ok id ↔
      project.moduleFile? (LogicalPath.normalize spelling) = some id ∨
        project.moduleFile? (LogicalPath.normalize spelling) = none ∧
          ∃ rest, project.dropRootName? (LogicalPath.normalize spelling) = some rest ∧
            project.moduleFile? rest = some id := by
  rw [← Option.bind_eq_some_iff, ← Option.orElse_eq_some, findFile]
  split
  next known lookup => rw [lookup, Except.ok.injEq, Option.some.injEq]
  next missing => simp [missing]

theorem Reachable.findFile_exact (reachable : Reachable RelativeName project) {spelling : String}
    {id : FileId} :
    project.findFile spelling = .ok id ↔
      project.MeansFile (LogicalPath.normalize spelling) id := by
  have placed := reachable.logicallyPlaced
  have lists := reachable.wellFormed.files
  rw [findFile_eq_ok_iff, moduleFile?_eq_some_iff placed lists,
    moduleFile?_eq_none_iff placed lists, MeansFile]
  generalize LogicalPath.normalize spelling = path
  -- Only what is left behind the root's name is said in another way.
  refine or_congr_right (and_congr_right fun _ => exists_congr fun rest => ?_)
  rw [moduleFile?_eq_some_iff placed lists, dropRootName?_eq_some_iff]
  refine and_congr_left fun _ => ?_
  by_cases own : path = (project.package root).name
  · have no_slash := own ▸ ne_append_slash path rest
    simp [own, no_slash]
  · simp [own]

/-! ### Names that lead nowhere -/

theorem findPackage_eq_error_iff {spelling : String} {error : LookupError} :
    project.findPackage spelling = .error error ↔
      (∀ id, project.findPackage spelling ≠ .ok id) ∧ error = .packageNotFound spelling := by
  rw [findPackage]
  split
  next id lookup => simp
  next missing => simp [eq_comm]

theorem findFile_eq_error_iff {spelling : String} {error : LookupError} :
    project.findFile spelling = .error error ↔
      (∀ id, project.findFile spelling ≠ .ok id) ∧ error = .fileNotFound spelling := by
  rw [findFile]
  split
  next id lookup => simp
  next missing => simp [eq_comm]

/-! ### Exact lookups -/

/-- A lookup by logical path gives what the path means, and otherwise an error that names the
spelling. So everything is found under all spellings of its path that are told from separators: a
package under its own path, and a source file under its path without the ending. -/
theorem Reachable.lookup_exact (reachable : Reachable RelativeName project) (spelling : String) :
    let path := LogicalPath.normalize spelling
    ((∀ id, project.findPackage spelling = .ok id ↔
        project.HasPackage id ∧ project.MeansPackage path id) ∧
      ∀ error, project.findPackage spelling = .error error ↔
        (∀ id, project.HasPackage id → ¬ project.MeansPackage path id) ∧
          error = .packageNotFound spelling) ∧
    ((∀ id, project.findFile spelling = .ok id ↔ project.MeansFile path id) ∧
      ∀ error, project.findFile spelling = .error error ↔
        (∀ id, ¬ project.MeansFile path id) ∧ error = .fileNotFound spelling) ∧
    (∀ id, project.HasPackage id → '.' ∉ (project.package id).relative.toList →
      (project.package id).relative.toList.getLast? ≠ some '/' →
        LogicalPath.Spelling (project.package id).relative spelling →
          project.findPackage spelling = .ok id) ∧
    ∀ id stem, project.HasFile id → (project.file id).relative = stem ++ ".py" →
      '.' ∉ stem.toList → stem.toList.getLast? ≠ some '/' →
        LogicalPath.Spelling stem spelling → project.findFile spelling = .ok id := by
  intro path
  have placed := reachable.logicallyPlaced
  refine ⟨⟨fun id => reachable.findPackage_exact, fun error => ?_⟩,
    ⟨fun id => reachable.findFile_exact, fun error => ?_⟩, ?packages, ?files⟩
  · simp only [findPackage_eq_error_iff, ne_eq, reachable.findPackage_exact, not_and]
    rfl
  · simp only [findFile_eq_error_iff, ne_eq, reachable.findFile_exact]
    rfl
  case packages =>
    intro id has dotless closes spelled
    -- No logical path is absolute, so a slash can stand at the end only.
    have opens : (project.package id).relative.toList.head? ≠ some '/' := by
      simpa [Path.isAbsolute] using (placed.package has).inside
    have normal := LogicalPath.Spellable.normalize_eq ⟨dotless, opens, closes⟩ spelled
    exact reachable.findPackage_exact.mpr ⟨has, Or.inl normal.symm⟩
  case files =>
    intro id stem has relative_eq dotless closes spelled
    -- A slash in front of the stem would be one in front of the file's whole path.
    have opens : stem.toList.head? ≠ some '/' := by
      have inside := (placed.file has).inside
      rw [relative_eq] at inside
      intro slash
      obtain ⟨rest, cut⟩ := List.head?_eq_some_iff.mp slash
      simp [Path.isAbsolute, String.toList_append, cut] at inside
    have normal := LogicalPath.Spellable.normalize_eq ⟨dotless, opens, closes⟩ spelled
    refine reachable.findFile_exact.mpr (Or.inl ?_)
    rw [normal]
    exact ⟨[], _, _, rfl, ⟨has, relative_eq⟩, fun _ member => absurd member List.not_mem_nil⟩

/-- The package `a/c` and the file `x.py` in it are found with separators around their paths, the
file is meant behind the name of the root, and `a/x` means no package. -/
theorem sample_lookup_exact :
    sample.findPackage "./a.c//" = .ok ⟨3⟩ ∧ sample.findFile "a/c/x..." = .ok ⟨0⟩ ∧
      sample.MeansFile "p/a/c/x" ⟨0⟩ ∧
      ∀ id, sample.HasPackage id → ¬ sample.MeansPackage "a/x" id := by
  have exact_at (spelling : String) := sample_reachable.lookup_exact spelling
  obtain ⟨-, -, packages, -⟩ := exact_at "./a.c//"
  obtain ⟨-, -, -, files⟩ := exact_at "a/c/x..."
  obtain ⟨-, ⟨behind_root, -⟩, -⟩ := exact_at "p/a/c/x"
  obtain ⟨⟨-, missing⟩, -⟩ := exact_at "a/x"
  refine ⟨?package, ?file, ?root, ?nothing⟩
  case package =>
    refine packages ⟨3⟩ (by decide +kernel) (by decide +kernel) (by decide +kernel) ?_
    exact ⟨"./", "//", by simp, Or.inr (by decide +kernel)⟩
  case file =>
    refine files ⟨0⟩ "a/c/x" (by decide +kernel) (by decide +kernel) (by decide) (by decide) ?_
    exact ⟨"", "...", by simp, Or.inl (by decide +kernel)⟩
  case root =>
    have normal : LogicalPath.normalize "p/a/c/x" = "p/a/c/x" := by decide +kernel
    rw [normal] at behind_root
    exact (behind_root ⟨0⟩).mp (by decide +kernel)
  case nothing =>
    have normal : LogicalPath.normalize "a/x" = "a/x" := by decide +kernel
    rw [normal] at missing
    exact ((missing (.packageNotFound "a/x")).mp (by decide +kernel)).1

/-- A package `a` with a file called `.py`, and a package whose name is written with a slash behind
it. -/
def unspellable : Project :=
  let project := Project.new ⟨"/p"⟩
  let project := (project.addPackage root "a").2
  let project := (project.addPackage root "b/").2
  (project.addFile ⟨1⟩ ".py" none).2

/-- Without a dot in it, a path can still be missed under its own spelling: what is left of `a/.py`
ends in a slash, as the path of the package `b/` does, and outer slashes are cut off. -/
theorem unspellable_lost :
    Reachable SingleName unspellable ∧
      (unspellable.HasFile ⟨0⟩ ∧ (unspellable.file ⟨0⟩).relative = "a/" ++ ".py" ∧
        '.' ∉ "a/".toList) ∧
      unspellable.findFile "a/" = .error (.fileNotFound "a/") ∧
      unspellable.findFile "a." = .error (.fileNotFound "a.") ∧
      (unspellable.HasPackage ⟨2⟩ ∧ (unspellable.package ⟨2⟩).relative = "b/") ∧
      unspellable.findPackage "b/" = .error (.packageNotFound "b/") := by
  refine ⟨?_, by decide +kernel⟩
  refine .addFile (.addPackage (.addPackage (.new _) ?_ ?_) ?_ ?_) ?_ ?_
  all_goals decide +kernel

end Project

end PackageAtlas
