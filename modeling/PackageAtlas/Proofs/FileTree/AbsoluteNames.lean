import PackageAtlas.Proofs.ModuleNames

/-!
# Names and the way back

A directory gets an absolute name for a module by walking upwards twice: over the packages that the
dots of an import lead through, and over those that give the name. The search for such a name walks
downwards from the import root. All three ways meet at the package that the dots lead to.
-/
namespace PackageAtlas.FileTree

variable {tree : FileTree} {directory base : Location} {levels : Nat}

/-! ### Packages all the way -/

/-- Whether a directory lies the given number of levels above another, and both of them and all
between them are packages. -/
structure PackageAbove (tree : FileTree) (directory : Location) (levels : Nat)
    (base : Location) : Prop where
  above : ∃ inner, directory = base ++ inner ∧ inner.length = levels
  package {around : Location} :
    base <+: around → around <+: directory → tree.isPackage around.path = true

theorem packageAbove_zero :
    tree.PackageAbove directory 0 base ↔
      base = directory ∧ tree.isPackage directory.path = true := by
  constructor
  · rintro ⟨⟨inner, rfl, none_inner⟩, package⟩
    obtain rfl := List.eq_nil_of_length_eq_zero none_inner
    rw [List.append_nil] at package ⊢
    exact ⟨rfl, package (List.prefix_refl base) (List.prefix_refl base)⟩
  · rintro ⟨rfl, package⟩
    refine ⟨⟨[], by simp⟩, fun above below => ?_⟩
    rwa [above.eq_of_length_le below.length_le] at package

theorem not_packageAbove_root : ¬ tree.PackageAbove [] (levels + 1) base := by
  rintro ⟨⟨inner, whole, count⟩, -⟩
  rw [(List.append_eq_nil_iff.mp whole.symm).2] at count
  simp at count

/-- One level further down is one more package. -/
theorem packageAbove_succ {name : String} :
    tree.PackageAbove (directory ++ [name]) (levels + 1) base ↔
      tree.isPackage (Location.path (directory ++ [name])) = true ∧
        tree.PackageAbove directory levels base := by
  constructor
  · rintro ⟨⟨inner, whole, count⟩, package⟩
    obtain ⟨between, last, rfl⟩ : ∃ between last, inner = between ++ [last] := by
      rcases List.eq_nil_or_concat' inner with rfl | ends
      · simp at count
      · exact ends
    rw [← List.append_assoc] at whole
    -- The last of the names between is the one that was put on.
    obtain ⟨rfl, -⟩ := List.append_inj' whole rfl
    refine ⟨package ⟨between ++ [name], by simp⟩ (List.prefix_refl _), ⟨between, rfl, ?_⟩, ?_⟩
    · simpa using count
    · exact fun above below => package above (below.trans (List.prefix_append _ _))
  · rintro ⟨last, ⟨inner, rfl, count⟩, package⟩
    refine ⟨⟨inner ++ [name], by simp, by simp [count]⟩, fun above below => ?_⟩
    rcases List.prefix_concat_iff.mp below with rfl | before
    · exact last
    · exact package above before

theorem PackageAbove.base_package (above : tree.PackageAbove directory levels base) :
    tree.isPackage base.path = true := by
  obtain ⟨inner, rfl, -⟩ := above.above
  exact above.package (List.prefix_refl base) (List.prefix_append base inner)

theorem PackageAbove.mem_directory (above : tree.PackageAbove directory levels base)
    {name : String} (inside : name ∈ base) : name ∈ directory := by
  obtain ⟨inner, rfl, -⟩ := above.above
  exact List.mem_append_left inner inside

/-- The walk of the dots ends at the package that lies as many levels above, and nowhere if that is
none or one on the way is none. -/
theorem packageAbove?_path_iff (plain : directory.Plain) {path : Path} :
    tree.packageAbove? directory.path levels = some path ↔
      ∃ base, tree.PackageAbove directory levels base ∧ base.path = path := by
  induction levels generalizing directory with
  | zero =>
    simp only [packageAbove?, packageAbove_zero]
    by_cases package : tree.isPackage directory.path <;> simp [package]
  | succ levels ih =>
    cases directory using List.reverseRecOn with
    | nil => simp [packageAbove?, Location.parent?_root, not_packageAbove_root]
    | append_singleton before name =>
      have around := ih (Location.plain_append.mp plain).1
      simp only [packageAbove?, Location.parent?_path plain, packageAbove_succ]
      by_cases package : tree.isPackage (Location.path (before ++ [name])) <;>
        simp [package, around]

/-- Both ends of the walk are imported from the same directory. -/
theorem PackageAbove.importRoot_eq (above : tree.PackageAbove directory levels base)
    (plain : directory.Plain) :
    tree.importRoot directory.path = tree.importRoot base.path := by
  -- Every level leaves a package, and a package has the import root of the directory around it.
  induction levels generalizing directory with
  | zero =>
    obtain ⟨rfl, -⟩ := packageAbove_zero.mp above
    rfl
  | succ levels ih =>
    cases directory using List.reverseRecOn with
    | nil => exact absurd above not_packageAbove_root
    | append_singleton before name =>
      obtain ⟨package, outer⟩ := packageAbove_succ.mp above
      rw [importRoot_package plain package]
      exact ih outer (Location.plain_append.mp plain).1

/-! ### Names of packages -/

/-- The names of the packages around a directory are names on the way to it. -/
theorem mem_of_mem_packageNames (plain : base.Plain) {name : String}
    (member : name ∈ tree.packageNames base.path) : name ∈ base := by
  induction base using List.reverseRecOn with
  | nil => simp [packageNames_root] at member
  | append_singleton before last ih =>
    rcases Bool.eq_false_or_eq_true (tree.isPackage (Location.path (before ++ [last]))) with
      package | no_package
    · rw [packageNames_package plain package, List.mem_append] at member
      rw [List.mem_append]
      exact member.imp_left (ih (Location.plain_append.mp plain).1)
    · simp [packageNames_of_not_package plain no_package] at member

/-- Only a package at the root of the file system has no name. -/
theorem packageNames_ne_nil (plain : base.Plain) (package : tree.isPackage base.path = true)
    (unmarked : tree.isPackage (Location.path []) = false) :
    tree.packageNames base.path ≠ [] := by
  cases base using List.reverseRecOn with
  | nil =>
    rw [unmarked] at package
    cases package
  | append_singleton before last =>
    rw [packageNames_package plain package]
    exact List.append_ne_nil_of_right_ne_nil _ (List.cons_ne_nil last [])

/-! ### There and back -/

/-- Naming a module and searching for the name are inverse. A directory gets a name exactly if it
and all directories up to the one that the dots lead to are packages. Then both have one import
root, and below it the name is searched with the answer that the module has below that package: a
file, or nothing. Where the import has no module, or one without any parts, the answer is the marker
of the package. -/
theorem absoluteName?_inverse (plain : directory.Plain)
    (dotless : ∀ name ∈ directory, '.' ∉ name.toList)
    (unmarked : tree.isPackage (Location.path []) = false) (level : Nat)
    (module : Option String) :
    ((tree.absoluteName? directory.path level module).isSome ↔
      ∃ base, tree.PackageAbove directory (level - 1) base) ∧
    ∀ base, tree.PackageAbove directory (level - 1) base →
      ∃ name, tree.absoluteName? directory.path level module = some name ∧
        tree.importRoot directory.path = tree.importRoot base.path ∧
        tree.moduleIn? (tree.importRoot directory.path) (nameParts name) =
          let parts := (module.map nameParts).getD []
          if parts = [] then some (base.path.child packageMarker)
          else tree.moduleIn? base.path parts := by
  constructor
  · simp only [absoluteName?, Option.isSome_map, Option.isSome_iff_exists,
      packageAbove?_path_iff plain]
    exact ⟨fun ⟨_, base, above, _⟩ => ⟨base, above⟩, fun ⟨base, above⟩ => ⟨_, base, above, rfl⟩⟩
  · intro base above
    have same_root := above.importRoot_eq plain
    -- The name is cut where it was joined, since no name on the way has a dot in it.
    have base_plain : base.Plain := fun name inside => plain name (above.mem_directory inside)
    have names_dotless : ∀ package ∈ tree.packageNames base.path, '.' ∉ package.toList :=
      fun package member =>
        dotless package (above.mem_directory (mem_of_mem_packageNames base_plain member))
    have whole : ∀ part ∈ (module.map nameParts).getD [], part ≠ "" ∧ '.' ∉ part.toList := by
      cases module with
      | none => simp
      | some dotted => exact fun part member => of_mem_nameParts member
    have found : tree.packageAbove? directory.path (level - 1) = some base.path :=
      (packageAbove?_path_iff plain).mpr ⟨base, above, rfl⟩
    refine ⟨_, by rw [absoluteName?, found]; rfl, same_root, ?_⟩
    -- With a marker in the root of the file system the name could be empty, and nothing be found.
    have named := packageNames_ne_nil base_plain above.base_package unmarked
    rw [nameParts_fullName base_plain names_dotless whole, same_root,
      moduleIn?_fullName base_plain above.base_package (by simp [named]), moduleBelow?,
      if_pos above.base_package]

/-- Three packages inside of each other, with a module in the middle one. -/
def nestedShop : FileTree where
  root := .directory [("shop", .directory [
    ("__init__.py", .file (some "")),
    ("api", .directory [
      ("__init__.py", .file (some "")),
      ("core.py", .file (some "")),
      ("v1", .directory [("__init__.py", .file (some ""))])])])]
  here := []

/-- Two dots in the innermost package lead to the middle one, whose module has a name that is found
again below the directory around all three. -/
theorem nestedShop_core_found :
    nestedShop.absoluteName? ⟨"/shop/api/v1"⟩ 2 (some "core") = some "shop.api.core" ∧
      nestedShop.importRoot ⟨"/shop/api/v1"⟩ = ⟨"/"⟩ ∧
      nestedShop.moduleIn? ⟨"/"⟩ ["shop", "api", "core"] = some ⟨"/shop/api/core.py"⟩ := by
  have directory_eq : Location.path ["shop", "api", "v1"] = ⟨"/shop/api/v1"⟩ := by decide +kernel
  have plain : Location.Plain ["shop", "api", "v1"] := by
    intro name member
    simp only [List.mem_cons, List.not_mem_nil, or_false] at member
    rcases member with rfl | rfl | rfl <;> exact ⟨by decide, by decide, by decide⟩
  have dotless : ∀ name ∈ ["shop", "api", "v1"], '.' ∉ name.toList := by decide
  have unmarked : nestedShop.isPackage (Location.path []) = false := by decide +kernel
  have inner : nestedShop.isPackage (Location.path ["shop", "api", "v1"]) = true := by
    decide +kernel
  have middle : nestedShop.isPackage (Location.path ["shop", "api"]) = true := by decide +kernel
  have above : nestedShop.PackageAbove (["shop", "api"] ++ ["v1"]) (0 + 1) ["shop", "api"] :=
    packageAbove_succ.mpr ⟨inner, packageAbove_zero.mpr ⟨rfl, middle⟩⟩
  obtain ⟨-, searched⟩ := absoluteName?_inverse plain dotless unmarked 2 (some "core")
  obtain ⟨name, named, -, found⟩ := searched ["shop", "api"] above
  have name_eq : nestedShop.absoluteName? ⟨"/shop/api/v1"⟩ 2 (some "core") =
      some "shop.api.core" := by decide +kernel
  have root_eq : nestedShop.importRoot ⟨"/shop/api/v1"⟩ = ⟨"/"⟩ := by decide +kernel
  have whole_parts : nameParts "shop.api.core" = ["shop", "api", "core"] := by decide +kernel
  have own_parts : nameParts "core" = ["core"] := by decide +kernel
  have below : nestedShop.moduleIn? (Location.path ["shop", "api"]) ["core"] =
      some ⟨"/shop/api/core.py"⟩ := by decide +kernel
  rw [directory_eq, name_eq, Option.some.injEq] at named
  rw [directory_eq, root_eq, ← named, whole_parts] at found
  simp only [Option.map_some, Option.getD_some, own_parts, List.cons_ne_nil, if_false] at found
  exact ⟨name_eq, root_eq, found.trans below⟩

end PackageAtlas.FileTree
