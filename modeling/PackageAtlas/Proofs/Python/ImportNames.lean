import PackageAtlas.Proofs.Analyzer.Relocation
import PackageAtlas.Proofs.Unicode.Separators
import PackageAtlas.Python.Block

/-!
# Names in import statements

The names in a source are identifiers, so the imports of a source name neither a directory above nor
one that is several levels below. What they import from a module has a name of one part.
-/
namespace PackageAtlas

/-- Whether an import has no slash in it, and no dot in the names that it imports. -/
structure Import.Undivided (imported : Import) : Prop where
  slashless : imported.Slashless
  dotless {name : String} {label : Option String} :
    (name, label) ∈ imported.names → '.' ∉ name.toList

namespace Python

theorem Name.slashless (name : Name) : '/' ∉ name.text.toList :=
  fun slash => name.spared '/' slash (by decide)

theorem slashless_dotted (parts : List Name) : '/' ∉ (dotted parts).toList := by
  refine FileTree.slashless_join fun part member => ?_
  obtain ⟨name, -, rfl⟩ := List.mem_map.mp member
  exact name.slashless

theorem ImportedName.spared (imported : ImportedName) :
    '/' ∉ imported.entry.1.toList ∧ '.' ∉ imported.entry.1.toList := by
  cases imported with
  | all => decide
  | single name label => exact ⟨name.slashless, fun dot => name.spared '.' dot (by decide)⟩

mutual
/-- Imports are undivided in whatever statement they stand. -/
theorem undivided_imports : (statement : Statement) →
    ∀ imported ∈ statement.imports, imported.Undivided
  | .importModules modules => by
    intro imported member
    rw [Statement.imports] at member
    obtain ⟨parts, -, rfl⟩ := List.mem_map.mp member
    exact {
      slashless := {
        module := fun same => Option.some.inj same ▸ slashless_dotted parts
        names := fun inside => absurd inside List.not_mem_nil }
      dotless := fun inside => absurd inside List.not_mem_nil }
  | .importFrom module first others level => by
    intro imported member
    rw [Statement.imports, List.mem_singleton] at member
    subst member
    refine ⟨⟨fun same => ?_, fun inside => ?_⟩, fun inside => ?_⟩
    · obtain ⟨parts, -, rfl⟩ := Option.map_eq_some_iff.mp same
      exact slashless_dotted parts
    · obtain ⟨name, -, same⟩ := List.mem_map.mp inside
      have clean := name.spared.1
      rwa [same] at clean
    · obtain ⟨name, -, same⟩ := List.mem_map.mp inside
      have clean := name.spared.2
      rwa [same] at clean
  | .simple => by simp [Statement.imports]
  | .function body => by
    rw [Statement.imports]
    exact undivided_importsOf body
  | .classDefinition body => by
    rw [Statement.imports]
    exact undivided_importsOf body
  | .context body => by
    rw [Statement.imports]
    exact undivided_importsOf body
  | .conditional branches otherwise => by
    rw [Statement.imports]
    exact List.forall_mem_append.mpr
      ⟨undivided_importsOfAll branches, undivided_importsOf otherwise⟩
  | .loop body otherwise => by
    rw [Statement.imports]
    exact List.forall_mem_append.mpr ⟨undivided_importsOf body, undivided_importsOf otherwise⟩
  | .attempt body handlers otherwise last => by
    rw [Statement.imports]
    simp only [List.forall_mem_append]
    exact ⟨⟨⟨undivided_importsOf body, undivided_importsOfAll handlers⟩,
      undivided_importsOf otherwise⟩, undivided_importsOf last⟩
  | .choice cases => by
    rw [Statement.imports]
    exact undivided_importsOfAll cases

theorem undivided_importsOf : (statements : List Statement) →
    ∀ imported ∈ importsOf statements, imported.Undivided
  | [] => by simp [importsOf]
  | statement :: rest => by
    rw [importsOf]
    exact List.forall_mem_append.mpr ⟨undivided_imports statement, undivided_importsOf rest⟩

theorem undivided_importsOfAll : (blocks : List (List Statement)) →
    ∀ imported ∈ importsOfAll blocks, imported.Undivided
  | [] => by simp [importsOfAll]
  | block :: rest => by
    rw [importsOfAll]
    exact List.forall_mem_append.mpr ⟨undivided_importsOf block, undivided_importsOfAll rest⟩
end

theorem undivided_of_imports? {text : String} {imports : List Import}
    (parsed : imports? text = some imports) {imported : Import} (member : imported ∈ imports) :
    imported.Undivided := by
  obtain ⟨statements, -, rfl⟩ := Option.map_eq_some_iff.mp parsed
  exact undivided_importsOf statements imported member

theorem slashless_of_imports? {text : String} {imports : List Import}
    (parsed : imports? text = some imports) {imported : Import} (member : imported ∈ imports) :
    imported.Slashless :=
  (undivided_of_imports? parsed member).slashless

end Python

end PackageAtlas
