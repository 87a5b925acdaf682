import PackageAtlas.Import
import PackageAtlas.Python.Token

/-!
# Statements of Python

A module as a tree of statements. Only imports are kept in full: every other simple statement
counts as one without imports, and of a compound statement the nested blocks are kept in the order
in which they stand in the source. The imports of a module are those of all its statements,
however deeply nested, in source order.
-/
namespace PackageAtlas.Python

/-- A dotted name from its parts. -/
def dotted (parts : List Name) : String :=
  Text.join '.' (parts.map (·.text))

/-- What a `from` imports of a module. -/
inductive ImportedName where
  /-- `*`. -/
  | all
  | single (name : Name) (label : Option Name)

/-- The name and the label of an imported thing; a star is a name as well. -/
def ImportedName.entry : ImportedName → String × Option String
  | .all => ("*", none)
  | .single name label => (name.text, label.map (·.text))

inductive Statement where
  /-- `import a, b.c`, by the parts of the dotted names. -/
  | importModules (modules : List (List Name))
  /-- `from ..module import a, b as c`, where one name at least stands behind `import`. -/
  | importFrom (module : Option (List Name)) (first : ImportedName) (others : List ImportedName)
      (level : Nat)
  | simple
  | function (body : List Statement)
  | classDefinition (body : List Statement)
  /-- `if` with the blocks of all its conditions, and the block behind `else`. -/
  | conditional (branches : List (List Statement)) (otherwise : List Statement)
  /-- `for` or `while`, with the block behind `else`. -/
  | loop (body otherwise : List Statement)
  /-- `try`, with the blocks behind `except`, `else` and `finally`. -/
  | attempt (body : List Statement) (handlers : List (List Statement))
      (otherwise finally_ : List Statement)
  | context (body : List Statement)
  | choice (cases : List (List Statement))

mutual
/-- The imports in a statement and in all statements below it, in source order. -/
def Statement.imports : Statement → List Import
  | .importModules modules => modules.map fun module => ⟨some (dotted module), [], 0⟩
  | .importFrom module first others level =>
    [⟨module.map dotted, (first :: others).map (·.entry), level⟩]
  | .simple => []
  | .function body | .classDefinition body | .context body => importsOf body
  | .conditional branches otherwise => importsOfAll branches ++ importsOf otherwise
  | .loop body otherwise => importsOf body ++ importsOf otherwise
  | .attempt body handlers otherwise finally_ =>
    importsOf body ++ importsOfAll handlers ++ importsOf otherwise ++ importsOf finally_
  | .choice cases => importsOfAll cases

def importsOf : List Statement → List Import
  | [] => []
  | statement :: rest => statement.imports ++ importsOf rest

/-- The imports in several blocks, one after another. -/
def importsOfAll : List (List Statement) → List Import
  | [] => []
  | block :: rest => importsOf block ++ importsOfAll rest
end

end PackageAtlas.Python
