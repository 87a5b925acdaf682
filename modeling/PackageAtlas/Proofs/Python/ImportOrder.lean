import PackageAtlas.Python.Statement
import PackageAtlas.Proofs.Text

/-!
# The imports of a module in source order

A statement of a module has a place: the way down to it through the statements that it stands in.
Of two statements neither of which stands in the other, the one whose place comes first in the
lexicographic order stands first in the source. The imports of a module are the records of all
its import statements, in that order.
-/
namespace PackageAtlas.Python

/-! ### Statements and the blocks in them -/

namespace Statement

/-- The blocks of a statement in the order in which they stand in the source. -/
def blocks : Statement → List (List Statement)
  | .importModules .. | .importFrom .. | .simple => []
  | .function body | .classDefinition body | .context body => [body]
  | .conditional branches otherwise => branches ++ [otherwise]
  | .loop body otherwise => [body, otherwise]
  | .attempt body handlers otherwise last => body :: (handlers ++ [otherwise, last])
  | .choice cases => cases

/-- The statements that stand in one of the blocks themselves, and not further inside. -/
def inner (statement : Statement) : List Statement :=
  statement.blocks.flatten

/-- The statement at a place, each number of which leads from a statement to one right in it. -/
def at? : Statement → List Nat → Option Statement
  | statement, [] => some statement
  | statement, index :: place => statement.inner[index]?.bind fun below => below.at? place

/-- Whether the statement is a `from … import …`. -/
def isFrom : Statement → Bool
  | .importFrom .. => true
  | _ => false

def isImport : Statement → Bool
  | .importModules .. | .importFrom .. => true
  | _ => false

/-- What a statement imports by itself. Every module of an `import` gives one record, with its parts
between dots and nothing else. A from-import gives one record, with the module between dots where
there is one, with all names in turn, each with the label behind its `as`, and with its level. -/
def records : Statement → List Import
  | .importModules modules => modules.map fun parts =>
    { module := some (".".intercalate (parts.map (·.text)))
      names := []
      level := 0 }
  | .importFrom module first others level =>
    [{ module := module.map fun parts => ".".intercalate (parts.map (·.text))
       names := (first :: others).map fun
         | .all => ("*", none)
         | .single name label => (name.text, label.map (·.text))
       level }]
  | _ => []

end Statement

/-- The statement at a place in a module. A module is no statement, so its places are not empty. -/
def statementAt? (module : List Statement) : List Nat → Option Statement
  | [] => none
  | index :: place => module[index]?.bind fun statement => statement.at? place

theorem dotted_eq_intercalate (parts : List Name) :
    dotted parts = ".".intercalate (parts.map (·.text)) :=
  Text.join_eq_intercalate '.' _

/-! ### Imports over blocks -/

theorem importsOf_append (first second : List Statement) :
    importsOf (first ++ second) = importsOf first ++ importsOf second := by
  induction first with
  | nil => simp [importsOf]
  | cons statement rest ih => simp [importsOf, ih]

theorem importsOfAll_eq_flatten (blocks : List (List Statement)) :
    importsOfAll blocks = importsOf blocks.flatten := by
  induction blocks with
  | nil => rw [importsOfAll, List.flatten_nil, importsOf]
  | cons block rest ih =>
    rw [importsOfAll, List.flatten_cons, importsOf_append, ih]

namespace Statement

/-- No block of a statement is left out, and none is taken before one that stands above it. -/
theorem imports_eq (statement : Statement) :
    statement.imports = statement.records ++ importsOf statement.inner := by
  -- Imports have records and no blocks, all other statements have blocks and no records.
  cases statement with
  | importModules modules =>
    simp [imports, records, inner, blocks, importsOf, dotted_eq_intercalate]
  | importFrom module first others level =>
    have entries_eq : (first :: others).map (·.entry) = (first :: others).map fun
        | .all => ("*", none)
        | .single name label => (name.text, label.map (·.text)) :=
      List.map_congr_left fun imported _ => by cases imported <;> rfl
    simp only [imports, records, inner, blocks, importsOf, List.flatten_nil, List.append_nil,
      entries_eq, funext dotted_eq_intercalate]
  | _ =>
    simp [imports, records, inner, blocks, importsOf, importsOf_append, importsOfAll_eq_flatten]

theorem inner_of_isImport {statement : Statement} (found : statement.isImport) :
    statement.inner = [] := by
  cases statement <;> first | rfl | cases found

theorem records_of_not_isImport {statement : Statement} (other : ¬statement.isImport) :
    statement.records = [] := by
  cases statement <;> first | rfl | exact absurd rfl other

/-- The first name of a from-import tells its record from those of an `import`. -/
theorem isFromImport_of_mem_records {statement : Statement} {record : Import}
    (member : record ∈ statement.records) : record.isFromImport = statement.isFrom := by
  cases statement with
  | importModules modules =>
    obtain ⟨parts, -, rfl⟩ := List.mem_map.mp member
    rfl
  | importFrom module first others level =>
    obtain rfl := List.mem_singleton.mp member
    rfl
  | _ => cases member

theorem sizeOf_lt_of_mem_blocks {statement below : Statement} {block : List Statement}
    (listed : block ∈ statement.blocks) (member : below ∈ block) :
    sizeOf below < sizeOf statement := by
  have in_block : sizeOf below < sizeOf block := List.sizeOf_lt_of_mem member
  -- It remains that the block is one of the statement's fields or stands in a list among them.
  cases statement with
  | importModules | importFrom | simple => cases listed
  | function | classDefinition | context =>
    obtain rfl := List.mem_singleton.mp listed
    simp only [function.sizeOf_spec, classDefinition.sizeOf_spec, context.sizeOf_spec]
    omega
  | conditional branches otherwise =>
    rw [conditional.sizeOf_spec]
    rcases List.mem_append.mp listed with branch | last
    · have := List.sizeOf_lt_of_mem branch
      omega
    · obtain rfl := List.mem_singleton.mp last
      omega
  | loop body otherwise =>
    rw [loop.sizeOf_spec]
    simp only [blocks, List.mem_cons, List.not_mem_nil, or_false] at listed
    rcases listed with rfl | rfl <;> omega
  | attempt body handlers otherwise last =>
    rw [attempt.sizeOf_spec]
    simp only [blocks, List.mem_cons, List.mem_append, List.not_mem_nil, or_false] at listed
    rcases listed with rfl | handler | rfl | rfl
    · omega
    · have := List.sizeOf_lt_of_mem handler
      omega
    · omega
    · omega
  | choice cases =>
    rw [choice.sizeOf_spec]
    have : sizeOf block < sizeOf cases := List.sizeOf_lt_of_mem listed
    omega

/-- A property that passes from the statements right in one to the statement itself holds of all. -/
theorem inner_induction {motive : Statement → Prop}
    (step : ∀ statement, (∀ below ∈ statement.inner, motive below) → motive statement)
    (statement : Statement) : motive statement :=
  step statement fun below member =>
    have : sizeOf below < sizeOf statement := by
      obtain ⟨block, listed, inside⟩ := List.mem_flatten.mp member
      exact sizeOf_lt_of_mem_blocks listed inside
    inner_induction step below
termination_by sizeOf statement

end Statement

/-! ### Sites -/

/-- A place together with the statement that stands there. -/
abbrev Site := List Nat × Statement

/-- The sites of the import statements among those that can be reached: every one is listed in
source order, and the imports are their records. -/
structure Listing (reach : List Nat → Option Statement) (imports : List Import)
    (sites : List Site) : Prop where
  ordered : sites.Pairwise (·.1 < ·.1)
  mem_iff (place : List Nat) (statement : Statement) :
    (place, statement) ∈ sites ↔ reach place = some statement ∧ statement.isImport
  imports_eq : imports = sites.flatMap (·.2.records)

/-- The place of a statement once another is put before its block. -/
def pushed : List Nat → List Nat
  | [] => []
  | index :: place => (index + 1) :: place

@[simp] theorem pushed_eq_nil {place : List Nat} : pushed place = [] ↔ place = [] := by
  cases place <;> simp [pushed]

@[simp] theorem pushed_ne_zero {place below : List Nat} : pushed place ≠ 0 :: below := by
  cases place <;> simp [pushed]

@[simp] theorem pushed_eq_succ {place below : List Nat} {index : Nat} :
    pushed place = (index + 1) :: below ↔ place = index :: below := by
  cases place <;> simp [pushed]

theorem pushed_lt {first second : List Nat} (before : first < second) :
    pushed first < pushed second := by
  cases second with
  | nil => exact absurd before (List.not_lt_nil first)
  | cons second below =>
    cases first with
    | nil => exact List.nil_lt_cons ..
    | cons first place =>
      rw [List.cons_lt_cons_iff] at before
      simpa [pushed, List.cons_lt_cons_iff] using before

/-- What is listed in a block is listed behind what is listed in the statement before it. -/
theorem Listing.cons {statement : Statement} {rest : List Statement} {first others : List Site}
    (in_first : Listing statement.at? statement.imports first)
    (in_rest : Listing (statementAt? rest) (importsOf rest) others) :
    Listing (statementAt? (statement :: rest)) (importsOf (statement :: rest))
      (first.map (fun site => (0 :: site.1, site.2)) ++
        others.map fun site => (pushed site.1, site.2)) where
  ordered := by
    refine List.pairwise_append.mpr ⟨?_, ?_, ?_⟩
    · refine in_first.ordered.map _ fun left right before => ?_
      exact List.cons_lt_cons_iff.mpr (.inr ⟨rfl, before⟩)
    · exact in_rest.ordered.map _ fun left right before => pushed_lt before
    · intro left left_member right right_member
      obtain ⟨inside, -, rfl⟩ := List.mem_map.mp left_member
      obtain ⟨⟨place, below⟩, behind, rfl⟩ := List.mem_map.mp right_member
      -- No statement of a block stands at the empty place, so the pushed number is not zero.
      obtain ⟨reached, -⟩ := (in_rest.mem_iff place below).mp behind
      cases place with
      | nil => cases reached
      | cons index place => exact List.cons_lt_cons_iff.mpr (.inl index.succ_pos)
  mem_iff place below := by
    simp only [List.mem_append, List.mem_map, Prod.exists, Prod.mk.injEq]
    -- The first number tells in which of the two parts a place can be.
    cases place with
    | nil => simp [statementAt?, in_rest.mem_iff]
    | cons index place =>
      cases index with
      | zero => simp [statementAt?, in_first.mem_iff]
      | succ index => simp [statementAt?, in_rest.mem_iff]
  imports_eq := by
    rw [importsOf, in_first.imports_eq, in_rest.imports_eq, List.flatMap_append, List.flatMap_map,
      List.flatMap_map]

/-- Statements in a row are listed one after another. -/
theorem exists_listing_block (block : List Statement)
    (each : ∀ statement ∈ block, ∃ sites, Listing statement.at? statement.imports sites) :
    ∃ sites, Listing (statementAt? block) (importsOf block) sites := by
  induction block with
  | nil =>
    refine ⟨[], .nil, fun place statement => ?_, rfl⟩
    cases place <;> simp [statementAt?]
  | cons statement rest ih =>
    obtain ⟨first, in_first⟩ := each statement List.mem_cons_self
    obtain ⟨others, in_rest⟩ := ih fun below member =>
      each below (List.mem_cons_of_mem statement member)
    exact ⟨_, in_first.cons in_rest⟩

/-- An import statement is the only site in itself, as nothing stands in it. -/
theorem Listing.singleton {statement : Statement} (found : statement.isImport) :
    Listing statement.at? statement.imports [([], statement)] where
  ordered := List.pairwise_singleton ..
  mem_iff place below := by
    rw [List.mem_singleton, Prod.mk.injEq]
    cases place with
    | nil =>
      constructor
      · rintro ⟨-, rfl⟩
        exact ⟨rfl, found⟩
      · rintro ⟨⟨⟩, -⟩
        exact ⟨rfl, rfl⟩
    | cons index place => simp [Statement.at?, Statement.inner_of_isImport found]
  imports_eq := by
    rw [statement.imports_eq, Statement.inner_of_isImport found]
    simp [importsOf]

/-- Any other statement imports nothing by itself, and its sites are those in its blocks. -/
theorem Listing.inner {statement : Statement} {sites : List Site} (other : ¬statement.isImport)
    (listing : Listing (statementAt? statement.inner) (importsOf statement.inner) sites) :
    Listing statement.at? statement.imports sites where
  ordered := listing.ordered
  mem_iff place below := by
    rw [listing.mem_iff]
    cases place with
    | nil =>
      -- The statement itself is at the empty place, but is no import, and no block reaches there.
      constructor
      · rintro ⟨⟨⟩, -⟩
      · rintro ⟨⟨⟩, found⟩
        exact absurd found other
    | cons index place => rfl
  imports_eq := by
    rw [statement.imports_eq, Statement.records_of_not_isImport other, List.nil_append,
      listing.imports_eq]

theorem exists_listing (statement : Statement) :
    ∃ sites, Listing statement.at? statement.imports sites := by
  induction statement using Statement.inner_induction with
  | step statement ih =>
    -- Nothing stands in an import, so only the other statements go down into their blocks.
    by_cases found : statement.isImport
    · exact ⟨_, .singleton found⟩
    · obtain ⟨sites, listing⟩ := exists_listing_block statement.inner ih
      exact ⟨sites, .inner found listing⟩

/-- The imports of a module are the records of its import statements, all of them and each once, in
the order in which the statements stand in the source. Every record tells whether its statement is a
from-import. -/
theorem importsOf_inSourceOrder (module : List Statement) :
    ∃ sites : List Site,
      sites.Pairwise (·.1 < ·.1) ∧
      (∀ place statement, (place, statement) ∈ sites ↔
        statementAt? module place = some statement ∧ statement.isImport) ∧
      importsOf module = sites.flatMap (·.2.records) ∧
      ∀ site ∈ sites, ∀ record ∈ site.2.records, record.isFromImport = site.2.isFrom := by
  obtain ⟨sites, listing⟩ := exists_listing_block module fun statement _ => exists_listing statement
  exact ⟨sites, listing.ordered, listing.mem_iff, listing.imports_eq, fun site _ record member =>
    Statement.isFromImport_of_mem_records member⟩

/-- In a function: `try: import a.b, c`, `except: from . import *` and
`finally: from ..d import e as f`. -/
example :
    let word (spelling : String) (valid : isIdentifier spelling.toList = true) : Name :=
      ⟨_, ⟨spelling, valid⟩, rfl⟩
    let parts : List Name := [word "a" (by decide), word "b" (by decide)]
    let aliased : ImportedName := .single (word "e" (by decide)) (some (word "f" (by decide)))
    importsOf [.function [.attempt
        [.importModules [parts, [word "c" (by decide)]]]
        [[.importFrom none .all [] 1]] []
        [.importFrom (some [word "d" (by decide)]) aliased [] 2]]] =
      [⟨some "a.b", [], 0⟩, ⟨some "c", [], 0⟩, ⟨none, [("*", none)], 1⟩,
        ⟨some "d", [("e", some "f")], 2⟩] := by
  decide +kernel

end PackageAtlas.Python
