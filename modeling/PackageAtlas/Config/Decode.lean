import PackageAtlas.Config.Basic
import PackageAtlas.Toml.Document

/-!
# Reading a configuration

A configuration is a TOML document. Fields that are missing take their standard values, unknown
fields are passed over, and a field with a value of another type is refused.
-/
namespace PackageAtlas

open Toml (Value)

namespace Toml.Value

def string? : Value → Option String
  | .string text => some text
  | _ => none

def boolean? : Value → Option Bool
  | .boolean value => some value
  | _ => none

/-- A whole number from zero up to and without `bound`. -/
def natBelow? (bound : Nat) : Value → Option Nat
  | .integer value => if 0 ≤ value ∧ value < bound then some value.toNat else none
  | _ => none

def listOf? {α : Type} (item? : Value → Option α) : Value → Option (List α)
  | .array items => items.mapM item?
  | _ => none

/-- One of a fixed set of names; also a table with the name as its only key and nothing in it. -/
def choice? : Value → Option String
  | .string name => some name
  | .table [(name, .array [])] | .table [(name, .table [])] => some name
  | _ => none

def path? (value : Value) : Option Path :=
  (string? value).map Path.mk

end Toml.Value

/-- Numbers of workers and levels lie below this bound. -/
def wordBound : Nat := 18446744073709551616

/-- The field of a table with a key, or `standard` when there is none. -/
def fieldOr {α : Type} (entries : List (String × Value)) (key : String) (standard : α)
    (decode? : Value → Option α) : Option α :=
  match Toml.field? entries key with
  | none => some standard
  | some value => decode? value

def requiredField? {α : Type} (entries : List (String × Value)) (key : String)
    (decode? : Value → Option α) : Option α :=
  (Toml.field? entries key).bind decode?

def OutputFormat.decode? (value : Value) : Option OutputFormat :=
  match value.choice? with
  | some "plantuml" => some .plantUml
  | some "json" => some .json
  | _ => none

def PolicyKind.decode? (value : Value) : Option PolicyKind :=
  match value.choice? with
  | some "must-depend-on" => some .mustDependOn
  | some "cannot-depend-on" => some .cannotDependOn
  | _ => none

mutual
/-- Whether all whole numbers in a value fit into 64 bits, with a sign or without. -/
def Toml.Value.isModest : Value → Bool
  | .integer value => -9223372036854775808 ≤ value && value < wordBound
  | .array items => Toml.Value.areModest items
  | .table entries => Toml.Value.entriesAreModest entries
  | _ => true

def Toml.Value.areModest : List Value → Bool
  | [] => true
  | item :: rest => item.isModest && Toml.Value.areModest rest

def Toml.Value.entriesAreModest : List (String × Value) → Bool
  | [] => true
  | (_, value) :: rest => value.isModest && Toml.Value.entriesAreModest rest
end

def PackageSelector.decode? (value : Value) : Option PackageSelector :=
  match value with
  | .string text => some (.byPrefix text)
  -- The two forms are told apart by looking at the whole value, so its numbers have to fit
  -- wherever they stand.
  | .table entries =>
    if value.isModest then do
      let path ← requiredField? entries "path" Value.string?
      let depth ← requiredField? entries "depth" (Value.natBelow? wordBound)
      return .anchored path depth
    else none
  | _ => none

def NodeSelector.decode? : Value → Option NodeSelector
  | .table [("package", .string path)] => some (.package path)
  | .table [("file", .string path)] => some (.file path)
  | _ => none

def positional (keys : List String) (items : List Value) : List (String × Value) :=
  keys.zip items

/-- The fields of a table. A list gives them in order without their keys. -/
def fields? (keys : List String) : Value → Option (List (String × Value))
  | .table entries => some entries
  | .array items => some (positional keys items)
  | .moment _ => some []
  | _ => none

def ViewSpec.decode? (value : Value) : Option ViewSpec := do
  let entries ← fields? ["packages", "ignore-packages", "use-package-path-as-label"] value
  return {
    packages := ← fieldOr entries "packages" [] (Value.listOf? PackageSelector.decode?)
    ignorePackages := ← fieldOr entries "ignore-packages" [] (Value.listOf? Value.string?)
    usePathAsLabel :=
      ← fieldOr entries "use-package-path-as-label" none fun value =>
        value.boolean?.map some }

def PolicyRule.decode? (value : Value) : Option PolicyRule := do
  let entries ← fields? ["kind", "from", "to"] value
  return {
    kind := ← requiredField? entries "kind" PolicyKind.decode?
    subject := ← requiredField? entries "from" NodeSelector.decode?
    target := ← requiredField? entries "to" NodeSelector.decode? }

def decodeViews? : Value → Option (List (String × ViewSpec))
  | .table entries => do
    let views ← entries.mapM fun (name, value) => do return (name, ← ViewSpec.decode? value)
    return views.mergeSort fun a b => decide (a.1 ≤ b.1)
  | _ => none

namespace Config

def ofTable? (entries : List (String × Value)) : Option Config := do
  return {
    name := ← fieldOr entries "name" standard.name Value.string?
    rootFolder := ← fieldOr entries "root-folder" standard.rootFolder Value.path?
    saveLocation := ← fieldOr entries "save-location" standard.saveLocation Value.path?
    format := ← fieldOr entries "format" standard.format OutputFormat.decode?
    showDependencyCount :=
      ← fieldOr entries "show-dependency-count" standard.showDependencyCount Value.boolean?
    packageColor := ← fieldOr entries "package-color" standard.packageColor Value.string?
    pythonPath := ← fieldOr entries "python-path" standard.pythonPath (Value.listOf? Value.path?)
    pythonVersion := ← fieldOr entries "python-version" standard.pythonVersion (Value.natBelow? 256)
    jobs := ← fieldOr entries "jobs" standard.jobs (Value.natBelow? wordBound)
    scope := ← fieldOr entries "scope" standard.scope fun value => value.string?.map some
    views := ← fieldOr entries "views" standard.views decodeViews?
    policies := ← fieldOr entries "policies" standard.policies (Value.listOf? PolicyRule.decode?) }

def parse? (text : String) : Option Config :=
  (Toml.parse? text).bind ofTable?

end Config

end PackageAtlas
