/-!
# TOML values

A table lists its entries under distinct keys.
-/
namespace PackageAtlas.Toml

inductive Value where
  | string (text : String)
  | integer (value : Int)
  | float (text : String)
  | boolean (value : Bool)
  /-- A date, a time, or both. -/
  | moment (text : String)
  | array (items : List Value)
  | table (entries : List (String × Value))

def field? (entries : List (String × Value)) (key : String) : Option Value :=
  entries.lookup key

end PackageAtlas.Toml
