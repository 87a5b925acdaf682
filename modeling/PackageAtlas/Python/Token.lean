import PackageAtlas.Unicode.Identifier
import PackageAtlas.Unicode.Normalization

/-!
# Tokens of Python

The lexical elements of a Python source. The text of strings and numbers is left out: only what
decides about their place in a program is kept.
-/
namespace PackageAtlas.Python

/-! ### Words -/

def keywords : List String :=
  ["False", "None", "True", "and", "as", "assert", "async", "await", "break", "class", "continue",
    "def", "del", "elif", "else", "except", "finally", "for", "from", "global", "if", "import",
    "in", "is", "lambda", "nonlocal", "not", "or", "pass", "raise", "return", "try", "while",
    "with", "yield"]

/-- A character that a word takes in, right or not. -/
def isWordChar (c : Char) : Bool :=
  c.isAlphanum || c = '_' || 0x80 ≤ c.toNat

/-- Whether a word is an identifier by the Unicode properties of its characters. -/
def isIdentifier : List Char → Bool
  | [] => false
  | c :: rest => (c = '_' || Unicode.isIdentifierStart c) && rest.all Unicode.isIdentifierPart

/-- A word that is an identifier, as it is spelled. -/
structure Identifier where
  spelling : String
  valid : isIdentifier spelling.toList = true
deriving DecidableEq, Repr

/-- The name that an identifier stands for: spellings with one normal form are one name. -/
def Identifier.name (identifier : Identifier) : String :=
  if identifier.spelling.toList.all (·.toNat < 0x80) then identifier.spelling
  else Unicode.normalize identifier.spelling

/-- What some identifier stands for. -/
structure Name where
  text : String
  named : ∃ identifier : Identifier, identifier.name = text

/-! ### Tokens -/

inductive Token where
  | name (identifier : Identifier)
  | keyword (word : String)
  | number (imaginary : Bool)
  | string (isBytes : Bool)
  /-- The opening quotes of a string with replacement fields. -/
  | fieldsStart (isTemplate : Bool)
  | fieldsEnd
  /-- The conversion of a replacement field, such as `!r`. -/
  | conversion
  /-- The colon in front of the format specification of a replacement field. -/
  | formatStart
  | symbol (text : String)
  | newline
  | indent
  | dedent
deriving DecidableEq, Repr

def Token.ofWord? (word : List Char) : Option Token :=
  let spelling := String.ofList word
  if keywords.contains spelling then some (.keyword spelling)
  else if valid : isIdentifier word then
    some (.name ⟨spelling, by rwa [String.toList_ofList]⟩)
  else none

/-- The operators and delimiters, longer ones before their beginnings. -/
def symbols : List String :=
  ["**=", "//=", ">>=", "<<=", "...", "==", "!=", "<=", ">=", "->", "+=", "-=", "*=", "/=", "%=",
    "&=", "|=", "^=", "@=", "**", "//", "<<", ">>", ":=", ":", ",", ";", "+", "-", "*", "/", "|",
    "&", "<", ">", "=", ".", "%", "~", "^", "@"]

end PackageAtlas.Python
