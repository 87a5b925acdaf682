import PackageAtlas.Numeral
import PackageAtlas.Reader

/-!
# Literals of Python

How far a number or a string reaches, and whether it is well formed. Escapes in strings are
judged, not evaluated.
-/
namespace PackageAtlas.Python

open Numeral Reader

/-! ### Numbers -/

/-- Digits with single underscores between them. -/
def digitRun (isDigit : Char → Bool) : Reader Char (List Char) := do
  let groups ← separated (manyOne (only isDigit)) (exactly ['_'])
  return groups.flatten

/-- The words that may follow a number without a blank. -/
def wordsAfterNumber : List String := ["and", "else", "for", "if", "in", "is", "not", "or"]

def numberEnd : Reader Char Unit := fun input =>
  let runsOn := match input with
    | c :: _ => c.isAlphanum || c = '_'
    | [] => false
  if runsOn && !wordsAfterNumber.any (·.toList.isPrefixOf input) then none
  else some ((), input)

/-- A number in another base, behind the zero and the letter of its base. An underscore may also
stand in front of its digits. -/
def basedDigits (isDigit : Char → Bool) : Reader Char Unit := do
  let _ ← given (exactly ['_'])
  let _ ← digitRun isDigit

def exponent : Reader Char Unit := do
  let _ ← only fun c => c = 'e' || c = 'E'
  let _ ← given (only fun c => c = '+' || c = '-')
  let _ ← digitRun isDecimal

/-- The dot and the digits behind it, which may be missing. -/
def fraction : Reader Char Unit := do
  exactly ['.']
  let _ ← given (digitRun isDecimal)

def basedNumber : Reader Char Unit := do
  exactly ['0']
  match ← next with
  | 'x' | 'X' => basedDigits isHexadecimal
  | 'o' | 'O' => basedDigits isOctal
  | 'b' | 'B' => basedDigits isBinary
  | _ => failure

/-- A decimal number; answers whether it is imaginary. -/
def decimalNumber : Reader Char Bool := do
  let whole ← optional (digitRun isDecimal)
  let hasFraction ← given fraction
  let hasExponent ← given exponent
  let imaginary ← given (only fun c => c = 'j' || c = 'J')
  -- Zeros in front of other digits are left to fractions and imaginary numbers.
  let padded := match whole with
    | some ('0' :: rest) => rest.any (· ≠ '0')
    | _ => false
  if padded && !(hasFraction || hasExponent || imaginary) then failure
  else return imaginary

def number : Reader Char Bool := do
  let based ← given (ahead do
    exactly ['0']
    only fun c => "xXoObB".toList.contains c)
  let imaginary ← if based then basedNumber *> pure false else decimalNumber
  numberEnd
  return imaginary

/-! ### Strings -/

/-- How the text between the quotes of a string is read. -/
structure StringStyle where
  quote : Char
  /-- Three quotes on both sides instead of one. -/
  long : Bool
  raw : Bool
  isBytes : Bool
deriving DecidableEq, Repr

def StringStyle.closing (style : StringStyle) : List Char :=
  List.replicate (if style.long then 3 else 1) style.quote

def hexDigits : Nat → Nat → Reader Char Nat
  | 0, code => pure code
  | count + 1, code => do
    let digit ← only isHexadecimal
    hexDigits count (code * 16 + digitValue digit)

def isCharacterNameChar (c : Char) : Bool :=
  c.isAlphanum || c = ' ' || c = '-' || c = '(' || c = ')'

/-- What follows a backslash in a string that is not raw. -/
def escapeRest (isBytes : Bool) : Reader Char Unit := do
  match ← next with
  | 'x' => hexDigits 2 0 *> pure ()
  | 'u' => if isBytes then pure () else hexDigits 4 0 *> pure ()
  | 'U' =>
    if isBytes then pure ()
    else do
      let code ← hexDigits 8 0
      if code < 0x110000 then pure () else failure
  | 'N' =>
    if isBytes then pure ()
    else do
      exactly ['\x7b']
      let _ ← manyOne (only isCharacterNameChar)
      exactly ['\x7d']
  | c => if isBytes && 0x80 ≤ c.toNat then failure else pure ()

/-- One character of a string, or one escape. -/
def stringPart (style : StringStyle) : Reader Char Unit := do
  notAhead (exactly style.closing)
  match ← next with
  | '\\' =>
    if style.raw then do
      let c ← next
      if style.isBytes && 0x80 ≤ c.toNat then failure else pure ()
    else escapeRest style.isBytes
  | '\n' => if style.long then pure () else failure
  | c => if style.isBytes && 0x80 ≤ c.toNat then failure else pure ()

/-- The text of a string behind its opening quotes, and its closing quotes. -/
def stringRest (style : StringStyle) : Reader Char Unit := do
  let _ ← many (stringPart style)
  exactly style.closing

/-- The quotes a string opens with: which they are, and whether there are three of them. -/
def openingQuotes : Reader Char (Char × Bool) := do
  let quote ← only fun c => c = '"' || c = '\''
  let long ← given (exactly [quote, quote])
  return (quote, long)

/-- What the letters in front of a string say about it. -/
structure StringPrefix where
  raw : Bool
  isBytes : Bool
  /-- The string has replacement fields; as a template when the flag in it is set. -/
  fields : Option Bool
deriving DecidableEq, Repr

/-- The meaning of the letters in front of a string, in either case. -/
def StringPrefix.ofWord? (word : List Char) : Option StringPrefix :=
  match String.ofList (word.map Char.toLower) with
  | "" | "u" => some ⟨false, false, none⟩
  | "r" => some ⟨true, false, none⟩
  | "b" => some ⟨false, true, none⟩
  | "br" | "rb" => some ⟨true, true, none⟩
  | "f" => some ⟨false, false, some false⟩
  | "fr" | "rf" => some ⟨true, false, some false⟩
  | "t" => some ⟨false, false, some true⟩
  | "tr" | "rt" => some ⟨true, false, some true⟩
  | _ => none

end PackageAtlas.Python
