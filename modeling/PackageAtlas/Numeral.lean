/-!
# Numerals

Digits in bases up to sixteen. A digit above nine is a letter of either case.
-/
namespace PackageAtlas.Numeral

def isDecimal (c : Char) : Bool := c.isDigit

def isBinary (c : Char) : Bool := c = '0' || c = '1'

def isOctal (c : Char) : Bool := '0' ≤ c && c ≤ '7'

def isHexadecimal (c : Char) : Bool :=
  c.isDigit || ('a' ≤ c && c ≤ 'f') || ('A' ≤ c && c ≤ 'F')

def digitValue (c : Char) : Nat :=
  if c.isDigit then c.toNat - '0'.toNat
  else if 'a' ≤ c then c.toNat - 'a'.toNat + 10
  else c.toNat - 'A'.toNat + 10

/-- The number that digits stand for, the first being the most significant. -/
def value (base : Nat) (digits : List Char) : Nat :=
  digits.foldl (fun sum c => sum * base + digitValue c) 0

end PackageAtlas.Numeral
