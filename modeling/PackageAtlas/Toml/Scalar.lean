import PackageAtlas.Numeral
import PackageAtlas.Text
import PackageAtlas.Toml.Value

/-!
# TOML scalars without quotes

Numbers, truth values, dates and times, each judged on its whole text.
-/
namespace PackageAtlas.Toml

open Numeral

/-- The digits of a text in which single underscores may stand between digits. -/
def digits? (isDigit : Char → Bool) (text : List Char) : Option (List Char) :=
  let groups := Text.splitChars '_' text
  if groups.all fun group => !group.isEmpty && group.all isDigit then some groups.flatten
  else none

def plainDigits? (text : List Char) : Option (List Char) :=
  match digits? isDecimal text with
  -- A zero stands in front of no other digits.
  | some ('0' :: _ :: _) => none
  | digits => digits

/-- A text without its sign, and whether the sign was a minus. -/
def splitSign : List Char → Bool × List Char
  | '+' :: rest => (false, rest)
  | '-' :: rest => (true, rest)
  | text => (false, text)

def integer? : List Char → Option Int
  | '0' :: 'x' :: rest => (digits? isHexadecimal rest).map fun digits => Numeral.value 16 digits
  | '0' :: 'o' :: rest => (digits? isOctal rest).map fun digits => Numeral.value 8 digits
  | '0' :: 'b' :: rest => (digits? isBinary rest).map fun digits => Numeral.value 2 digits
  | text =>
    let (negative, rest) := splitSign text
    (plainDigits? rest).map fun digits =>
      let value : Int := Numeral.value 10 digits
      if negative then -value else value

/-- The part before the first character with the property and the part behind it. -/
def cutAt? (p : Char → Bool) (text : List Char) : List Char × Option (List Char) :=
  match text.dropWhile (!p ·) with
  | [] => (text, none)
  | _ :: behind => (text.takeWhile (!p ·), some behind)

def isFloat (text : List Char) : Bool :=
  let (_, rest) := splitSign text
  if rest = "inf".toList || rest = "nan".toList then true
  else
    let (mantissa, exponent) := cutAt? (fun c => c = 'e' || c = 'E') rest
    let (whole, fraction) := cutAt? (· = '.') mantissa
    let exponentFits := match exponent with
      | none => true
      | some exponent => (digits? isDecimal (splitSign exponent).2).isSome
    let fractionFits := match fraction with
      | none => exponent.isSome
      | some fraction => (digits? isDecimal fraction).isSome
    (plainDigits? whole).isSome && fractionFits && exponentFits

/-- The value of a text of exactly `count` decimal digits. -/
def fixedDigits? (count : Nat) (text : List Char) : Option Nat :=
  if text.length = count && text.all isDecimal then some (Numeral.value 10 text) else none

def daysIn (year month : Nat) : Nat :=
  if month = 2 then
    if year % 4 = 0 && (year % 100 ≠ 0 || year % 400 = 0) then 29 else 28
  else if month = 4 || month = 6 || month = 9 || month = 11 then 30
  else 31

def isDate (text : List Char) : Bool :=
  match (Text.splitChars '-' text).map List.length, Text.splitChars '-' text with
  | [4, 2, 2], [year, month, day] =>
    match fixedDigits? 4 year, fixedDigits? 2 month, fixedDigits? 2 day with
    | some year, some month, some day =>
      1 ≤ month && month ≤ 12 && 1 ≤ day && day ≤ daysIn year month
    | _, _, _ => false
  | _, _ => false

def isHourMinute (hour minute : List Char) : Bool :=
  match fixedDigits? 2 hour, fixedDigits? 2 minute with
  | some hour, some minute => hour ≤ 23 && minute ≤ 59
  | _, _ => false

/-- Whole seconds up to a leap second, with an optional fraction. -/
def isSecond (text : List Char) : Bool :=
  let (whole, fraction) := cutAt? (· = '.') text
  let wholeFits := match fixedDigits? 2 whole with
    | some second => second ≤ 60
    | none => false
  wholeFits && match fraction with
    | none => true
    | some fraction => !fraction.isEmpty && fraction.all isDecimal

def isTime (text : List Char) : Bool :=
  match Text.splitChars ':' text with
  | [hour, minute] => isHourMinute hour minute
  | [hour, minute, second] => isHourMinute hour minute && isSecond second
  | _ => false

def isOffset (text : List Char) : Bool :=
  match Text.splitChars ':' text with
  | [hour, minute] => isHourMinute hour minute
  | _ => false

/-- A time of day with an optional offset from universal time. -/
def isZonedTime (text : List Char) : Bool :=
  match text.reverse with
  | 'Z' :: before | 'z' :: before => isTime before.reverse
  | _ =>
    match cutAt? (fun c => c = '+' || c = '-') text with
    | (time, none) => isTime time
    | (time, some offset) => isTime time && isOffset offset

def isMoment (text : List Char) : Bool :=
  if isDate text || isTime text then true
  else
    match text.drop 10 with
    | c :: time =>
      (c = 'T' || c = 't' || c = ' ') && isDate (text.take 10) && isZonedTime time
    | [] => false

/-- The value of a scalar that is written without quotes. -/
def scalar? (text : List Char) : Option Value :=
  if text = "true".toList then some (.boolean true)
  else if text = "false".toList then some (.boolean false)
  else match integer? text with
    | some value => some (.integer value)
    | none =>
      if isFloat text then some (.float (String.ofList text))
      else if isMoment text then some (.moment (String.ofList text))
      else none

end PackageAtlas.Toml
