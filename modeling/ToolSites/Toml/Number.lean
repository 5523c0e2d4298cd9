import ToolSites.Value
import ToolSites.Text.Digits
/-!
# Numbers of a TOML document

An integer is decimal with a sign, or hexadecimal, octal or binary without; a
decimal number with a fraction or a power of ten is a floating-point number. A
single underscore may stand between two digits.
-/

namespace ToolSites.Toml

open Text (isDigit hexValue? valueIn digitsValue signed signPart maxDigits)

/-- Whether the character is a digit of the base. -/
def isDigitIn (base : Nat) (c : Char) : Bool := (hexValue? c).any (· < base)

/-- The digits after a first one, without their underscores, and the rest. -/
def moreDigits (base : Nat) : List Char → List Char × List Char
  | [] => ([], [])
  | '_' :: d :: rest =>
    if isDigitIn base d then
      let (digits, after) := moreDigits base rest
      (d :: digits, after)
    else ([], '_' :: d :: rest)
  | d :: rest =>
    if isDigitIn base d then
      let (digits, after) := moreDigits base rest
      (d :: digits, after)
    else ([], d :: rest)

/-- Digits without their underscores; the first one must be there. -/
def digits? (base : Nat) : List Char → Option (List Char × List Char)
  | [] => none
  | d :: rest =>
    if isDigitIn base d then
      let (digits, after) := moreDigits base rest
      some (d :: digits, after)
    else none

/-- The base that a letter after a zero stands for. -/
def baseOf? : Char → Option Nat
  | 'x' => some 16
  | 'o' => some 8
  | 'b' => some 2
  | _ => none

/-- An integer in another base than ten. -/
def basedInteger? : List Char → Option (Int × List Char)
  | '0' :: letter :: rest => do
    let base ← baseOf? letter
    let (digits, after) ← digits? base rest
    return ((valueIn base digits : Int), after)
  | _ => none

/-- The digits of an integer part: one zero, or digits that start with another. -/
def wholePart? (cs : List Char) : Option (List Char × List Char) :=
  match cs with
  | '0' :: rest => some (['0'], rest)
  | _ => digits? 10 cs

/-- The digits after a point, if there are any. -/
def fractionDigits? : List Char → Option (List Char × List Char)
  | '.' :: rest => digits? 10 rest
  | _ => none

/-- The power of ten after an `e`, if there is one. -/
def powerOfTen? : List Char → Option (Int × List Char)
  | e :: rest =>
    if e = 'e' ∨ e = 'E' then do
      let (digits, after) ← digits? 10 (signPart rest).2
      return (signed (signPart rest).1 (digitsValue digits), after)
    else none
  | [] => none

/-- What a number text denotes. -/
inductive Number
  | value (v : Value)
  | tooManyDigits (digits : Nat)

/-- A decimal number. -/
def decimal? (cs : List Char) : Option (Number × List Char) := do
  let (negative, unsignedText) := signPart cs
  let (whole, rest) ← wholePart? unsignedText
  let (fraction, rest) := match fractionDigits? rest with
    | some (digits, after) => (some digits, after)
    | none => (none, rest)
  let (power, rest) := match powerOfTen? rest with
    | some (power, after) => (some power, after)
    | none => (none, rest)
  match fraction, power with
  | none, none =>
    if maxDigits < whole.length then return (.tooManyDigits whole.length, rest)
    else return (.value (.integer (signed negative (digitsValue whole))), rest)
  | _, _ =>
    let fraction := fraction.getD []
    let x := Binary64.ofDecimal negative (digitsValue (whole ++ fraction))
      (power.getD 0 - fraction.length)
    return (.value (.real x), rest)

/-- The names of the numbers that are not finite. -/
def named? (cs : List Char) : Option (Number × List Char) :=
  let (negative, rest) := signPart cs
  if "inf".toList.isPrefixOf rest then some (.value (.real (.infinite negative)), rest.drop 3)
  else if "nan".toList.isPrefixOf rest then some (.value (.real .nan), rest.drop 3)
  else none

/-- Reads a number. -/
def number? (cs : List Char) : Option (Number × List Char) :=
  match basedInteger? cs with
  | some (n, rest) => some (.value (.integer n), rest)
  | none => (decimal? cs).or (named? cs)

end ToolSites.Toml
