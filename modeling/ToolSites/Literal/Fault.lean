import ToolSites.Text.Digits
import ToolSites.Text.Quoted
/-!
# Faults of literals

Why a text does not write a value. Nearly all reasons lie in its form; that a text
holds a character that none may hold, that an expression is not made of constants,
that a set or a dictionary is asked to hold what it cannot, and that a number is
too large, are reasons of their own.
-/

namespace ToolSites.Literal

/-- Why a text does not write a value. -/
inductive Fault
  | nullByte
  /-- A member of a set or a key of a dictionary that is such a thing itself. -/
  | unhashable (thing : String)
  /-- An expression with a part that is to be computed. -/
  | notConstant
  /-- An integer with an imaginary number behind it that no real number is near to. -/
  | tooLarge
  | neverClosed (opening : Char)
  | unmatched (closing : Char)
  /-- A bracket of the wrong kind; the line is that of the opening one, if it is
  another. -/
  | mismatched (closing opening : Char) (line : Option Nat)
  | tooDeep
  | badCharacter (c : Char)
  | badContinuation
  | badNumber (kind : String)
  | badDigit (digit : Char) (kind : String)
  | leadingZeros
  | tooManyDigits (digits : Nat)
  | unterminated (line : Nat)
  | unterminatedTriple (line : Nat)
  /-- An escape in a text that ends too early, and where it starts and ends. -/
  | truncatedEscape (form : String) (first last : Nat)
  | beyondUnicode (first last : Nat)
  /-- An escape that is to name a character and has no name between braces. -/
  | malformedName (first last : Nat)
  | unknownName (first last : Nat)
  | badByteEscape (position : Nat)
  | notByte
  | mixedStrings
  | invalid
  | unexpectedIndent
  | missingComma
  | missingElse
  | missingParentheses (name : String)
  | assignment
  | assignedTo (thing : String)
  | assignedKeyword (thing : String)
  | assignedArgument
  | namedWith (thing : String)
  | starred
  | doubleStarred
  | starredArgument
  | loneStar
  | positionalBehind (unpacking : Bool)
  | missingColon
  | starredValue
  | missingValue
  deriving DecidableEq, Repr

namespace Fault

/-- Whether the fault lies in the form of the text. -/
def isFormal : Fault → Bool
  | .nullByte | .unhashable _ | .notConstant | .tooLarge => false
  | _ => true

/-- The number of a character in hexadecimal, in at least four digits. -/
def codePoint (c : Char) : String :=
  let width := if c.toNat < 0x10000 then 4 else if c.toNat < 0x100000 then 5 else 6
  "U+" ++ .ofList ((Text.hexDigits width c.toNat).map Char.toUpper)

/-- A character between single quotes. -/
def between (c : Char) : String := "'" ++ .singleton c ++ "'"

/-- What is wrong with an escape that stands there. -/
def inEscape (first last : Nat) (reason : String) : String :=
  "(unicode error) 'unicodeescape' codec can't decode bytes in position " ++ toString first ++
    "-" ++ toString last ++ ": " ++ reason

/-- The fault in words. -/
def message : Fault → String
  | .nullByte => "source code string cannot contain null bytes"
  | .unhashable thing => "unhashable type: '" ++ thing ++ "'"
  | .notConstant => "malformed node or string"
  | .tooLarge => "int too large to convert to float"
  | .neverClosed opening => between opening ++ " was never closed"
  | .unmatched closing => "unmatched " ++ between closing
  | .mismatched closing opening line =>
    "closing parenthesis " ++ between closing ++ " does not match opening parenthesis " ++
      between opening ++
      match line with
      | some n => " on line " ++ toString n
      | none => ""
  | .tooDeep => "too many nested parentheses"
  | .badCharacter c =>
    if Text.isPrintable c then "invalid character " ++ between c ++ " (" ++ codePoint c ++ ")"
    else "invalid non-printable character " ++ codePoint c
  | .badContinuation => "unexpected character after line continuation character"
  | .badNumber kind => "invalid " ++ kind ++ " literal"
  | .badDigit digit kind => "invalid digit " ++ between digit ++ " in " ++ kind ++ " literal"
  | .leadingZeros =>
    "leading zeros in decimal integer literals are not permitted; " ++
      "use an 0o prefix for octal integers"
  | .tooManyDigits digits =>
    Text.tooManyDigitsMessage digits ++
      " - Consider hexadecimal for huge integer literals to avoid decimal conversion limits."
  | .unterminated line => "unterminated string literal (detected at line " ++ toString line ++ ")"
  | .unterminatedTriple line =>
    "unterminated triple-quoted string literal (detected at line " ++ toString line ++ ")"
  | .truncatedEscape form first last => inEscape first last ("truncated " ++ form ++ " escape")
  | .beyondUnicode first last => inEscape first last "illegal Unicode character"
  | .malformedName first last => inEscape first last "malformed \\N character escape"
  | .unknownName first last => inEscape first last "unknown Unicode character name"
  | .badByteEscape position =>
    "(value error) invalid \\x escape at position " ++ toString position
  | .notByte => "bytes can only contain ASCII literal characters"
  | .mixedStrings => "cannot mix bytes and nonbytes literals"
  | .invalid => "invalid syntax"
  | .unexpectedIndent => "unexpected indent"
  | .missingComma => "invalid syntax. Perhaps you forgot a comma?"
  | .missingElse => "expected 'else' after 'if' expression"
  | .missingParentheses name =>
    "Missing parentheses in call to '" ++ name ++ "'. Did you mean " ++ name ++ "(...)?"
  | .assignment => "invalid syntax. Maybe you meant '==' or ':=' instead of '='?"
  | .assignedTo thing =>
    "cannot assign to " ++ thing ++ " here. Maybe you meant '==' instead of '='?"
  | .assignedKeyword thing => "cannot assign to " ++ thing
  | .assignedArgument =>
    "expression cannot contain assignment, perhaps you meant \"==\"?"
  | .namedWith thing => "cannot use assignment expressions with " ++ thing
  | .starred => "cannot use starred expression here"
  | .doubleStarred => "cannot use double starred expression here"
  | .starredArgument =>
    "iterable argument unpacking follows keyword argument unpacking"
  | .loneStar => "Invalid star expression"
  | .positionalBehind unpacking =>
    "positional argument follows keyword argument" ++ if unpacking then " unpacking" else ""
  | .missingColon => "':' expected after dictionary key"
  | .starredValue => "cannot use a starred expression in a dictionary value"
  | .missingValue => "expression expected after dictionary key and ':'"

end Fault

end ToolSites.Literal
