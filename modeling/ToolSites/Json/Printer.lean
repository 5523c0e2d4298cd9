import ToolSites.Json.Document
/-!
# Writing a JSON text

A value is written with each item and field on a line of its own, indented by two
spaces for each level, and in ASCII alone: all other characters are written as
escapes of their 16-bit units, as are the control characters that have no short
escape. Tables and arrays without content stay on one line.
-/

namespace ToolSites.Json

/-! ## Strings -/

/-- The escape of a 16-bit unit. -/
def unitEscape (n : Nat) : List Char := '\\' :: 'u' :: Text.hexDigits 4 n

/-- A character as it stands in a string. -/
def escaped (c : Char) : List Char :=
  if c = '"' ∨ c = '\\' then ['\\', c]
  else if c = '\n' then ['\\', 'n']
  else if c = '\r' then ['\\', 'r']
  else if c = '\t' then ['\\', 't']
  else if c = '\x08' then ['\\', 'b']
  else if c = '\x0c' then ['\\', 'f']
  else if ' ' ≤ c ∧ c ≤ '~' then [c]
  else if c.toNat < 0x10000 then unitEscape c.toNat
  else unitEscape (0xD800 + (c.toNat - 0x10000) / 0x400) ++
    unitEscape (0xDC00 + (c.toNat - 0x10000) % 0x400)

/-- A symbol as it stands in a string. -/
def symbolText : Symbol → List Char
  | .char c => escaped c
  | .half unit => unitEscape unit

/-- A string between its quotes. -/
def stringText (s : Spelling) : List Char := '"' :: s.flatMap symbolText ++ ['"']

/-! ## Values -/

/-- A new line at the given level. -/
def newline (level : Nat) : List Char := '\n' :: List.replicate (2 * level) ' '

/-- A floating-point number; what is not finite has a name. -/
def realText : Binary64 → List Char
  | .nan => "NaN".toList
  | .infinite negative => (if negative then "-Infinity" else "Infinity").toList
  | x => x.text.toList

mutual

/-- A value that starts at the given level. -/
def valueText (level : Nat) : Document → List Char
  | .null => "null".toList
  | .boolean b => (if b then "true" else "false").toList
  | .integer n => (toString n).toList
  | .real x => realText x
  | .text s => stringText s
  | .array [] => "[]".toList
  | .array (v :: rest) =>
    '[' :: newline (level + 1) ++ valueText (level + 1) v ++ itemsText (level + 1) rest ++
      newline level ++ [']']
  | .table [] => "\x7b\x7d".toList
  | .table ((name, v) :: rest) =>
    '\x7b' :: newline (level + 1) ++ stringText name ++ ": ".toList ++ valueText (level + 1) v ++
      fieldsText (level + 1) rest ++ newline level ++ ['\x7d']

/-- The items after the first, each after a comma and on its own line. -/
def itemsText (level : Nat) : List Document → List Char
  | [] => []
  | v :: rest => ',' :: newline level ++ valueText level v ++ itemsText level rest

/-- The fields after the first, each after a comma and on its own line. -/
def fieldsText (level : Nat) : List (Spelling × Document) → List Char
  | [] => []
  | (name, v) :: rest =>
    ',' :: newline level ++ stringText name ++ ": ".toList ++ valueText level v ++
      fieldsText level rest

end

/-- The whole document. -/
def write (v : Document) : List Char := valueText 0 v

end ToolSites.Json
