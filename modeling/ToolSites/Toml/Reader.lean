import ToolSites.Host
import ToolSites.Toml.Moment
import ToolSites.Toml.Number
import ToolSites.Toml.Tables
import ToolSites.Toml.Text
/-!
# Reading a TOML document

Statements are read one after the other, each on its own line: a header, or a
key with its value. Arrays may run over several lines and hold comments; inline
tables stay on one line. Every step into an array or a table and every further
statement takes at least one character, so the length of the text bounds how
many steps are needed. How deep arrays and inline tables may lie in each other
depends on the machine.
-/

namespace ToolSites.Toml

/-! ## Errors -/

/-- Why a document could not be read. -/
inductive ReadError
  /-- The text is not of the form. -/
  | malformed
  /-- An integer with more digits than are read. -/
  | tooManyDigits (digits : Nat)
  /-- A value that lies too deep to be read with the stack that there is. -/
  | tooDeep
  deriving DecidableEq, Repr

/-- A reading that fails for one reason only. -/
def orMalformed {α : Type} : Option α → Except ReadError α
  | some a => .ok a
  | none => .error .malformed

/-! ## Comments -/

/-- Reads a comment up to the end of its line, if one starts here. -/
def comment? (cs : List Char) : Option (List Char) :=
  match cs with
  | '#' :: rest =>
    if (rest.takeWhile (· != '\n')).any (isIllegal false) then none
    else some (rest.dropWhile (· != '\n'))
  | _ => some cs

/-- Skips blanks, line ends and comments, with at most `fuel` comments. -/
def skipSpace? : (fuel : Nat) → List Char → Option (List Char)
  | 0, cs => some cs
  | fuel + 1, cs =>
    match cs.dropWhile isSpace with
    | '#' :: rest => (comment? ('#' :: rest)).bind (skipSpace? fuel)
    | rest => some rest

/-- Skips all blanks, line ends and comments. -/
def skipAll (cs : List Char) : Except ReadError (List Char) :=
  orMalformed (skipSpace? cs.length cs)

/-! ## Values -/

/-- Reads a value that is neither an array nor a table. -/
def scalar (cs : List Char) : Except ReadError (Value × List Char) :=
  match cs with
  | [] => .error .malformed
  | c :: _ =>
    if c = '"' ∨ c = '\'' then
      orMalformed ((string? cs).map fun (s, rest) => (.text (.ofList s), rest))
    else
      match after? "true" cs, after? "false" cs with
      | some rest, _ => .ok (.boolean true, rest)
      | none, some rest => .ok (.boolean false, rest)
      | none, none =>
        match moment cs with
        | .invalid => .error .malformed
        | .found rest =>
          .ok (.moment (.ofList (cs.take (cs.length - rest.length))), rest)
        | .absent =>
          match number? cs with
          | some (.value v, rest) => .ok (v, rest)
          | some (.tooManyDigits digits, _) => .error (.tooManyDigits digits)
          | none => .error .malformed

/-- Reads a key, the equals sign and the blanks after it. -/
def keyAndSign (cs : List Char) : Except ReadError (KeyPath × List Char) := do
  match ← orMalformed (key? cs) with
  | (key, '=' :: rest) => return (key, skipBlanks rest)
  | _ => .error .malformed

mutual

/-- Reads a value that lies in so many arrays and inline tables. -/
def value [Host] : (fuel depth : Nat) → List Char → Except ReadError (Value × List Char)
  | 0, _, _ => .error .malformed
  | fuel + 1, depth, cs =>
    if Host.follows depth cs then
      match cs with
      | '[' :: rest => do
        match ← skipAll rest with
        | ']' :: after => return (.array [], after)
        | rest => items fuel (depth + 1) [] rest
      | '\x7b' :: rest =>
        match skipBlanks rest with
        | '\x7d' :: after => .ok (.table [], after)
        | rest => inlineFields fuel (depth + 1) [] [] rest
      | _ => scalar cs
    else .error .tooDeep

/-- Reads the items of an array from one on; `before` are those before it, last
first. A comma may stand before the closing bracket. -/
def items [Host] : (fuel depth : Nat) → List Value → List Char →
    Except ReadError (Value × List Char)
  | 0, _, _, _ => .error .malformed
  | fuel + 1, depth, before, cs => do
    let (v, rest) ← value fuel depth cs
    match ← skipAll rest with
    | ']' :: after => return (.array (v :: before).reverse, after)
    | ',' :: rest =>
      match ← skipAll rest with
      | ']' :: after => return (.array (v :: before).reverse, after)
      | rest => items fuel depth (v :: before) rest
    | _ => .error .malformed

/-- Reads the fields of an inline table from one on; `pieces` are the keys of the
arrays and tables before it. -/
def inlineFields [Host] : (fuel depth : Nat) → (before : Fields) → (pieces : List KeyPath) →
    List Char → Except ReadError (Value × List Char)
  | 0, _, _, _, _ => .error .malformed
  | fuel + 1, depth, before, pieces, cs => do
    let (key, rest) ← keyAndSign cs
    let (v, rest) ← value fuel depth rest
    if pieces.any (·.isPrefixOf key) then .error .malformed
    else
      let fields ← orMalformed (addAt? false key v before)
      match skipBlanks rest with
      | '\x7d' :: after => return (.table fields, after)
      | ',' :: rest =>
        inlineFields fuel depth fields (if isPiece v then key :: pieces else pieces)
          (skipBlanks rest)
      | _ => .error .malformed

end

/-! ## Statements -/

/-- Reads the header after its opening brackets. -/
def headerPath (closing : String) (cs : List Char) : Except ReadError (KeyPath × List Char) := do
  let (path, rest) ← orMalformed (key? (skipBlanks cs))
  return (path, ← orMalformed (after? closing rest))

/-- Reads a header or a key with its value. Nothing is read before a comment. -/
def statement [Host] (d : Draft) (cs : List Char) : Except ReadError (Draft × List Char) :=
  match cs with
  | [] => .ok (d, cs)
  | '[' :: '[' :: rest => do
    let (path, rest) ← headerPath "]]" rest
    return (← orMalformed (d.closeSection.openArrayTable? path), rest)
  | '[' :: rest => do
    let (path, rest) ← headerPath "]" rest
    return (← orMalformed (d.closeSection.openTable? path), rest)
  | c :: _ =>
    if c = '#' then .ok (d, cs)
    else do
      let (key, rest) ← keyAndSign cs
      let (v, rest) ← value (2 * rest.length + 1) 0 rest
      return (← orMalformed (d.assign? key v), rest)

/-- Reads statements, each with its comment and the end of its line. -/
def statements [Host] : (fuel : Nat) → Draft → List Char → Except ReadError Fields
  | 0, _, _ => .error .malformed
  | fuel + 1, d, cs =>
    match skipBlanks cs with
    | [] => .ok d.fields
    | '\n' :: rest => statements fuel d rest
    | cs => do
      let (d, rest) ← statement d cs
      match ← orMalformed (comment? (skipBlanks rest)) with
      | [] => return d.fields
      | '\n' :: rest => statements fuel d rest
      | _ => .error .malformed

/-- The text with a line feed for every pair of carriage return and line feed. -/
def joinLineEnds : List Char → List Char
  | '\r' :: '\n' :: rest => '\n' :: joinLineEnds rest
  | c :: rest => c :: joinLineEnds rest
  | [] => []

/-- The table that the text writes. -/
def read [Host] (text : List Char) : Except ReadError Fields :=
  statements (text.length + 1) {} (joinLineEnds text)

end ToolSites.Toml
