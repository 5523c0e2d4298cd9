import ToolSites.Literal.Reader
/-!
# The grammar of expressions

The rules by which expressions are read. A rule is asked a `second` time where the
text does not fit the grammar; it then looks for mistakes that are often made, and
meets the fault that tells of the first of them.
-/

namespace ToolSites.Literal

open Reader

namespace Grammar

/-! ## Names -/

/-- The words that are no names. -/
def keywords : List String :=
  ["False", "None", "True", "and", "as", "assert", "async", "await", "break", "class", "continue",
    "def", "del", "elif", "else", "except", "finally", "for", "from", "global", "if", "import",
    "in", "is", "lambda", "nonlocal", "not", "or", "pass", "raise", "return", "try", "while",
    "with", "yield"]

/-- Reads a name. -/
def name : Reader String := do
  let t ← token fun
    | .word s => !keywords.contains s
    | _ => false
  match t.kind with
  | .word s => return s
  | _ => fail

/-- The start of a name that is a word in some places. -/
def softKeyword : Reader Token := token fun
  | .word s =>
    !keywords.contains s && ["_", "case", "match"].any fun word => s.toList.isPrefixOf word.toList
  | _ => false

/-- Names that once needed no brackets behind them. -/
def isLegacy : Expr → Bool
  | .name s => s = "print" || s = "exec"
  | _ => false

/-! ## Operators

What reads the operands of a rule is given by `go`, which knows whether mistakes are
looked for. -/

/-- Reads the expressions inside of another. -/
abbrev Inner := Bool → Rule → Reader Expr

/-- Operands with operators between them. -/
def chain (operand : Reader Expr) (operator : Reader Unit) (thing : String) : Reader Expr := do
  let first ← operand
  let others ← many (do operator; operand)
  return if others.isEmpty then first else .other thing

/-- An operator between two values, and whether it is a plus or minus. -/
def binary : Reader Bool := do
  let t ← anySign ["|", "^", "&", "<<", ">>", "+", "-", "*", "/", "//", "%", "@"]
  return t.kind = .sign "+" || t.kind = .sign "-"

/-- An operator that compares. -/
def comparing : Reader Unit :=
  discard (anySign ["==", "!=", "<=", "<", ">=", ">"]) <|>
  (do discard (keyword "not"); discard (keyword "in")) <|>
  discard (keyword "in") <|>
  (do discard (keyword "is"); discard (perhaps (keyword "not")))

/-- Values with operators between them. -/
def bitwise (go : Inner) (second : Bool) : Reader Expr := do
  let first ← go second .factor
  let others ← many (do return (← binary, ← go second .factor))
  match others with
  | [] => return first
  | [(true, b)] => return .sum first b
  | _ => return .other "expression"

/-- A value, perhaps compared with others. -/
def comparison (go : Inner) (second : Bool) : Reader Expr :=
  chain (go second .bitwise) comparing "comparison"

/-- A comparison, perhaps denied. -/
def inversion (go : Inner) (second : Bool) : Reader Expr :=
  (do
    discard (keyword "not")
    discard (go second .inversion)
    return .other "expression") <|>
  comparison go second

/-- A value, perhaps with signs before it or an exponent behind it. -/
def factor (go : Inner) (second : Bool) : Reader Expr :=
  (do
    let t ← anySign ["+", "-", "~"]
    let a ← go second .factor
    return if t.kind = .sign "~" then .other "expression" else .signed a) <|>
  (do
    let base ← go second .primary
    match ← perhaps (sign "**") with
    | none => return base
    | some _ => do
      discard (go second .factor)
      return .other "expression") <|>
  go second .primary

/-! ## Expressions with conditions -/

/-- A value and perhaps a condition with another value. -/
def conditional (go : Inner) (second : Bool) : Reader Expr :=
  (do
    discard (go second .disjunction)
    discard (keyword "if")
    discard (go second .disjunction)
    discard (keyword "else")
    discard (go second .expression)
    return .other "conditional expression") <|>
  go second .disjunction

/-- A value that may be unpacked. -/
def starExpression (go : Inner) (second : Bool) : Reader Expr :=
  (do
    discard (sign "*")
    discard (go second .bitwise)
    return .other "starred") <|>
  go second .expression

/-- The level of the last token that was read. -/
def lastLevel (before : List Token) : Reader Nat := fun tokens kept =>
  let read := before.take (before.length - tokens.length)
  .ok (some ((read.getLast?.map Token.level).getD 0, tokens), kept)

/-- The tokens that are left. -/
def remaining : Reader (List Token) := fun tokens kept => .ok (some (tokens, tokens), kept)

/-- Two expressions in a row. -/
def missingComma (go : Inner) : Reader Unit := do
  let before ← remaining
  lacking (do
    discard name
    discard (token fun
      | .string .. => true
      | _ => false))
  lacking softKeyword
  let a ← go true .disjunction
  discard (conditional go false)
  if isLegacy a || (← lastLevel before) = 0 then fail else raise .missingComma

/-- A condition without another value. -/
def missingElse (go : Inner) : Reader Unit := do
  discard (go true .disjunction)
  discard (keyword "if")
  discard (go true .disjunction)
  lacking (keyword "else" <|> sign ":")
  raise .missingElse

/-- A name that needs brackets behind it and has none. -/
def missingParentheses (go : Inner) : Reader Unit := do
  let s ← name
  lacking (sign "(")
  discard (listed (go true .starExpression))
  if isLegacy (.name s) then raise (.missingParentheses s) else fail

/-- An expression. -/
def expression (go : Inner) (second : Bool) : Reader Expr := do
  if second then discard (ahead (missingComma go <|> missingElse go <|> missingParentheses go))
  conditional go second

/-! ## Named values -/

/-- A value that is given a name. -/
def assignment (go : Inner) (second : Bool) : Reader Expr := do
  discard name
  discard (sign ":=")
  discard (go second .expression)
  return .other "named expression"

/-- What follows a value that is not assigned to. -/
def unassigned : Reader Unit := lacking (anySign ["=", ":="])

/-- A name or another value with a wrong sign of assignment behind it. -/
def misnamed (go : Inner) (second : Bool) (tuple : Reader Expr) : Reader Expr :=
  (do
    let a ← go second .expression
    discard (sign ":=")
    discard (go second .expression)
    raise (.namedWith a.thing)) <|>
  (do
    discard name
    discard (sign "=")
    discard (go second .bitwise)
    unassigned
    raise .assignment) <|>
  (do
    lacking tuple
    lacking (keyword "True" <|> keyword "None" <|> keyword "False")
    let a ← go second .bitwise
    discard (sign "=")
    discard (go second .bitwise)
    unassigned
    raise (.assignedTo a.thing))

/-- An expression that may have a name. -/
def named (go : Inner) (second : Bool) : Reader Expr :=
  assignment go second <|>
  (if second then go second .misnamed else fail) <|>
  (do
    let a ← go second .expression
    lacking (sign ":=")
    return a)

/-- An expression that may be unpacked or have a name. -/
def starNamed (go : Inner) (second : Bool) : Reader Expr :=
  (do
    discard (sign "*")
    discard (go second .bitwise)
    return .other "starred") <|>
  named go second

/-! ## Arguments -/

/-- A value that is unpacked. -/
def starred (go : Inner) (second : Bool) : Reader Unit := do
  discard (sign "*")
  discard (go second .expression) <|> raise .loneStar

/-- An argument with a wrong name. -/
def misnamedArgument (go : Inner) : Reader Unit :=
  (do
    let t ← keyword "True" <|> keyword "False" <|> keyword "None"
    discard (sign "=")
    match t.kind with
    | .word s => raise (.assignedKeyword s)
    | _ => fail) <|>
  (do
    lacking (do
      discard name
      discard (sign "="))
    discard (go true .expression)
    discard (sign "=")
    raise .assignedArgument)

/-- An argument with a name; it does not unpack anything. -/
def namedArgument (go : Inner) (second : Bool) : Reader Bool :=
  (if second then do
    misnamedArgument go
    return false
  else fail) <|>
  (do
    discard name
    discard (sign "=")
    discard (go second .expression)
    return false)

/-- Arguments with names, and whether each of them unpacks a dictionary. -/
def namedArguments (go : Inner) (second : Bool) : Reader (List Bool) :=
  let one := namedArgument go second <|> (do
    starred go second
    return false)
  let two := namedArgument go second <|> (do
    discard (sign "**")
    discard (go second .expression)
    return true)
  (do
    let first ← separated one
    discard (sign ",")
    return first ++ (← separated two)) <|>
  separated one <|>
  separated two

/-- An argument without a name. -/
def positional (go : Inner) (second : Bool) : Reader Unit :=
  starred go second <|>
  (do
    discard (assignment go second <|> (do
      let a ← go second .expression
      lacking (sign ":=")
      return a))
    lacking (sign "="))

/-- Arguments, and whether each of those with a name unpacks a dictionary. -/
def argumentList (go : Inner) (second : Bool) : Reader (List Bool) :=
  (do
    discard (separated (positional go second))
    let others ← perhaps (do
      discard (sign ",")
      namedArguments go second)
    return others.getD []) <|>
  namedArguments go second

/-- Arguments in a wrong order. -/
def disordered (go : Inner) : Reader Unit :=
  (do
    discard ((do
      discard (separated (positional go true))
      discard (sign ",")
      namedArguments go true) <|> namedArguments go true)
    discard (sign ",")
    discard (separated (do
      starred go true
      lacking (sign "=")))
    raise .starredArgument) <|>
  (do
    let unpacks ← argumentList go true
    discard (sign ",")
    discard (argumentList go true)
    raise (.positionalBehind (unpacks.any id)))

/-- The arguments of a call. -/
def arguments (go : Inner) (second : Bool) : Reader Unit :=
  (do
    discard (argumentList go second)
    discard (perhaps (sign ","))
    if ← ahead (sign ")") then return () else fail) <|>
  (if second then disordered go else fail)

/-! ## Brackets -/

/-- A tuple. -/
def tuple (go : Inner) (second : Bool) : Reader Expr := do
  discard (sign "(")
  let items ← perhaps (do
    let first ← starNamed go second
    discard (sign ",")
    let others ← perhaps (listed (starNamed go second))
    return first :: others.getD [])
  discard (sign ")")
  return .tuple (items.getD [])

/-- An expression in brackets. -/
def group (go : Inner) (second : Bool) : Reader Expr := do
  discard (sign "(")
  let a ← named go second
  discard (sign ")")
  return a

/-- Stars where there is nothing to unpack into. -/
def misgrouped (go : Inner) : Reader Expr :=
  (do
    discard (sign "(")
    starred go true
    discard (sign ")")
    raise .starred) <|>
  (do
    discard (sign "(")
    discard (sign "**")
    discard (go true .expression)
    discard (sign ")")
    raise .doubleStarred)

/-- Looks for mistakes in members that stand in brackets. Nothing is read. -/
def members (go : Inner) : Reader Unit :=
  (do
    discard (anySign ["(", "\x7b"])
    starred go true
    fail) <|>
  (do
    discard (sign "\x7b")
    discard (starNamed go true)
    discard (sign ",")
    discard (listed (starNamed go true))
    fail)

/-- The key and the value of an entry, or a dictionary that is unpacked. -/
def entry (go : Inner) (second : Bool) : Reader (List Expr) :=
  (do
    discard (sign "**")
    return [.other "starred", ← go second .bitwise]) <|>
  (do
    let key ← go second .expression
    discard (sign ":")
    return [key, ← go second .expression])

/-- A star in place of a value, or no value. -/
def missingValue (go : Inner) (second : Bool) : Reader Unit :=
  (do
    discard (go second .expression)
    discard (sign ":")
    discard (sign "*")
    discard (go second .bitwise)
    raise .starredValue) <|>
  (do
    discard (go second .expression)
    discard (sign ":")
    if ← ahead (anySign ["\x7d", ","]) then raise .missingValue else fail)

/-- Entries of which one is wrong. -/
def misentered (go : Inner) (second : Bool) : Reader Unit :=
  (do
    discard (separated (entry go second))
    discard (sign ",")
    (do
      discard (go second .expression)
      lacking (sign ":")
      raise .missingColon) <|> missingValue go second) <|>
  missingValue go second

/-- A dictionary. -/
def dict (go : Inner) (second : Bool) : Reader Expr :=
  (do
    discard (sign "\x7b")
    let entries ← perhaps (listed (entry go second))
    discard (sign "\x7d")
    return .dict (entries.getD []).flatten) <|>
  (do
    discard (sign "\x7b")
    misentered go second
    fail)

/-- A set. -/
def set (go : Inner) (second : Bool) : Reader Expr := do
  discard (sign "\x7b")
  let items ← listed (starNamed go second)
  discard (sign "\x7d")
  return .set items

/-! ## Values -/

/-- Strings in a row. -/
def strings : Reader Expr := do
  let parts ← many (token fun
    | .string .. => true
    | _ => false)
  let kinds := parts.filterMap fun t =>
    match t.kind with
    | .string kind _ => some kind
    | _ => none
  let faults := parts.filterMap fun t =>
    match t.kind with
    | .string _ fault => fault
    | _ => none
  if parts.isEmpty then fail
  else if kinds.contains .bytes && kinds.any fun k => decide (k ≠ .bytes) then raise .mixedStrings
  else
    match faults with
    | fault :: _ => raise fault
    | [] => return if kinds.contains .formatted then .other "f-string expression" else .string

/-- A word for a value. -/
def constant : Reader Expr :=
  (do discard (keyword "True"); return .constant "True") <|>
  (do discard (keyword "False"); return .constant "False") <|>
  (do discard (keyword "None"); return .constant "None") <|>
  (do discard (sign "..."); return .constant "ellipsis")

/-- A number. -/
def number : Reader Expr := do
  let t ← token fun
    | .number _ => true
    | _ => false
  match t.kind with
  | .number kind => return .number kind
  | _ => fail

/-- A value that is not made with operators. -/
def atom (go : Inner) (second : Bool) : Reader Expr :=
  (Expr.name <$> name) <|>
  constant <|>
  strings <|>
  number <|>
  tuple go second <|>
  group go second <|>
  (if second then misgrouped go else fail) <|>
  dict go second <|>
  set go second <|>
  (if second then do
    members go
    fail
  else fail)

/-- What may stand behind a value: the name of a part, or arguments. -/
def trailer (go : Inner) (second : Bool) : Reader (Option Unit) :=
  (do
    discard (sign ".")
    discard name
    return none) <|>
  (if second then do
    members go
    fail
  else fail) <|>
  (do
    discard (sign "(")
    let given ← perhaps (arguments go second)
    discard (sign ")")
    return if given.isSome then none else some ())

/-- A value with its parts and calls. The call that makes an empty set is one. -/
def primary (go : Inner) (second : Bool) : Reader Expr := do
  let a ← atom go second
  let before ← remaining
  let trailers ← many (trailer go second)
  match a, trailers with
  | a, [] => return a
  | .name "set", [some ()] => return .set []
  | _, _ =>
    let read := before.take (before.length - (← remaining).length)
    return .other (if read.getLast?.map Token.kind = some (.sign ")") then "function call"
      else "attribute")

/-! ## The whole -/

/-- Reads by a rule. -/
def step (go : Inner) (second : Bool) (rule : Rule) : Reader Expr :=
  memo rule <| match rule with
    | .starExpression => starExpression go second
    | .expression => expression go second
    | .disjunction =>
      chain (go second .conjunction) (discard (keyword "or")) "expression"
    | .conjunction => chain (go second .inversion) (discard (keyword "and")) "expression"
    | .inversion => inversion go second
    | .bitwise => bitwise go second
    | .factor => factor go second
    | .primary => primary go second
    | .misnamed => misnamed go second (tuple go second)

/-- Reads by a rule, in which others are nested at most `fuel` deep. -/
def nested : (fuel : Nat) → Inner
  | 0, _, _ => fail
  | fuel + 1, second, rule => step (nested fuel) second rule

/-- One expression or several. -/
def expressions (second : Bool) : Reader Expr := fun tokens kept =>
  let one := nested (10 * tokens.length + 10) second .expression
  (do
    let first ← one
    let others ← many (do discard (sign ","); one)
    match ← perhaps (sign ",") with
    | none => return if others.isEmpty then first else .tuple (first :: others)
    | some _ => return .tuple (first :: others)) tokens kept

/-- Reads line ends up to the end of the text. -/
def ending : Reader Unit := do
  discard (many (token fun kind => kind = .newline))
  if ← ahead (token fun kind => kind = .indent) then raise .unexpectedIndent
  discard (token fun kind => kind = .finish)

end Grammar

end ToolSites.Literal
