import ToolSites.Literal.Token
/-!
# Readers of tokens

An expression is read with backtracking: of the ways in which a rule may go on, the
first that fits counts, and what a rule reads at a place is kept for the next time
that it is asked for there. A reader reads something, gives up, or meets a fault.
-/

namespace ToolSites.Literal

/-! ## Expressions -/

/-- What an expression is, as far as it matters for whether it writes a value. -/
inductive Expr
  | name (s : String)
  /-- A word for a value. -/
  | constant (s : String)
  | string
  | number (kind : NumberKind)
  /-- A value with a plus or minus before it. -/
  | signed (a : Expr)
  /-- Two values with a plus or minus between them. -/
  | sum (a b : Expr)
  | tuple (items : List Expr)
  | set (items : List Expr)
  /-- The keys and values in turn. -/
  | dict (entries : List Expr)
  /-- Any other expression. -/
  | other (thing : String)

/-- What messages call an expression. -/
def Expr.thing : Expr → String
  | .name _ => "name"
  | .constant s => s
  | .string | .number _ => "literal"
  | .signed _ | .sum .. => "expression"
  | .tuple _ => "tuple"
  | .set _ => "set display"
  | .dict _ => "dict literal"
  | .other thing => thing

/-! ## Readers -/

/-- The rules whose results are kept. -/
inductive Rule
  | starExpression
  | expression
  | disjunction
  | conjunction
  | inversion
  | bitwise
  | factor
  | primary
  | misnamed
  deriving DecidableEq, Repr

/-- What a rule read where so many tokens were left. -/
structure Kept where
  rule : Rule
  left : Nat
  result : Option (Expr × List Token)

/-- Reads from tokens, gives up, or meets a fault. -/
def Reader (α : Type) : Type :=
  List Token → List Kept → Except Fault (Option (α × List Token) × List Kept)

namespace Reader

variable {α β : Type}

/-- Reads nothing. -/
def done (a : α) : Reader α := fun tokens kept => .ok (some (a, tokens), kept)

/-- Gives up. -/
def fail : Reader α := fun _ kept => .ok (none, kept)

/-- Meets a fault. -/
def raise (f : Fault) : Reader α := fun _ _ => .error f

/-- Goes on with what was read. -/
def andThen (p : Reader α) (next : α → Reader β) : Reader β := fun tokens kept =>
  match p tokens kept with
  | .error f => .error f
  | .ok (none, kept) => .ok (none, kept)
  | .ok (some (a, rest), kept) => next a rest kept

instance : Monad Reader where
  pure := done
  bind := andThen

/-- Reads in another way if the first one gives up. -/
def otherwise (p : Reader α) (q : Unit → Reader α) : Reader α := fun tokens kept =>
  match p tokens kept with
  | .ok (none, kept) => q () tokens kept
  | result => result

instance : OrElse (Reader α) := ⟨otherwise⟩

/-- Looks ahead. -/
def ahead (p : Reader α) : Reader Bool := fun tokens kept =>
  match p tokens kept with
  | .error f => .error f
  | .ok (result, kept) => .ok (some (result.isSome, tokens), kept)

/-- Goes on only if something does not follow. -/
def lacking (p : Reader α) : Reader Unit := do
  if ← p.ahead then fail else done ()

/-- Reads something if it is there. -/
def perhaps (p : Reader α) : Reader (Option α) := (some <$> p) <|> done none

/-- Reads the same again and again, at most `fuel` times. -/
def repeated (p : Reader α) : (fuel : Nat) → Reader (List α)
  | 0 => done []
  | fuel + 1 => (do return (← p) :: (← repeated p fuel)) <|> done []

/-- Reads the same as often as it is there. -/
def many (p : Reader α) : Reader (List α) := fun tokens kept =>
  p.repeated tokens.length tokens kept

/-- Reads a token of some kind. -/
def token (accepts : TokenKind → Bool) : Reader Token := fun tokens kept =>
  match tokens with
  | [] => .ok (none, kept)
  | t :: rest =>
    match t.kind with
    | .broken fault => .error fault
    | kind => .ok (if accepts kind then some (t, rest) else none, kept)

/-- Reads a sign. -/
def sign (s : String) : Reader Token := token fun kind => kind = .sign s

/-- Reads one of some signs. -/
def anySign (signs : List String) : Reader Token := token fun
  | .sign s => signs.contains s
  | _ => false

/-- Reads a word that is not a name. -/
def keyword (s : String) : Reader Token := token fun kind => kind = .word s

/-- Keeps what a rule reads, or gives what is kept. -/
def memo (rule : Rule) (p : Reader Expr) : Reader Expr := fun tokens kept =>
  match kept.find? fun k => decide (k.rule = rule) && decide (k.left = tokens.length) with
  | some k => .ok (k.result, kept)
  | none =>
    match p tokens kept with
    | .error f => .error f
    | .ok (result, kept) => .ok (result, ⟨rule, tokens.length, result⟩ :: kept)

/-- Reads something at least once, with commas between. -/
def separated (p : Reader α) : Reader (List α) := do
  let first ← p
  return first :: (← many (do discard (sign ","); p))

/-- Reads something at least once, with commas between and perhaps one behind. -/
def listed (p : Reader α) : Reader (List α) := do
  let items ← separated p
  discard (perhaps (sign ","))
  return items

end Reader

end ToolSites.Literal
