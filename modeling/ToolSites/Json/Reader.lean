import ToolSites.Host
import ToolSites.Json.Token
import ToolSites.NameMap
/-!
# Reading a JSON text

`read` runs over the tokens of a text with a stack of the arrays and tables that
are still open. What the reader awaits next decides which tokens are accepted,
and which problem is reported where another stands. Of a name that a table gives
twice the later value holds, at the place of the first. How many arrays and tables may
be open at once depends on the machine.
-/

namespace ToolSites.Json

/-! ## Errors -/

/-- A place in a text, counted in characters. -/
structure Place where
  /-- How many characters come before it. -/
  offset : Nat
  /-- Its line, the first being 1. -/
  line : Nat
  /-- Its column, the first being 1. -/
  column : Nat
  deriving DecidableEq, Repr

/-- The place after the characters `before`. -/
def placeAfter (before : List Char) : Place :=
  { offset := before.length
    line := before.count '\n' + 1
    column := (before.reverse.takeWhile (· != '\n')).length + 1 }

/-- Why a text could not be read. -/
inductive ReadError
  | malformed (problem : Problem) (place : Place)
  | tooManyDigits (digits : Nat)
  /-- More arrays and tables are open at once than there is room for. -/
  | tooDeep
  deriving DecidableEq, Repr

/-- The error in words. -/
def ReadError.message : ReadError → String
  | .malformed problem place =>
    problem.message ++ ": line " ++ toString place.line ++ " column " ++ toString place.column ++
      " (char " ++ toString place.offset ++ ")"
  | .tooManyDigits digits => Text.tooManyDigitsMessage digits
  | .tooDeep => "maximum recursion depth exceeded"

/-! ## The state of a reader -/

/-- An array or table that is still open. -/
inductive Frame
  /-- The items before the one that is read, last first. -/
  | array (before : List Document)
  /-- The fields before the one that is read, and its name. -/
  | table (before : List (Spelling × Document)) (name : Spelling)

/-- What a reader awaits. -/
inductive Awaiting
  | value
  | firstItem
  | firstName
  | name (before : List (Spelling × Document))
  | colon (before : List (Spelling × Document)) (name : Spelling)
  /-- A value is complete: its array or table goes on or ends. -/
  | next (v : Document)

/-- What is still open, innermost first, and what is awaited. -/
structure State where
  stack : List Frame
  awaiting : Awaiting

/-- Why a reader stops. -/
inductive Stop
  | fault (f : Fault)
  | tooManyDigits (digits : Nat)
  | tooDeep

/-- A problem at the current token. -/
def blame (problem : Problem) (left : Nat) : Except Stop State := .error (.fault ⟨problem, left⟩)

/-- Opens an array or table, if there is room for one more. -/
def opening [Host] (stack : List Frame) (opened : State) : Except Stop State :=
  if Host.opens stack.length then .ok opened else .error .tooDeep

theorem opening_eq_ok [Host] {stack : List Frame} {opened next : State} :
    opening stack opened = .ok next ↔ Host.opens stack.length = true ∧ next = opened := by
  unfold opening
  split
  · next hroom => simp [hroom, eq_comm]
  · next hroom => simp [hroom]

theorem opening_eq_error [Host] {stack : List Frame} {opened : State} {stop : Stop} :
    opening stack opened = .error stop ↔ Host.opens stack.length = false ∧ stop = .tooDeep := by
  unfold opening
  split
  · next hroom => simp [hroom]
  · next hroom => simp [Bool.eq_false_iff.2 hroom, eq_comm]

/-- The first token of a value. -/
def beginValue [Host] (stack : List Frame) (left : Nat) : Token → Except Stop State
  | .text s => .ok ⟨stack, .next (.text s)⟩
  | .literal v => .ok ⟨stack, .next v⟩
  | .number (.value v) => .ok ⟨stack, .next v⟩
  | .number (.tooLong digits) => .error (.tooManyDigits digits)
  | .openArray => opening stack ⟨.array [] :: stack, .firstItem⟩
  | .openTable => opening stack ⟨stack, .firstName⟩
  | .broken f => .error (.fault f)
  | _ => blame .value left

/-- The name of a field. -/
def beginField (stack : List Frame) (before : List (Spelling × Document)) (left : Nat) :
    Token → Except Stop State
  | .text s => .ok ⟨stack, .colon before s⟩
  | .broken f => .error (.fault f)
  | _ => blame .propertyName left

/-- What follows a complete value. -/
def afterValue (stack : List Frame) (v : Document) (left : Nat) (token : Token) :
    Except Stop State :=
  match stack, token with
  | [], _ => blame .extraData left
  | .array before :: stack, .comma => .ok ⟨.array (v :: before) :: stack, .value⟩
  | .array before :: stack, .closeArray => .ok ⟨stack, .next (.array (v :: before).reverse)⟩
  | .table before name :: stack, .comma => .ok ⟨stack, .name (Entries.put name v before)⟩
  | .table before name :: stack, .closeTable =>
    .ok ⟨stack, .next (.table (Entries.put name v before))⟩
  | _, _ => blame .comma left

/-- One token. -/
def step [Host] (state : State) (left : Nat) (token : Token) : Except Stop State :=
  match state.awaiting, state.stack, token with
  | .value, stack, token => beginValue stack left token
  | .firstItem, .array _ :: stack, .closeArray => .ok ⟨stack, .next (.array [])⟩
  | .firstItem, stack, token => beginValue stack left token
  | .firstName, stack, .closeTable => .ok ⟨stack, .next (.table [])⟩
  | .firstName, stack, token => beginField stack [] left token
  | .name before, stack, token => beginField stack before left token
  | .colon before name, stack, .colon => .ok ⟨.table before name :: stack, .value⟩
  | .colon _ _, _, _ => blame .colon left
  | .next v, stack, token => afterValue stack v left token

/-- The end of the text. -/
def finish (state : State) : Except Stop Document :=
  match state.awaiting, state.stack with
  | .next v, [] => .ok v
  | .next _, _ => .error (.fault ⟨.comma, 0⟩)
  | .value, _ => .error (.fault ⟨.value, 0⟩)
  | .firstItem, _ => .error (.fault ⟨.value, 0⟩)
  | .firstName, _ => .error (.fault ⟨.propertyName, 0⟩)
  | .name _, _ => .error (.fault ⟨.propertyName, 0⟩)
  | .colon _ _, _ => .error (.fault ⟨.colon, 0⟩)

/-- All tokens. -/
def run [Host] (state : State) : List (Nat × Token) → Except Stop Document
  | [] => finish state
  | (left, token) :: rest => (step state left token).bind fun state => run state rest

/-! ## Reading -/

/-- The value that the text writes. -/
def read [Host] (text : List Char) : Except ReadError Document :=
  if text.head? = some '\uFEFF' then .error (.malformed .byteOrderMark (placeAfter []))
  else
    match run ⟨[], .value⟩ (lex text) with
    | .ok v => .ok v
    | .error (.fault f) =>
      .error (.malformed f.problem (placeAfter (text.take (text.length - f.left))))
    | .error (.tooManyDigits digits) => .error (.tooManyDigits digits)
    | .error .tooDeep => .error .tooDeep

end ToolSites.Json
