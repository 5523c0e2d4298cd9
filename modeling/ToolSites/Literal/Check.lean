import ToolSites.Literal.Grammar
/-!
# Texts that write values

A text writes a value if it is an expression that is made of constants, and no set or
dictionary in it is asked to hold a set or a dictionary. Of numbers, a real one may
have an imaginary one behind it. The parts of an expression are taken in their order,
and the first that is no value is the fault.
-/

namespace ToolSites.Literal

open Grammar (expressions ending)

/-! ## Texts -/

/-- The expression that a text writes. -/
def Expr.read [Host] (cs : List Char) : Except Fault Expr := do
  let tokens ← Token.read cs
  let whole (second : Bool) : Reader Expr := do
    let a ← expressions second
    ending
    return a
  match ← whole false tokens [] with
  | (some (a, _), _) => return a
  | (none, _) => do
    discard (whole true tokens [])
    throw .invalid

/-! ## Values -/

mutual

/-- The first thing in a value that no set can hold. -/
def Expr.mutable? : Expr → Option String
  | .set _ => some "set"
  | .dict _ => some "dict"
  | .tuple items => mutableItem? items
  | _ => none

/-- The first thing in some values that no set can hold. -/
def mutableItem? : List Expr → Option String
  | [] => none
  | a :: rest => a.mutable?.or (mutableItem? rest)

end

/-- Why a set cannot hold a value. -/
def Expr.hashFault? (a : Expr) : Option Fault := a.mutable?.map .unhashable

/-- The kind of a number without a sign. -/
def Expr.numberKind? : Expr → Option NumberKind
  | .number kind => some kind
  | _ => none

/-- The kind of a number with one sign or none. -/
def Expr.signedKind? : Expr → Option NumberKind
  | .signed a => a.numberKind?
  | a => a.numberKind?

/-- Why numbers of two kinds are not put together. -/
def sumFault? : Option NumberKind → Option NumberKind → Option Fault
  | some .real, some .imaginary => none
  | some .huge, some .imaginary => some .tooLarge
  | _, _ => some .notConstant

mutual

/-- Why an expression writes no value. -/
def Expr.fault? : Expr → Option Fault
  | .constant _ | .string | .number _ => none
  | .signed a => if a.numberKind?.isSome then none else some .notConstant
  | .sum a b => sumFault? a.signedKind? b.numberKind?
  | .tuple items => itemFault? items
  | .set items => memberFault? items
  | .dict entries => entryFault? entries
  | .name _ | .other _ => some .notConstant

/-- Why items write no values. -/
def itemFault? : List Expr → Option Fault
  | [] => none
  | a :: rest => a.fault?.or (itemFault? rest)

/-- Why the members of a set write no values, or none that it can hold. -/
def memberFault? : List Expr → Option Fault
  | [] => none
  | a :: rest => (a.fault?.or a.hashFault?).or (memberFault? rest)

/-- Why the keys and values of a dictionary write no values, or it cannot hold a key. -/
def entryFault? : List Expr → Option Fault
  | key :: value :: rest =>
    ((key.fault?.or value.fault?).or key.hashFault?).or (entryFault? rest)
  | [a] => a.fault?
  | [] => none

end

/-- Meets the fault in a text that writes no value, where the text has no blanks around it. -/
def check [Host] (cs : List Char) : Except Fault Unit := do
  let a ← Expr.read (cs.dropWhile fun c => c = ' ' || c = '\t')
  match a.fault? with
  | some fault => throw fault
  | none => return ()

end ToolSites.Literal
