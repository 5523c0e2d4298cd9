import ToolSites.Host
import ToolSites.Text.Word
/-!
# Variables in texts

A configuration may refer to variables of the process, as `$name` or, where the
name is followed by further word characters or holds others, between braces. A
text falls into characters that stand for themselves and references, whatever
the variables are; only then is each reference replaced. What is put in its
place is not read again, and a reference to a variable that is not set stays as
it is.

`Value.expand` says what becomes of a document. The machine may not get to its end:
the values in it are taken one after the other, and the first that lies too deep, or
refers to a variable by a name that the machine cannot encode, is a fault.
-/

namespace ToolSites

/-- The values of the variables that are set. -/
abbrev Variables := String → Option String

/-! ## Pieces of a text -/

/-- A piece of a text. -/
inductive Piece
  /-- A character that stands for itself. -/
  | literal (c : Char)
  /-- A dollar sign and a name of word characters. -/
  | plain (name : List Char)
  /-- A dollar sign and a name between braces. -/
  | braced (name : List Char)
  deriving DecidableEq, Repr

namespace Piece

/-- The piece as it stands in the text. -/
def raw : Piece → List Char
  | .literal c => [c]
  | .plain name => '$' :: name
  | .braced name => '$' :: '\x7b' :: name ++ ['\x7d']

/-- The name that the piece refers to. -/
def name? : Piece → Option String
  | .literal _ => none
  | .plain name => some (.ofList name)
  | .braced name => some (.ofList name)

/-- The piece with the value of its variable in its place. -/
def expanded (vars : Variables) (p : Piece) : List Char :=
  match p.name?.bind vars with
  | some value => value.toList
  | none => p.raw

/-- The reference that starts after a dollar sign, if there is one, and what
follows it. The name is as long as it can be. -/
def reference? (cs : List Char) : Option (Piece × List Char) :=
  match cs with
  | '\x7b' :: rest =>
    match rest.takeWhile (· != '\x7d'), rest.dropWhile (· != '\x7d') with
    | c :: name, '\x7d' :: after => some (.braced (c :: name), after)
    | _, _ => none
  | _ =>
    match cs.takeWhile Text.isWord with
    | [] => none
    | c :: name => some (.plain (c :: name), cs.dropWhile Text.isWord)

theorem length_reference? {cs after : List Char} {p : Piece}
    (h : reference? cs = some (p, after)) : after.length ≤ cs.length := by
  unfold reference? at h
  split at h
  · next rest =>
    split at h
    · next _ _ _ hd =>
      simp only [Option.some.injEq, Prod.mk.injEq] at h
      have := (List.dropWhile_sublist (l := rest) (· != '\x7d')).length_le
      rw [hd] at this
      simp only [List.length_cons] at this ⊢
      rw [← h.2]
      omega
    · simp at h
  · split at h
    · simp at h
    · simp only [Option.some.injEq, Prod.mk.injEq] at h
      rw [← h.2]
      exact (List.dropWhile_sublist _).length_le

end Piece

/-- The pieces of a text. -/
def pieces (cs : List Char) : List Piece :=
  match cs with
  | [] => []
  | c :: rest =>
    if c = '$' then
      match _h : Piece.reference? rest with
      | some (p, after) => p :: pieces after
      | none => .literal c :: pieces rest
    else .literal c :: pieces rest
termination_by cs.length
decreasing_by
  · have := Piece.length_reference? _h
    simp only [List.length_cons]
    omega
  · simp
  · simp

/-- A reference and what follows it are what stands after the dollar sign. -/
theorem Piece.raw_reference? {cs after : List Char} {p : Piece}
    (h : reference? cs = some (p, after)) : p.raw ++ after = '$' :: cs := by
  unfold reference? at h
  split at h
  · next rest =>
    split at h
    · next c name after' ht hd =>
      cases h
      have := List.takeWhile_append_dropWhile (p := (· != '\x7d')) (l := rest)
      rw [ht, hd] at this
      simp [raw, ← this]
    · cases h
  · split at h
    · cases h
    · next c name ht =>
      cases h
      simp [raw, ← ht, List.takeWhile_append_dropWhile]

/-- The pieces of a text, put together, are the text. -/
theorem flatMap_raw_pieces (cs : List Char) : (pieces cs).flatMap Piece.raw = cs := by
  fun_induction pieces cs with
  | case1 => rfl
  | case2 rest p after h ih => simp [ih, Piece.raw_reference? h]
  | case3 rest h ih => simp [ih, Piece.raw]
  | case4 c rest h ih => simp [ih, Piece.raw]

/-! ## Expansion -/

/-- The text with the values of the variables in it. -/
def expandText (vars : Variables) (s : String) : String :=
  .ofList ((pieces s.toList).flatMap (Piece.expanded vars))

/-- The names of the variables that a text refers to. -/
def referencesOf (s : String) : List String := (pieces s.toList).filterMap Piece.name?

/-- Why a value cannot be expanded. -/
inductive ExpansionFault
  /-- There is no stack left for it. -/
  | tooDeep
  /-- It refers to a variable by a name that the encoding of the machine does not have. -/
  | unencodable (name : String)
  deriving DecidableEq, Repr

namespace Value

mutual

/-- The value with all its texts expanded; the names of fields are not. -/
def expand (vars : Variables) : Value → Value
  | .text s => .text (expandText vars s)
  | .array items => .array (expandItems vars items)
  | .table fields => .table (expandFields vars fields)
  | .null => .null
  | .boolean b => .boolean b
  | .integer n => .integer n
  | .real x => .real x
  | .moment lexeme => .moment lexeme

/-- Each item expanded. -/
def expandItems (vars : Variables) : List Value → List Value
  | [] => []
  | v :: rest => expand vars v :: expandItems vars rest

/-- Each field expanded. -/
def expandFields (vars : Variables) : List (String × Value) → List (String × Value)
  | [] => []
  | (name, v) :: rest => (name, expand vars v) :: expandFields vars rest

end

/-- The fault of a text: the first name in it that cannot be encoded. -/
def textFault? [Host] (s : String) : Option ExpansionFault :=
  ((referencesOf s).find? fun name => !Host.encodes name).map .unencodable

mutual

/-- What keeps a value inside of so many arrays and tables from being expanded, if
anything does: the fault that is met first. -/
def fault? [Host] (depth : Nat) (v : Value) : Option ExpansionFault :=
  if Host.reaches depth v then
    match v with
    | .text s => textFault? s
    | .array items => itemFault? (depth + 1) items
    | .table fields => fieldFault? (depth + 1) fields
    | .null | .boolean _ | .integer _ | .real _ | .moment _ => none
  else some .tooDeep

/-- The first fault of the items. -/
def itemFault? [Host] (depth : Nat) : List Value → Option ExpansionFault
  | [] => none
  | v :: rest => (fault? depth v).or (itemFault? depth rest)

/-- The first fault of the fields. -/
def fieldFault? [Host] (depth : Nat) : List (String × Value) → Option ExpansionFault
  | [] => none
  | (_, v) :: rest => (fault? depth v).or (fieldFault? depth rest)

end

mutual

/-- The names of the variables that the value refers to. -/
def references : Value → List String
  | .text s => referencesOf s
  | .array items => itemReferences items
  | .table fields => fieldReferences fields
  | .null | .boolean _ | .integer _ | .real _ | .moment _ => []

/-- The names that the items refer to. -/
def itemReferences : List Value → List String
  | [] => []
  | v :: rest => references v ++ itemReferences rest

/-- The names that the fields refer to. -/
def fieldReferences : List (String × Value) → List String
  | [] => []
  | (_, v) :: rest => references v ++ fieldReferences rest

end

end Value

end ToolSites
