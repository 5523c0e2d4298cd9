/-!
# Paths

A path is a root and the parts below it. Reading a text drops empty parts and
single dots, so that repeated and trailing slashes do not matter; two dots stay,
because what they mean depends on the files. Exactly two slashes at the start
are a root of their own; three or more are one.
-/

namespace ToolSites

/-- Where a path starts. -/
inductive Path.Root
  | relative
  | slash
  | doubleSlash
  deriving DecidableEq, Repr

/-- A root and the parts below it. -/
structure Path where
  root : Path.Root
  parts : List String
  deriving DecidableEq, Repr

namespace Path

/-! ## Reading and writing -/

/-- The pieces of a text between its slashes. -/
def pieces : List Char → List (List Char)
  | [] => [[]]
  | c :: rest =>
    if c = '/' then [] :: pieces rest
    else
      match pieces rest with
      | [] => [[c]]
      | piece :: others => (c :: piece) :: others

/-- The root that the slashes at the start of a text write. -/
def rootOf : List Char → Root
  | '/' :: '/' :: '/' :: _ => .slash
  | '/' :: '/' :: _ => .doubleSlash
  | '/' :: _ => .slash
  | _ => .relative

/-- The path that the text writes. -/
def parse (s : String) : Path :=
  { root := rootOf s.toList
    parts := ((pieces s.toList).map String.ofList).filter fun part => part != "" && part != "." }

/-- The slashes of a root. -/
def Root.text : Root → String
  | .relative => ""
  | .slash => "/"
  | .doubleSlash => "//"

/-- The text of the path; a relative path without parts is a single dot. -/
def text (p : Path) : String :=
  if p.root = .relative ∧ p.parts = [] then "." else p.root.text ++ "/".intercalate p.parts

/-! ## Operations -/

/-- Whether the path does not depend on a current directory. -/
def isAbsolute (p : Path) : Bool := p.root != .relative

/-- The path `q` as seen from `p`: an absolute path is the same from everywhere. -/
def join (p q : Path) : Path :=
  if q.isAbsolute then q else { p with parts := p.parts ++ q.parts }

/-- The last part; nothing if there are no parts. -/
def name (p : Path) : String := p.parts.getLast?.getD ""

/-- The path without its last part. -/
def parent (p : Path) : Path := { p with parts := p.parts.dropLast }

theorem length_parent {p : Path} (h : p.parts ≠ []) :
    p.parent.parts.length < p.parts.length := by
  have := List.length_pos_iff.2 h
  simp only [parent, List.length_dropLast]
  omega

/-- The parts are those of the path above and the name. -/
theorem parts_eq {p : Path} (h : p.parts ≠ []) : p.parts = p.parent.parts ++ [p.name] := by
  rw [name, List.getLast?_eq_some_getLast h]
  exact (List.dropLast_concat_getLast h).symm

end Path

end ToolSites
