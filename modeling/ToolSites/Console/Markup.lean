import ToolSites.Console.Emoji
import ToolSites.Console.Handler
import ToolSites.Console.Lines
import ToolSites.Console.Style
/-!
# Markup

What stands in a table may hold tags in square brackets that set the style of the
text between them. A tag starts with a lower-case letter, a hash, a slash or an
at sign, and holds no other opening bracket. A backslash before a tag makes it
plain text. Tags do not show; a closing tag must close one that is open.
-/

namespace ToolSites.Console

open Text (isBlank trimmed)

namespace Markup

/-! ## Tags -/

/-- The first tag of a text. -/
structure Tag where
  /-- What stands in front of it and of its backslashes. -/
  before : List Char
  /-- How many backslashes stand right in front of it. -/
  slashes : Nat
  /-- What stands between its brackets. -/
  content : List Char
  after : List Char
  deriving DecidableEq, Repr

/-- Whether the character may start a tag. -/
def startsTag (c : Char) : Bool := c.isLower || c = '#' || c = '/' || c = '@'

/-- The content of the tag whose bracket was just opened, and what follows it. -/
def content? (cs : List Char) : Option (List Char × List Char) :=
  if (cs.head?.map startsTag).getD false then
    match cs.dropWhile fun c => c != '[' && c != ']' with
    | ']' :: after => some (cs.takeWhile (fun c => c != '[' && c != ']'), after)
    | _ => none
  else none

/-- The tag with one more character in front of it. -/
def Tag.behind (c : Char) (tag : Tag) : Tag :=
  if c = '\\' && tag.before.isEmpty then { tag with slashes := tag.slashes + 1 }
  else { tag with before := c :: tag.before }

/-- The first tag of the text. -/
def Tag.first? : List Char → Option Tag
  | [] => none
  | c :: rest =>
    match if c = '[' then content? rest else none with
    | some (content, after) => some ⟨[], 0, content, after⟩
    | none => (Tag.first? rest).map (Tag.behind c)

/-! ## Pieces -/

/-- A piece of a marked-up text. -/
inductive Piece
  | text (cs : List Char)
  /-- The content of a tag, and where the tag starts. -/
  | tag (content : List Char) (position : Nat)
  deriving Repr

/-- The text without the backslash before each bracket. -/
def unescaped : List Char → List Char
  | [] => []
  | c :: rest => if c = '\\' && rest.head? = some '[' then unescaped rest else c :: unescaped rest

/-- The pieces of a text that starts at `position`. Of two backslashes before a tag
one is left out. At most `fuel` tags are read. -/
def piecesFrom : (fuel position : Nat) → List Char → List Piece
  | 0, _, cs => [.text (unescaped cs)]
  | fuel + 1, position, cs =>
    match Tag.first? cs with
    | none => [.text (unescaped cs)]
    | some tag =>
      let start := position + tag.before.length
      let half := tag.slashes / 2
      let piece :=
        if tag.slashes % 2 = 1 then .text ('[' :: tag.content ++ [']'])
        else .tag tag.content (start + 2 * half)
      .text (unescaped tag.before) :: .text (List.replicate half '\\') :: piece ::
        piecesFrom fuel (start + tag.slashes + tag.content.length + 2) tag.after

/-- The pieces of a text. -/
def pieces (cs : List Char) : List Piece := piecesFrom cs.length 0 cs

/-! ## Styled text -/

/-- A style for the characters from `start` to before `stop`. -/
structure Span where
  start : Nat
  stop : Nat
  style : List Char
  deriving DecidableEq, Repr

/-- A tag that is open. -/
structure OpenTag where
  /-- The style before the equals sign, by its normal name. -/
  name : List Char
  /-- What stands behind the equals sign. -/
  value : Option (List Char)
  /-- How long the text is before it. -/
  start : Nat
  deriving DecidableEq, Repr

/-- The style that an open tag sets. -/
def OpenTag.style (tag : OpenTag) : List Char :=
  match tag.value with
  | none => tag.name
  | some value => tag.name ++ ' ' :: value

/-- Meets the fault in the handler that a tag names. -/
def OpenTag.checked [Host] (tag : OpenTag) : Except MarkupFault Unit :=
  if tag.name.head? = some '@' then Handler.check (tag.value.getD []) else .ok ()

/-- A text that is read up to some place. -/
structure Styled where
  text : List Char := []
  /-- The tags that are open, innermost first. -/
  opened : List OpenTag := []
  /-- What is styled, last closed first. -/
  spans : List Span := []
  deriving DecidableEq, Repr

namespace Styled

/-- Ends an open tag. -/
def close (s : Styled) (tag : OpenTag) : Styled :=
  { s with
    opened := s.opened.erase tag
    spans := ⟨tag.start, s.text.length, tag.style⟩ :: s.spans }

/-- The text with a tag behind it. -/
def tag [Host] (s : Styled) (content : List Char) (position : Nat) : Except MarkupFault Styled := do
  let (name, value) := match Text.parts '=' content with
    | name :: rest =>
      (name, if rest = [] then none else some (['='].intercalate rest))
    | [] => ([], none)
  match name with
  | '/' :: name =>
    if trimmed name = [] then
      match s.opened with
      | [] => .error (.nothingOpen position)
      | tag :: _ => tag.checked.map fun _ => s.close tag
    else
      let name ← Style.normalName name
      match s.opened.find? fun tag => tag.name = name with
      | none => .error (.unmatched (.ofList content) position)
      | some tag => tag.checked.map fun _ => s.close tag
  | name =>
    return { s with opened := ⟨← Style.normalName name, value, s.text.length⟩ :: s.opened }

/-- The text with a piece behind it, where codes of pictographs are replaced if
`emoji` is set. -/
def add [Host] (emoji : Bool) (s : Styled) : Piece → Except MarkupFault Styled
  | .text cs =>
    let cs := if emoji then Emoji.replace cs else cs
    .ok { s with text := s.text ++ withoutMoves cs }
  | .tag content position => s.tag content position

/-- The text that a marked-up text stands for, with all tags closed. -/
def parse [Host] (emoji : Bool) (cs : List Char) : Except MarkupFault Styled := do
  let s ← (pieces cs).foldlM (add emoji) {}
  return s.opened.foldl close s

/-- For each character whether it is shown on a line; blanks at the end of a line may
be `dropped`. -/
def stays (dropped : Bool) : List Char → List Bool
  | [] => []
  | c :: rest =>
    (c != '\n' && !(dropped && isBlank c && (rest.takeWhile (· != '\n')).all isBlank)) ::
      stays dropped rest

/-- Whether the style of a span is looked at when the text is shown. That of a span
that holds nothing is, unless the text is taken apart at tabs or line ends. -/
def isShown (s : Styled) (dropped : Bool) (span : Span) : Bool :=
  let shown := stays dropped s.text
  ((shown.take span.stop).drop span.start).any id ||
    decide (span.start = span.stop) && (!s.text.any fun c => c = '\n' || c = '\t') &&
      (shown.all id || (shown.drop span.start).any id)

/-- Meets the faults in the styles of a text, from left to right. -/
def checked (s : Styled) (dropped : Bool) : Except MarkupFault Unit :=
  let spans := (s.spans.filter (s.isShown dropped)).mergeSort fun a b => decide (a.start ≤ b.start)
  spans.forM fun span => (Style.parse? span.style).map fun _ => ()

end Styled

end Markup

end ToolSites.Console
