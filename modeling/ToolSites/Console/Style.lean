import ToolSites.Console.Color
/-!
# Styles

A style is written in words: attributes, each of which may be denied, a color, a
color for the background and a link. What is no style may still be the name of
one, and names that write the same style are the same name.
-/

namespace ToolSites.Console

open Text (lower trimmed words)

/-! ## Attributes -/

/-- What a style may do to letters. -/
inductive Attribute
  | bold
  | dim
  | italic
  | underline
  | blink
  | blink2
  | reverse
  | conceal
  | strike
  | underline2
  | frame
  | encircle
  | overline
  deriving DecidableEq, Repr

namespace Attribute

/-- All attributes, in the order in which they are written. -/
def all : List Attribute :=
  [.bold, .dim, .italic, .underline, .blink, .blink2, .reverse, .conceal, .strike, .underline2,
    .frame, .encircle, .overline]

/-- The attribute in full. -/
def name : Attribute → String
  | .bold => "bold"
  | .dim => "dim"
  | .italic => "italic"
  | .underline => "underline"
  | .blink => "blink"
  | .blink2 => "blink2"
  | .reverse => "reverse"
  | .conceal => "conceal"
  | .strike => "strike"
  | .underline2 => "underline2"
  | .frame => "frame"
  | .encircle => "encircle"
  | .overline => "overline"

/-- The short names of attributes. -/
def shortNames : List (String × Attribute) :=
  [("b", .bold), ("d", .dim), ("i", .italic), ("u", .underline), ("r", .reverse),
    ("c", .conceal), ("s", .strike), ("uu", .underline2), ("o", .overline)]

/-- The attribute with that name. -/
def ofName? (name : String) : Option Attribute :=
  (shortNames.lookup name).orElse fun _ => all.find? fun a => a.name = name

end Attribute

/-! ## Styles -/

/-- How letters look. -/
structure Style where
  /-- The attributes that are asked for or denied. Of an attribute that stands here
  twice the first counts. -/
  attributes : List (Attribute × Bool) := []
  color : Option (List Char) := none
  background : Option (List Char) := none
  link : Option (List Char) := none
  deriving DecidableEq, Repr

namespace Style

/-- The style that `style` becomes with the words behind it. Nothing comes out if
they do not write a style. -/
def withWords? (style : Style) : List (List Char) → Except MarkupFault (Option Style)
  | [] => .ok (some style)
  | word :: rest =>
    let name := String.ofList (lower word)
    if name = "on" then
      match rest with
      | [] => .ok none
      | color :: rest => do
        if ← Color.isColor (lower color) then
          withWords? { style with background := some (lower color) } rest
        else return none
    else if name = "not" then
      match rest with
      | [] => .ok none
      | denied :: rest =>
        match Attribute.ofName? (.ofList denied) with
        | some a => withWords? { style with attributes := (a, false) :: style.attributes } rest
        | none => .ok none
    else if name = "link" then
      match rest with
      | [] => .ok none
      | link :: rest => withWords? { style with link := some link } rest
    else
      match Attribute.ofName? name with
      | some a => withWords? { style with attributes := (a, true) :: style.attributes } rest
      | none => do
        if ← Color.isColor (lower word) then
          withWords? { style with color := some (lower word) } rest
        else return none

/-- The style that a text writes. -/
def parse? (cs : List Char) : Except MarkupFault (Option Style) :=
  if String.ofList (trimmed cs) = "none" then .ok (some {}) else withWords? {} (words cs)

/-- The words of a style, in a fixed order. -/
def toWords (style : Style) : List (List Char) :=
  (Attribute.all.flatMap fun a =>
    match style.attributes.lookup a with
    | none => []
    | some true => [a.name.toList]
    | some false => ["not".toList, a.name.toList]) ++
  style.color.toList ++
  (style.background.toList.flatMap fun color => ["on".toList, color]) ++
  style.link.toList.flatMap fun link => ["link".toList, link]

/-- The style as a text. -/
def text (style : Style) : List Char :=
  match style.toWords with
  | [] => "none".toList
  | words => [' '].intercalate words

/-- The name of a style in the one form that all its spellings share. -/
def normalName (cs : List Char) : Except MarkupFault (List Char) :=
  return match ← parse? cs with
    | some style => style.text
    | none => lower (trimmed cs)

end Style

end ToolSites.Console
