import ToolSites.Console.Emoji.Names
import ToolSites.Text.Blank
import ToolSites.Text.Lower
/-!
# Pictographs by name

A name between two colons stands for a pictograph. Behind the name it may be said
whether it is to be shown as a picture or as text.
-/

namespace ToolSites.Console.Emoji

open Text (isBlank lower words)

/-- Pairs made of names and pictographs in turn. -/
def pairs : List (List Char) → List (String × List Char)
  | name :: pictograph :: rest => (.ofList name, pictograph) :: pairs rest
  | _ => []

/-- The pictographs by name. -/
def table : List (String × List Char) := listing.flatMap fun line => pairs (words line.toList)

/-- The name in a code without its ending, and the selector that the ending asks
for. -/
def withoutEnding (code : List Char) : List Char × List Char :=
  if "-emoji".toList.isSuffixOf code then (code.take (code.length - 6), ['\uFE0F'])
  else if "-text".toList.isSuffixOf code then (code.take (code.length - 5), ['\uFE0E'])
  else (code, [])

/-- The pictograph that a code stands for. -/
def ofCode? (code : List Char) : Option (List Char) :=
  let (name, selector) := withoutEnding code
  (table.lookup (.ofList (lower name))).map (· ++ selector)

/-- The text with the pictographs in place of their codes, where `code` was read
behind a colon. A code ends at the next colon, which starts no other, and holds no
blanks. -/
def replaceAfter (code : Option (List Char)) : List Char → List Char
  | [] =>
    match code with
    | none => []
    | some code => ':' :: code
  | c :: rest =>
    match code with
    | none => if c = ':' then replaceAfter (some []) rest else c :: replaceAfter none rest
    | some code =>
      if c = ':' then
        (ofCode? code).getD (':' :: code ++ [':']) ++ replaceAfter none rest
      else if isBlank c then ':' :: code ++ c :: replaceAfter none rest
      else replaceAfter (some (code ++ [c])) rest

/-- The text with the pictographs in place of their codes. -/
def replace (cs : List Char) : List Char := replaceAfter none cs

end ToolSites.Console.Emoji
