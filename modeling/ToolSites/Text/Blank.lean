import ToolSites.Text.Ranges
/-!
# Blanks and words

Blanks are the separators that Unicode knows and the controls that separate lines
or fields. The words of a text stand between them.
-/

namespace ToolSites.Text

/-- The ranges of blanks, in ascending order. -/
def blankRanges : List (Nat × Nat) := [
  (0x9, 0xD), (0x1C, 0x20), (0x85, 0x85), (0xA0, 0xA0), (0x1680, 0x1680), (0x2000, 0x200A),
  (0x2028, 0x2029), (0x202F, 0x202F), (0x205F, 0x205F), (0x3000, 0x3000)]

/-- Whether a character is blank. -/
def isBlank (c : Char) : Bool := inRanges c.toNat blankRanges

/-- The text without blanks at its ends. -/
def trimmed (cs : List Char) : List Char :=
  ((cs.dropWhile isBlank).reverse.dropWhile isBlank).reverse

/-- The words of a text. -/
def words : List Char → List (List Char)
  | [] => []
  | c :: rest =>
    if isBlank c then words rest
    else if (rest.head?.map isBlank).getD true then [c] :: words rest
    else
      match words rest with
      | word :: others => (c :: word) :: others
      | [] => [[c]]

/-- The parts of a text between the places where `mark` stands. -/
def parts (mark : Char) : List Char → List (List Char)
  | [] => [[]]
  | c :: rest =>
    if c = mark then [] :: parts mark rest
    else
      match parts mark rest with
      | part :: others => (c :: part) :: others
      | [] => [[c]]

end ToolSites.Text
