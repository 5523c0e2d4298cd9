import ToolSites.Text.Digits
/-!
# Strings and keys of a TOML document

A string is basic, with escapes, or literal, without; either form may run over
several lines between tripled quotes. A key is a dotted sequence of bare words
and one-line strings. Every reader takes the remaining text and gives what is
left after it, or nothing if the text does not fit.
-/

namespace ToolSites.Toml

open Text (isDigit hexValue? valueIn)

/-! ## Characters -/

/-- The blanks inside a line. -/
def isBlank (c : Char) : Bool := c = ' ' || c = '\t'

/-- Blanks and line ends. -/
def isSpace (c : Char) : Bool := isBlank c || c = '\n'

/-- The control characters that may stand in no comment and no string; a line end
may stand in a string over several lines. -/
def isIllegal (multiline : Bool) (c : Char) : Bool :=
  (c.toNat < 0x20 || c.toNat = 0x7F) && c != '\t' && !(multiline && c = '\n')

/-- The characters of a bare word. -/
def isBare (c : Char) : Bool :=
  isDigit c || ('a' ≤ c && c ≤ 'z') || ('A' ≤ c && c ≤ 'Z') || c = '-' || c = '_'

/-- The text without the blanks at its start. -/
def skipBlanks (cs : List Char) : List Char := cs.dropWhile isBlank

/-- What follows `word` at the start of the text. -/
def after? (word : String) (cs : List Char) : Option (List Char) :=
  if word.toList.isPrefixOf cs then some (cs.drop word.length) else none

/-! ## Escapes -/

/-- The character whose code point is written with `count` hexadecimal digits. -/
def codePoint? (count : Nat) (cs : List Char) : Option (Char × List Char) :=
  let digits := cs.take count
  let n := valueIn 16 digits
  if digits.length = count ∧ digits.all (fun c => (hexValue? c).isSome) then
    if n.isValidChar then some (.ofNat n, cs.drop count) else none
  else none

/-- The character that stands after a backslash in place of another. -/
def shortEscape? : Char → Option Char
  | 'b' => some '\x08'
  | 't' => some '\t'
  | 'n' => some '\n'
  | 'f' => some '\x0c'
  | 'r' => some '\r'
  | '"' => some '"'
  | '\\' => some '\\'
  | _ => none

/-- Reads what follows a backslash: an escape, or over several lines the end of
the line, which is dropped together with all blanks and line ends after it. -/
def escape? (multiline : Bool) (cs : List Char) : Option (Option Char × List Char) :=
  match cs with
  | [] => none
  | c :: rest =>
    if multiline && isSpace c then
      match if c = '\n' then cs else skipBlanks rest with
      | [] => some (none, [])
      | '\n' :: tail => some (none, tail.dropWhile isSpace)
      | _ => none
    else if c = 'u' then (codePoint? 4 rest).map fun (x, tail) => (some x, tail)
    else if c = 'U' then (codePoint? 8 rest).map fun (x, tail) => (some x, tail)
    else (shortEscape? c).map fun x => (some x, rest)

theorem suffix_codePoint? {count : Nat} {cs rest : List Char} {x : Char}
    (h : codePoint? count cs = some (x, rest)) : rest <:+ cs := by
  unfold codePoint? at h
  dsimp only at h
  split at h
  · split at h
    · cases h
      exact List.drop_suffix _ _
    · cases h
  · cases h

theorem suffix_escape? {multiline : Bool} {cs rest : List Char} {x : Option Char}
    (h : escape? multiline cs = some (x, rest)) : rest <:+ cs := by
  unfold escape? at h
  split at h
  · cases h
  next c tail =>
  split at h
  · split at h
    · cases h
      exact List.nil_suffix
    · next after hafter =>
      cases h
      have hline : '\n' :: after <:+ c :: tail := by
        rw [← hafter]
        split
        · exact List.suffix_rfl
        · exact (List.dropWhile_suffix _).trans (List.suffix_cons _ _)
      exact ((List.dropWhile_suffix _).trans (List.suffix_cons _ _)).trans hline
    · cases h
  · refine List.IsSuffix.trans ?_ (List.suffix_cons _ _)
    split at h
    · obtain ⟨r, hr, h⟩ := Option.map_eq_some_iff.1 h
      cases h
      exact suffix_codePoint? hr
    · split at h
      · obtain ⟨r, hr, h⟩ := Option.map_eq_some_iff.1 h
        cases h
        exact suffix_codePoint? hr
      · obtain ⟨r, -, h⟩ := Option.map_eq_some_iff.1 h
        cases h
        exact List.suffix_rfl

/-! ## Strings -/

/-- Puts characters in front of what was read. -/
def prepend (cs : List Char) (r : Option (List Char × List Char)) :
    Option (List Char × List Char) := r.map fun (s, rest) => (cs ++ s, rest)

/-- The rest of a basic string after its opening quotes. -/
def basicRest? (multiline : Bool) (cs : List Char) : Option (List Char × List Char) :=
  match cs with
  | [] => none
  | '"' :: rest =>
    if !multiline then some ([], rest)
    else if ['"', '"'].isPrefixOf rest then some ([], rest.drop 2)
    else prepend ['"'] (basicRest? multiline rest)
  | '\\' :: rest =>
    match _h : escape? multiline rest with
    | none => none
    | some (x, after) => prepend x.toList (basicRest? multiline after)
  | c :: rest => if isIllegal multiline c then none else prepend [c] (basicRest? multiline rest)
termination_by cs.length
decreasing_by
  · simp
  · exact Nat.lt_succ_of_le (suffix_escape? _h).length_le
  · simp

/-- The rest of a literal string after its opening quotes. -/
def literalRest? (multiline : Bool) : List Char → Option (List Char × List Char)
  | [] => none
  | '\'' :: rest =>
    if !multiline then some ([], rest)
    else if ['\'', '\''].isPrefixOf rest then some ([], rest.drop 2)
    else prepend ['\''] (literalRest? multiline rest)
  | c :: rest => if isIllegal multiline c then none else prepend [c] (literalRest? multiline rest)

/-- Up to two more quotes after the closing ones belong to the string. -/
def extraQuotes (quote : Char) : List Char × List Char → List Char × List Char
  | (s, rest) =>
    let extra := (rest.take 2).takeWhile (· == quote)
    (s ++ extra, rest.drop extra.length)

/-- The text without a line end at its start. -/
def skipLineEnd : List Char → List Char
  | '\n' :: rest => rest
  | cs => cs

/-- Reads a string within one line. -/
def lineString? (cs : List Char) : Option (List Char × List Char) :=
  match cs with
  | '"' :: rest => basicRest? false rest
  | '\'' :: rest => literalRest? false rest
  | _ => none

/-- Reads a string of any form. -/
def string? (cs : List Char) : Option (List Char × List Char) :=
  match after? "\"\"\"" cs, after? "'''" cs with
  | some rest, _ => (basicRest? true (skipLineEnd rest)).map (extraQuotes '"')
  | none, some rest => (literalRest? true (skipLineEnd rest)).map (extraQuotes '\'')
  | none, none => lineString? cs

/-! ## Keys -/

/-- Reads one part of a key. -/
def keyPart? (cs : List Char) : Option (String × List Char) :=
  match cs with
  | [] => none
  | c :: _ =>
    if isBare c then some (.ofList (cs.takeWhile isBare), cs.dropWhile isBare)
    else (lineString? cs).map fun (s, rest) => (.ofList s, rest)

/-- Reads the further parts of a key, each after a dot, with at most `fuel` of
them. -/
def keyRest? : (fuel : Nat) → List Char → Option (List String × List Char)
  | fuel + 1, '.' :: rest => do
    let (part, rest) ← keyPart? (skipBlanks rest)
    let (parts, rest) ← keyRest? fuel (skipBlanks rest)
    return (part :: parts, rest)
  | _, cs => some ([], cs)

/-- Reads a key and the blanks after it. -/
def key? (cs : List Char) : Option (List String × List Char) := do
  let (part, rest) ← keyPart? cs
  let (parts, rest) ← keyRest? rest.length (skipBlanks rest)
  return (part :: parts, rest)

end ToolSites.Toml
