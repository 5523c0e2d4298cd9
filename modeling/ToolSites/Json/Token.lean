import ToolSites.Json.Document
import ToolSites.Text.Digits
/-!
# The tokens of a JSON text

`lex` cuts a text into its tokens, each with the number of characters that are
left where it starts. A string or number that is broken, and any character that
starts no token, is a token too: whether it matters, and what is then said about
it, depends on what was expected there.
-/

namespace ToolSites.Json

open Text (isDigit hexValue? digitsValue signed signPart maxDigits suffix_signPart)

/-! ## Problems -/

/-- What can be wrong with a text. -/
inductive Problem
  | value
  | propertyName
  | colon
  | comma
  | unterminatedString
  | controlCharacter
  | escape
  | unicodeEscape
  | extraData
  | byteOrderMark
  deriving DecidableEq, Repr

/-- The problem in words. -/
def Problem.message : Problem → String
  | .value => "Expecting value"
  | .propertyName => "Expecting property name enclosed in double quotes"
  | .colon => "Expecting ':' delimiter"
  | .comma => "Expecting ',' delimiter"
  | .unterminatedString => "Unterminated string starting at"
  | .controlCharacter => "Invalid control character at"
  | .escape => "Invalid \\escape"
  | .unicodeEscape => "Invalid \\uXXXX escape"
  | .extraData => "Extra data"
  | .byteOrderMark => "Unexpected UTF-8 BOM (decode using utf-8-sig)"

/-- A problem, and how many characters are left where it lies. -/
structure Fault where
  problem : Problem
  left : Nat
  deriving DecidableEq, Repr

/-! ## Strings -/

/-- The value of four hexadecimal digits. -/
def unit? (a b c d : Char) : Option Nat := do
  return (← hexValue? a) * 0x1000 + (← hexValue? b) * 0x100 + (← hexValue? c) * 0x10 +
    (← hexValue? d)

/-- Whether a unit announces the second half of a pair. -/
def isHigh (unit : Nat) : Bool := 0xD800 ≤ unit && unit ≤ 0xDBFF

/-- Whether a unit is the second half of a pair. -/
def isLow (unit : Nat) : Bool := 0xDC00 ≤ unit && unit ≤ 0xDFFF

/-- The character of two halves. -/
def pairChar (high low : Nat) : Char := .ofNat (0x10000 + (high - 0xD800) * 0x400 + (low - 0xDC00))

/-- The symbol of one unit. Half of a pair is a symbol of its own. -/
def unitSymbol (unit : Nat) : Symbol :=
  if isHigh unit || isLow unit then .half unit else .char (.ofNat unit)

/-- The character that stands after a backslash in place of another. -/
def shortEscape? : Char → Option Char
  | '"' => some '"'
  | '\\' => some '\\'
  | '/' => some '/'
  | 'b' => some '\x08'
  | 'f' => some '\x0c'
  | 'n' => some '\n'
  | 'r' => some '\r'
  | 't' => some '\t'
  | _ => none

/-- A part of a string: a character, or a unit that was written as an escape. -/
inductive Piece
  | char (c : Char)
  | unit (n : Nat)
  deriving DecidableEq, Repr

/-- The symbols of the parts: two halves in a row make one character. -/
def join : List Piece → Spelling
  | [] => []
  | .char c :: rest => .char c :: join rest
  | .unit high :: .unit low :: rest =>
    if isHigh high && isLow low then .char (pairChar high low) :: join rest
    else unitSymbol high :: join (.unit low :: rest)
  | .unit n :: rest => unitSymbol n :: join rest

/-- Puts a part in front of what was read. -/
def push (p : Piece) :
    Except Fault (List Piece × List Char) → Except Fault (List Piece × List Char)
  | .ok (ps, rest) => .ok (p :: ps, rest)
  | .error f => .error f

/-- Reads the parts of a string up to its closing quote, and gives the
characters after it. Four digits must follow `\u`, and something after them. -/
def scan : List Char → Except Fault (List Piece × List Char)
  | [] => .error ⟨.unterminatedString, 0⟩
  | c :: rest =>
    if c = '"' then .ok ([], rest)
    else if c = '\\' then
      match rest with
      | [] => .error ⟨.unterminatedString, 0⟩
      | e :: tail =>
        if e = 'u' then
          match tail with
          | h₁ :: h₂ :: h₃ :: h₄ :: after =>
            match if after.isEmpty then none else unit? h₁ h₂ h₃ h₄ with
            | some n => push (.unit n) (scan after)
            | none => .error ⟨.unicodeEscape, rest.length⟩
          | _ => .error ⟨.unicodeEscape, rest.length⟩
        else
          match shortEscape? e with
          | some x => push (.char x) (scan tail)
          | none => .error ⟨.escape, rest.length + 1⟩
    else if c.toNat < 0x20 then .error ⟨.controlCharacter, rest.length + 1⟩
    else push (.char c) (scan rest)

/-! ## Numbers -/

/-- The digits of the integer part: one zero, or digits that start with another. -/
def integerPart? : List Char → Option (List Char × List Char)
  | '0' :: rest => some (['0'], rest)
  | cs@(c :: _) => if isDigit c then some (cs.takeWhile isDigit, cs.dropWhile isDigit) else none
  | [] => none

/-- The digits after a point, if there are any, and the rest. -/
def fractionPart (cs : List Char) : Option (List Char) × List Char :=
  match cs with
  | '.' :: d :: rest => if isDigit d then
      (some ((d :: rest).takeWhile isDigit), (d :: rest).dropWhile isDigit) else (none, cs)
  | _ => (none, cs)

/-- The power of ten after an `e`, if there are digits, and the rest. -/
def exponentPart (cs : List Char) : Option Int × List Char :=
  match cs with
  | e :: rest =>
    if e = 'e' ∨ e = 'E' then
      let digits := (signPart rest).2.takeWhile isDigit
      if digits.isEmpty then (none, cs)
      else (some (signed (signPart rest).1 (digitsValue digits)),
        (signPart rest).2.dropWhile isDigit)
    else (none, cs)
  | [] => (none, cs)

/-- What a number text denotes. -/
inductive Number
  | value (v : Document)
  | tooLong (digits : Nat)

/-- An integer, unless it has too many digits. -/
def integerNumber (negative : Bool) (digits : List Char) : Number :=
  if maxDigits < digits.length then .tooLong digits.length
  else .value (.integer (signed negative (digitsValue digits)))

/-- Reads the number without its sign: an integer, or with a fraction or a power
of ten a floating-point number. -/
def scanNumber? (negative : Bool) (cs : List Char) : Option (Number × List Char) :=
  (integerPart? cs).map fun (digits, rest) =>
    let (fraction, rest) := fractionPart rest
    let (exponent, rest) := exponentPart rest
    match fraction, exponent with
    | none, none => (integerNumber negative digits, rest)
    | _, _ =>
      let fraction := fraction.getD []
      let x := Binary64.ofDecimal negative (digitsValue (digits ++ fraction))
        (exponent.getD 0 - fraction.length)
      (.value (.real x), rest)

/-! ## Tokens -/

/-- A token of a text. -/
inductive Token
  | openTable
  | closeTable
  | openArray
  | closeArray
  | colon
  | comma
  | text (s : Spelling)
  | number (n : Number)
  | literal (v : Document)
  /-- A string that is broken where so many characters are left. -/
  | broken (fault : Fault)
  /-- A character that starts no token. -/
  | junk

/-- The characters that separate tokens. -/
def isBlank (c : Char) : Bool := c = ' ' || c = '\t' || c = '\n' || c = '\r'

/-- The words that stand for values. -/
def literals : List (String × Document) := [
  ("null", .null), ("true", .boolean true), ("false", .boolean false),
  ("NaN", .real .nan), ("Infinity", .real (.infinite false)), ("-Infinity", .real (.infinite true))]

/-- The word at the start of the text, if it stands for a value. -/
def literal? (cs : List Char) : Option (Document × List Char) :=
  literals.findSome? fun (word, v) =>
    if word.toList.isPrefixOf cs then some (v, cs.drop word.length) else none

/-- The string whose opening quote was read. -/
def stringToken (rest : List Char) : Token × List Char :=
  match scan rest with
  | .ok (parts, after) => (.text (join parts), after)
  | .error f =>
    let left := if f.problem = .unterminatedString then rest.length + 1 else f.left
    (.broken ⟨f.problem, left⟩, [])

/-- A word or a number; nothing is read after a character that starts neither. -/
def wordToken (cs : List Char) : Token × List Char :=
  match literal? cs with
  | some (v, rest) => (.literal v, rest)
  | none =>
    let number := match cs with
      | '-' :: rest => scanNumber? true rest
      | _ => scanNumber? false cs
    match number with
    | some (n, rest) => (.number n, rest)
    | none => (.junk, [])

/-- The token that starts with the character `c`. -/
def nextToken (c : Char) (rest : List Char) : Token × List Char :=
  if c = '\x7b' then (.openTable, rest)
  else if c = '\x7d' then (.closeTable, rest)
  else if c = '[' then (.openArray, rest)
  else if c = ']' then (.closeArray, rest)
  else if c = ':' then (.colon, rest)
  else if c = ',' then (.comma, rest)
  else if c = '"' then stringToken rest
  else wordToken (c :: rest)

/-! ## Every token leaves a part of the text -/

theorem suffix_push {p : Piece} {r : Except Fault (List Piece × List Char)} {cs rest : List Char}
    {ps : List Piece} (hr : ∀ ps rest, r = .ok (ps, rest) → rest <:+ cs) (h : push p r = .ok (ps, rest)) :
    rest <:+ cs := by
  cases r with
  | error f => cases h
  | ok x =>
    cases h
    exact hr _ _ rfl

theorem suffix_scan {cs rest : List Char} {ps : List Piece} (h : scan cs = .ok (ps, rest)) : rest <:+ cs := by
  fun_induction scan cs generalizing ps rest with
  | case1 => cases h
  | case2 after => cases h; exact List.suffix_cons _ _
  | case3 => cases h
  | case4 h₁ h₂ h₃ h₄ after _ _ _ ih =>
    exact (suffix_push (fun _ _ => ih) h).trans ⟨['\\', 'u', h₁, h₂, h₃, h₄], rfl⟩
  | case5 => cases h
  | case6 => cases h
  | case7 e tail _ _ _ _ ih => exact (suffix_push (fun _ _ => ih) h).trans ⟨['\\', e], rfl⟩
  | case8 => cases h
  | case9 => cases h
  | case10 _ _ _ _ _ ih => exact (suffix_push (fun _ _ => ih) h).trans (List.suffix_cons _ _)

/-- An integer has digits, and stands at the start of the text. -/
theorem integerPart?_eq_append {cs digits rest : List Char} (h : integerPart? cs = some (digits, rest)) :
    ∃ d ds, digits = d :: ds ∧ cs = d :: ds ++ rest := by
  unfold integerPart? at h
  split at h
  · cases h
    exact ⟨'0', [], rfl, rfl⟩
  · next c tail _ =>
    split at h
    · next hc =>
      cases h
      rw [List.takeWhile_cons_of_pos hc, List.dropWhile_cons_of_pos hc]
      exact ⟨c, _, rfl, by rw [List.cons_append, List.takeWhile_append_dropWhile]⟩
    · cases h
  · cases h

theorem suffix_fractionPart (cs : List Char) : (fractionPart cs).2 <:+ cs := by
  unfold fractionPart
  split
  · split
    · exact (List.dropWhile_suffix _).trans (List.suffix_cons _ _)
    · exact List.suffix_rfl
  · exact List.suffix_rfl

theorem suffix_exponentPart (cs : List Char) : (exponentPart cs).2 <:+ cs := by
  unfold exponentPart
  split
  · next e rest =>
    split
    · dsimp only
      split
      · exact List.suffix_rfl
      · exact ((List.dropWhile_suffix _).trans (suffix_signPart rest)).trans (List.suffix_cons _ _)
    · exact List.suffix_rfl
  · exact List.suffix_rfl

theorem suffix_scanNumber? {negative : Bool} {cs rest : List Char} {n : Number}
    (h : scanNumber? negative cs = some (n, rest)) : rest <:+ cs.tail := by
  unfold scanNumber? at h
  obtain ⟨⟨digits, after⟩, hdigits, h⟩ := Option.map_eq_some_iff.1 h
  have hrest : rest = (exponentPart (fractionPart after).2).2 := by
    dsimp only at h
    split at h <;> cases h <;> rfl
  obtain ⟨d, ds, -, rfl⟩ := integerPart?_eq_append hdigits
  rw [hrest]
  exact ((suffix_exponentPart _).trans (suffix_fractionPart _)).trans (List.suffix_append _ _)

theorem suffix_literal? {c : Char} {tail rest : List Char} {v : Document}
    (h : literal? (c :: tail) = some (v, rest)) : rest <:+ tail := by
  obtain ⟨⟨word, w⟩, hm, hw⟩ := List.exists_of_findSome?_eq_some h
  have hlen : ∀ e ∈ literals, 0 < e.1.length := by decide
  obtain ⟨n, hn⟩ := Nat.exists_eq_add_of_lt (hlen _ hm)
  dsimp only at hw hn
  split at hw
  · cases hw
    rw [hn, Nat.zero_add, List.drop_succ_cons]
    exact List.drop_suffix _ _
  · cases hw

theorem suffix_stringToken (rest : List Char) : (stringToken rest).2 <:+ rest := by
  unfold stringToken
  split
  · next h => exact suffix_scan h
  · exact List.nil_suffix

/-- A number stands at the start of the text, after a minus or without one. -/
theorem exists_scanNumber? {cs rest : List Char} {n : Number}
    (h : (match cs with
      | '-' :: rest => scanNumber? true rest
      | _ => scanNumber? false cs) = some (n, rest)) :
    ∃ negative number, number <:+ cs ∧ number.tail <:+ cs.tail ∧
      scanNumber? negative number = some (n, rest) := by
  split at h
  · exact ⟨true, _, List.suffix_cons _ _, List.tail_suffix _, h⟩
  · exact ⟨false, cs, List.suffix_rfl, List.suffix_rfl, h⟩

theorem suffix_wordToken (c : Char) (tail : List Char) : (wordToken (c :: tail)).2 <:+ tail := by
  unfold wordToken
  split
  · next h => exact suffix_literal? h
  · dsimp only
    split
    · next h =>
      obtain ⟨_, _, -, htail, h⟩ := exists_scanNumber? h
      exact (suffix_scanNumber? h).trans htail
    · exact List.nil_suffix

theorem suffix_nextToken (c : Char) (rest : List Char) : (nextToken c rest).2 <:+ rest := by
  unfold nextToken
  repeat' split
  all_goals first
    | exact List.suffix_rfl
    | exact suffix_stringToken rest
    | exact suffix_wordToken c rest

/-! ## The tokens of a text -/

/-- The tokens, each with the number of characters left at its start. -/
def lex : List Char → List (Nat × Token)
  | [] => []
  | c :: rest =>
    if isBlank c then lex rest
    else (rest.length + 1, (nextToken c rest).1) :: lex (nextToken c rest).2
termination_by cs => cs.length
decreasing_by
  · simp
  · exact Nat.lt_succ_of_le (suffix_nextToken c rest).length_le

end ToolSites.Json
