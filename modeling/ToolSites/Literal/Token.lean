import ToolSites.Binary64.Basic
import ToolSites.Host
import ToolSites.Literal.Fault
import ToolSites.Text.Identifier
/-!
# Tokens of literals

Words, numbers, strings and signs. Line ends count only outside of brackets, and
so does the indent of a line.
-/

namespace ToolSites.Literal

open Text (isDigit hexValue?)

/-! ## Tokens -/

/-- What a string holds. -/
inductive StringKind
  | text
  | bytes
  | formatted
  deriving DecidableEq, Repr

/-- What a number can be added to. -/
inductive NumberKind
  | real
  /-- An integer that no real number is near to. -/
  | huge
  | imaginary
  deriving DecidableEq, Repr

/-- What a token is. -/
inductive TokenKind
  | word (name : String)
  | number (kind : NumberKind)
  /-- A string, and what is wrong with its content. -/
  | string (kind : StringKind) (fault : Option Fault)
  | sign (s : String)
  | newline
  | indent
  /-- The end of the text. -/
  | finish
  /-- A fault that is met only when something is read there. -/
  | broken (fault : Fault)
  deriving DecidableEq, Repr

/-- A token, and in how many brackets the text behind it stands. -/
structure Token where
  kind : TokenKind
  level : Nat
  deriving DecidableEq, Repr

namespace Token

/-! ## Numbers -/

/-- Whether a character may start a word. -/
def startsWord (c : Char) : Bool := c.isAlpha || c = '_' || 0x80 ≤ c.toNat

/-- Whether a character may stand in a word. -/
def inWord (c : Char) : Bool := c.isAlphanum || c = '_' || 0x80 ≤ c.toNat

/-- What follows a run of digits that has begun; single underscores may stand
between its digits. -/
def afterDigits? (digit : Char → Bool) : List Char → Option (List Char)
  | [] => some []
  | c :: rest =>
    if digit c then afterDigits? digit rest
    else if c = '_' then
      match rest with
      | d :: others => if digit d then afterDigits? digit others else none
      | [] => none
    else some (c :: rest)

/-- Whether a word that may follow a number at once follows. -/
def isFollowed (cs : List Char) : Bool :=
  (["if", "in", "is"].any fun word => word.toList.isPrefixOf cs) ||
    ["and", "else", "for", "not", "or"].contains (.ofList (cs.takeWhile inWord))

/-- Refuses a number with letters at its end. -/
def ended (kind : String) (cs : List Char) : Except Fault (List Char) :=
  if isFollowed cs then .ok cs
  else if cs.head?.any fun c => inWord c && c.toNat < 0x80 then .error (.badNumber kind)
  else .ok cs

/-- What follows more digits of a decimal number. -/
def afterDecimal (cs : List Char) : Except Fault (List Char) :=
  match afterDigits? isDigit cs with
  | some rest => .ok rest
  | none => .error (.badNumber "decimal")

/-- What follows the end of a number, which may be imaginary. -/
def afterImaginary : List Char → Except Fault (List Char)
  | c :: rest => if c = 'j' || c = 'J' then ended "imaginary" rest else ended "decimal" (c :: rest)
  | [] => .ok []

/-- What follows the exponent of a number, if it has one, and its end. -/
def afterExponent (cs : List Char) : Except Fault (List Char) :=
  match cs with
  | c :: rest =>
    if c = 'e' || c = 'E' then
      match rest with
      | d :: others =>
        if isDigit d then (afterDecimal others).bind afterImaginary
        else if d = '+' || d = '-' then
          if (others.head?.map isDigit).getD false then
            (afterDecimal others).bind afterImaginary
          else .error (.badNumber "decimal")
        else ended "decimal" cs
      | [] => ended "decimal" cs
    else afterImaginary cs
  | [] => .ok []

/-- What follows the point of a number. -/
def afterPoint (cs : List Char) : Except Fault (List Char) :=
  if (cs.head?.map isDigit).getD false then (afterDecimal cs).bind afterExponent
  else afterExponent cs

/-- What follows the whole part of a number. -/
def afterWhole : List Char → Except Fault (List Char)
  | '.' :: rest => afterPoint rest
  | cs => afterExponent cs

/-- What follows a number in another base, behind its letter. -/
def afterBased (kind : String) (digit : Char → Bool) (cs : List Char) :
    Except Fault (List Char) := do
  let wrong (cs : List Char) : Except Fault (List Char) :=
    match cs with
    | c :: _ =>
      if isDigit c then .error (.badDigit c kind) else .error (.badNumber kind)
    | [] => .error (.badNumber kind)
  let start := if cs.head? = some '_' then cs.drop 1 else cs
  if (start.head?.map digit).getD false then
    match afterDigits? digit start with
    | none =>
      let stop := (start.dropWhile fun c => digit c || c = '_')
      if (start.takeWhile fun c => digit c || c = '_').getLast? = some '_' then wrong stop
      else .error (.badNumber kind)
    | some rest =>
      match rest with
      | c :: _ => if isDigit c then .error (.badDigit c kind) else ended kind rest
      | [] => .ok []
  else wrong start

/-- What follows a number that starts with zero, behind the zero. -/
def afterZero (cs : List Char) : Except Fault (List Char) :=
  match cs with
  | c :: rest =>
    if c = 'x' || c = 'X' then
      match afterBased "hexadecimal" (fun c => (hexValue? c).isSome) rest with
      | .error (.badDigit ..) => .error (.badNumber "hexadecimal")
      | result => result
    else if c = 'o' || c = 'O' then afterBased "octal" (fun c => '0' ≤ c && c ≤ '7') rest
    else if c = 'b' || c = 'B' then afterBased "binary" (fun c => c = '0' || c = '1') rest
    else do
      let rest ← afterDecimal cs
      let digits := cs.take (cs.length - rest.length)
      match rest with
      | d :: _ =>
        if d = '.' || d = 'e' || d = 'E' || d = 'j' || d = 'J' then afterWhole rest
        else if digits.all fun c => c = '0' || c = '_' then ended "decimal" rest
        else .error .leadingZeros
      | [] => if digits.all fun c => c = '0' || c = '_' then .ok [] else .error .leadingZeros
  | [] => .ok []

/-- What follows a number that starts with the character and goes on with `cs`. -/
def afterNumber (c : Char) (cs : List Char) : Except Fault (List Char) := do
  if c = '.' then afterPoint cs
  else if c = '0' then afterZero cs
  else
    let rest ← afterDecimal cs
    let digits := ((cs.take (cs.length - rest.length)).filter isDigit).length + 1
    let after ← afterWhole rest
    if after.length = rest.length && Text.maxDigits < digits then .error (.tooManyDigits digits)
    else return after

/-- The kind of an integer with these digits, which may have underscores between them. -/
def integerKind (base : Nat) (digits : List Char) : NumberKind :=
  match Binary64.ofRatio false (Text.valueIn base (digits.filter (· != '_'))) 1 with
  | .infinite _ => .huge
  | _ => .real

/-- The kind of the number that the characters write. -/
def numberKind (cs : List Char) : NumberKind :=
  if cs.getLast?.any fun c => c = 'j' || c = 'J' then .imaginary
  else
    match cs with
    | '0' :: letter :: digits =>
      if letter = 'x' || letter = 'X' then integerKind 16 digits
      else if letter = 'o' || letter = 'O' then integerKind 8 digits
      else if letter = 'b' || letter = 'B' then integerKind 2 digits
      else .real
    | _ => if cs.all fun c => isDigit c || c = '_' then integerKind 10 cs else .real

/-- The number that starts with the character and goes on with `cs`, and what follows it. -/
def number (c : Char) (cs : List Char) : Except Fault (TokenKind × List Char) := do
  let after ← afterNumber c cs
  return (.number (numberKind (c :: cs.take (cs.length - after.length))), after)

/-! ## Strings -/

/-- The content of a string that one quote ends, and what follows it. `line` is the
line where it goes on. -/
def shortString (quote : Char) (line : Nat) : List Char → Except Fault (List Char × List Char)
  | [] => .error (.unterminated line)
  | c :: rest =>
    if c = quote then .ok ([], rest)
    else if c = '\n' then .error (.unterminated line)
    else if c = '\\' then
      match rest with
      | [] => .error (.unterminated line)
      | d :: others =>
        (shortString quote (if d = '\n' then line + 1 else line) others).map
          fun (content, after) => (c :: d :: content, after)
    else (shortString quote line rest).map fun (content, after) => (c :: content, after)

/-- The content of a string that three quotes end, and what follows it. -/
def longString (quote : Char) (line : Nat) : List Char → Except Fault (List Char × List Char)
  | [] => .error (.unterminatedTriple line)
  | c :: rest =>
    if c = quote && [quote, quote].isPrefixOf rest then .ok ([], rest.drop 2)
    else
      let line := if c = '\n' then line + 1 else line
      if c = '\\' then
        match rest with
        | [] => .error (.unterminatedTriple line)
        | d :: others =>
          (longString quote (if d = '\n' then line + 1 else line) others).map
            fun (content, after) => (c :: d :: content, after)
      else (longString quote line rest).map fun (content, after) => (c :: content, after)

/-- How much place the characters of a text take. One that is not of one byte takes that
of its escape in ten characters, and so does a backslash before it, in six. -/
def escapedWidth : List Char → Nat
  | [] => 0
  | c :: rest =>
    escapedWidth rest +
      if 0x80 ≤ c.toNat then 10
      else if c = '\\' && rest.head?.any fun d => 0x80 ≤ d.toNat then 6
      else 1

/-- Whether a character may stand in the name of one. -/
def inCharacterName (c : Char) : Bool := c.isAlphanum || c = ' ' || c = '-'

/-- What is wrong with the name of a character that is to follow its escape, which
starts at `position`. -/
def nameFault? [Host] (position : Nat) (cs : List Char) : Option Fault :=
  match cs with
  | '\x7b' :: rest =>
    let name := rest.takeWhile (· != '\x7d')
    let last := position + 2 + escapedWidth name
    if name.length = rest.length then some (.malformedName position last)
    else if name = [] then some (.malformedName position last)
    else if name.all inCharacterName && Host.namesCharacter (.ofList name) then none
    else some (.unknownName position (last + 1))
  | _ => some (.malformedName position (position + 1))

/-- What is wrong with the escapes of a text that is read from `position` on. -/
def textFault? [Host] (position : Nat) : List Char → Option Fault
  | [] => none
  | c :: rest =>
    if c = '\\' then
      match rest with
      | [] => none
      | d :: others =>
        let width := if d = 'x' then 2 else if d = 'u' then 4 else if d = 'U' then 8 else 0
        let digits := (others.take width).takeWhile fun c => (hexValue? c).isSome
        let last := position + 1 + digits.length
        let named := if d = 'N' then nameFault? position others else none
        if named.isSome then named
        else if digits.length < width then
          some (.truncatedEscape (.ofList ('\\' :: d :: List.replicate width 'X')) position last)
        else if Text.valueIn 16 digits > 0x10FFFF then some (.beyondUnicode position last)
        else textFault? (position + escapedWidth [c, d]) others
    else textFault? (position + escapedWidth [c]) rest

/-- What is wrong with the escapes of bytes that are read from `position` on. -/
def bytesFault? (position : Nat) : List Char → Option Fault
  | [] => none
  | c :: rest =>
    if c = '\\' then
      match rest with
      | [] => none
      | d :: others =>
        let digits := (others.take 2).takeWhile fun c => (hexValue? c).isSome
        if d = 'x' && decide (digits.length < 2) then some (.badByteEscape position)
        else bytesFault? (position + 2) others
    else bytesFault? (position + 1) rest

/-- What is wrong with the content of a string, given the letters before it. -/
def contentFault? [Host] (letters : List Char) (content : List Char) : Option Fault :=
  if letters.contains 'b' then
    if content.any fun c => 0x80 ≤ c.toNat then some .notByte
    else if letters.contains 'r' then none
    else bytesFault? 0 content
  else if letters.contains 'r' || letters.contains 'f' then none
  else textFault? 0 content

/-- The letters that may stand before a string. -/
def isStringLetters (letters : List Char) : Bool :=
  ["", "b", "u", "r", "f", "br", "rb", "fr", "rf"].contains (.ofList letters)

/-- The string that starts with the letters and a quote, and what follows it. -/
def string [Host] (letters : List Char) (quote : Char) (line : Nat) (cs : List Char) :
    Except Fault (TokenKind × List Char) := do
  let (content, after) ←
    if [quote, quote].isPrefixOf cs then longString quote line (cs.drop 2)
    else shortString quote line cs
  let kind := if letters.contains 'b' then StringKind.bytes
    else if letters.contains 'f' then .formatted else .text
  return (.string kind (contentFault? letters content), after)

/-! ## Words and signs -/

/-- Refuses a word with a character that no word may hold. -/
def word (cs : List Char) : Except Fault TokenKind :=
  match Text.identifierFault? cs with
  | some c => .error (.badCharacter c)
  | none => .ok (.word (.ofList cs))

/-- The signs of several characters, longest first. -/
def longSigns : List String :=
  ["**=", "//=", "<<=", ">>=", "...", "!=", "%=", "&=", "**", "*=", "+=", "-=", "->", "//", "/=",
    ":=", "<<", "<=", "<>", "==", ">=", ">>", "@=", "^=", "|="]

/-- The sign at the start of a text, and what follows it. -/
def sign (c : Char) (rest : List Char) : Except Fault (TokenKind × List Char) :=
  match longSigns.find? fun s => s.toList.isPrefixOf (c :: rest) with
  | some s => .ok (.sign s, (c :: rest).drop s.length)
  | none =>
    if Text.isPrintable c then .ok (.sign (.singleton c), rest) else .error (.badCharacter c)

/-! ## All tokens -/

/-- What was read up to some place. -/
structure Place where
  line : Nat := 1
  /-- The brackets that are open and their lines, innermost first. -/
  brackets : List (Char × Nat) := []
  /-- Whether a token stands before the place on its line. -/
  midLine : Bool := false

/-- The most brackets that may be open at once. -/
def maxDepth : Nat := 200

/-- The opening bracket that a closing one fits. -/
def opening? (c : Char) : Option Char :=
  if c = ')' then some '('
  else if c = ']' then some '['
  else if c = '\x7d' then some '\x7b'
  else none

/-- The place behind a token that was read from some text. -/
def Place.behind (p : Place) (consumed : List Char) : Place :=
  { p with line := p.line + consumed.count '\n', midLine := true }

/-- The place behind a bracket. -/
def Place.bracket (p : Place) (c : Char) : Except Fault Place :=
  if ['(', '[', '\x7b'].contains c then
    if maxDepth ≤ p.brackets.length then .error .tooDeep
    else .ok { p with brackets := (c, p.line) :: p.brackets, midLine := true }
  else
    match opening? c with
    | none => .ok { p with midLine := true }
    | some fitting =>
      match p.brackets with
      | [] => .error (.unmatched c)
      | (opening, line) :: outer =>
        if opening = fitting then .ok { p with brackets := outer, midLine := true }
        else .error (.mismatched c opening (if line = p.line then none else some line))

/-- The token at the start of a text that is not blank, what follows it, and the
place there. -/
def oneToken [Host] (p : Place) (c : Char) (rest : List Char) :
    Except Fault (TokenKind × List Char × Place) := do
  let (kind, after) ←
    if startsWord c then
      let letters := c :: rest.takeWhile inWord
      let after := rest.dropWhile inWord
      match after with
      | quote :: content =>
        if (quote = '\'' || quote = '"') && isStringLetters (letters.map Char.toLower) then
          string (letters.map Char.toLower) quote p.line content
        else (word letters).map (·, after)
      | [] => (word letters).map (·, after)
    else if c = '\'' || c = '"' then string [] c p.line rest
    else if isDigit c || (c = '.' && (rest.head?.map isDigit).getD false) then
      number c rest
    else sign c rest
  let p ← (p.behind ((c :: rest).take (rest.length + 1 - after.length))).bracket c
  return (kind, after, p)

/-- The tokens of a text from a place on. At most `fuel` characters are passed. -/
def readFrom [Host] : (fuel : Nat) → Place → List Char → Except Fault (List Token)
  | 0, _, _ => .ok []
  | _, p, [] =>
    match p.brackets with
    | (c, _) :: _ => .ok [⟨.broken (.neverClosed c), p.brackets.length⟩]
    | [] => .ok [⟨.newline, 0⟩, ⟨.finish, 0⟩]
  | fuel + 1, p, c :: rest =>
    if c = ' ' || c = '\t' || c = '\x0c' then readFrom fuel p rest
    else if c = '#' then readFrom fuel p (rest.dropWhile (· != '\n'))
    else if c = '\n' then do
      let next := { p with line := p.line + 1, midLine := false }
      let tokens ← readFrom fuel next rest
      let blanks := rest.takeWhile fun c => c = ' ' || c = '\t'
      let indented := p.brackets.isEmpty && !blanks.isEmpty &&
        (rest.drop blanks.length).head?.any fun c => c != '\n' && c != '#'
      let tokens := if indented then ⟨.indent, 0⟩ :: tokens else tokens
      return if p.brackets.isEmpty && p.midLine then ⟨.newline, 0⟩ :: tokens else tokens
    else if c = '\\' then
      match rest with
      | '\n' :: after => readFrom fuel { p with line := p.line + 1 } after
      | _ => .ok [⟨.broken .badContinuation, p.brackets.length⟩]
    else do
      let (kind, after, next) ← oneToken p c rest
      return ⟨kind, next.brackets.length⟩ :: (← readFrom fuel next after)

/-- The text with a plain line feed at each line end. -/
def unified : List Char → List Char
  | [] => []
  | c :: rest =>
    if c = '\r' then if rest.head? = some '\n' then unified rest else '\n' :: unified rest
    else c :: unified rest

/-- The tokens of a text. -/
def read [Host] (cs : List Char) : Except Fault (List Token) :=
  if cs.contains '\x00' then .error .nullByte
  else
    let cs := unified cs
    readFrom (cs.length + 1) {} cs

end Token

end ToolSites.Literal
