import ToolSites.Text.Quoted
/-!
# Spellings

A JSON text may write one half of a pair of 16-bit units where the other half does not
follow. No character stands for it, and no `String` holds it. What the strings of such a
text say is therefore spelled out in symbols: characters, and halves that stand alone.
Every text has a spelling, and a spelling without halves is that of one text.
-/

namespace ToolSites

/-- A character, or half of a pair that stands alone. -/
inductive Symbol
  | char (c : Char)
  | half (unit : Nat)
  deriving DecidableEq, Repr

/-- What a string says, symbol by symbol. -/
abbrev Spelling := List Symbol

/-- The symbol as it stands between two `quote`s in a message. -/
def Symbol.quoted (quote : Char) : Symbol → List Char
  | .char c => Text.quotedChar quote c
  | .half unit => '\\' :: 'u' :: Text.hexDigits 4 unit

namespace Spelling

/-- The spelling of a text. -/
def of (s : String) : Spelling := s.toList.map .char

/-- The characters that are spelled, if no half stands alone. -/
def chars? : Spelling → Option (List Char)
  | [] => some []
  | .char c :: rest => (chars? rest).map (c :: ·)
  | .half _ :: _ => none

/-- The text that is spelled, if no half stands alone. -/
def text? (s : Spelling) : Option String := (chars? s).map .ofList

/-- What is spelled between its quotes, as messages show it. -/
def quoted (s : Spelling) : String :=
  let quote := if s.contains (.char '\'') && !s.contains (.char '"') then '"' else '\''
  .ofList (quote :: s.flatMap (Symbol.quoted quote) ++ [quote])

/-! ## Texts and their spellings -/

theorem chars?_eq_some {s : Spelling} {cs : List Char} : s.chars? = some cs ↔ s = cs.map .char := by
  induction s generalizing cs with
  | nil => cases cs <;> simp [chars?]
  | cons symbol rest ih =>
    cases symbol with
    | half unit => cases cs <;> simp [chars?]
    | char c =>
      cases cs with
      | nil => simp [chars?]
      | cons d ds =>
        simp only [chars?, Option.map_eq_some_iff, ih, List.cons.injEq, List.map_cons, Symbol.char.injEq]
        grind

theorem text?_eq_some {s : Spelling} {t : String} : s.text? = some t ↔ s = of t := by
  rw [text?, Option.map_eq_some_iff]
  constructor
  · rintro ⟨cs, hcs, rfl⟩
    rw [chars?_eq_some.1 hcs, of, String.toList_ofList]
  · rintro rfl
    exact ⟨t.toList, chars?_eq_some.2 rfl, String.ofList_toList⟩

/-- A text is read from its spelling. -/
@[simp]
theorem text?_of (t : String) : (of t).text? = some t := text?_eq_some.2 rfl

theorem of_inj {s t : String} : of s = of t ↔ s = t := by
  constructor
  · intro h
    have hs := text?_of s
    rw [h, text?_of] at hs
    exact (Option.some.inj hs).symm
  · rintro rfl
    rfl

end Spelling

end ToolSites
