import ToolSites.Text.Digits
/-!
# Dates and times of a TOML document

A date, a time of day, or both, with or without an offset. Only their form and
their validity in the calendar matter here: nothing is computed with them.
-/

namespace ToolSites.Toml

open Text (isDigit digitsValue)

/-- Two digits that write a number up to `most`. -/
def twoDigits? (most : Nat) : List Char → Option (Nat × List Char)
  | a :: b :: rest =>
    if isDigit a && isDigit b && digitsValue [a, b] ≤ most then
      some (digitsValue [a, b], rest)
    else none
  | _ => none

/-- What follows the character. -/
def afterChar? (c : Char) : List Char → Option (List Char)
  | x :: rest => if x = c then some rest else none
  | [] => none

/-- Reads the time of day, with a fraction of a second if there is one. -/
def time? (cs : List Char) : Option (List Char) := do
  let (_, cs) ← twoDigits? 23 cs
  let (_, cs) ← twoDigits? 59 (← afterChar? ':' cs)
  let (_, cs) ← twoDigits? 59 (← afterChar? ':' cs)
  match cs with
  | '.' :: d :: rest => return if isDigit d then rest.dropWhile isDigit else cs
  | _ => return cs

/-- Reads an offset from universal time; without one nothing is read. -/
def offset (cs : List Char) : List Char :=
  match cs with
  | [] => cs
  | c :: rest =>
    if c = 'Z' ∨ c = 'z' then rest
    else if c = '+' ∨ c = '-' then
      let read := do
        let (_, cs) ← twoDigits? 23 rest
        let (_, cs) ← twoDigits? 59 (← afterChar? ':' cs)
        return cs
      read.getD cs
    else cs

/-- A leap year is divisible by four, and by 400 if it is divisible by 100. -/
def isLeap (year : Nat) : Bool := year % 4 = 0 && (year % 100 != 0 || year % 400 = 0)

/-- The number of days of a month. -/
def daysIn (year month : Nat) : Nat :=
  if month = 2 then (if isLeap year then 29 else 28)
  else if month = 4 ∨ month = 6 ∨ month = 9 ∨ month = 11 then 30 else 31

/-- Reads the form of a date: its year, month and day. -/
def date? (cs : List Char) : Option ((Nat × Nat × Nat) × List Char) := do
  let (century, cs) ← twoDigits? 99 cs
  let (year, cs) ← twoDigits? 99 cs
  let (month, cs) ← twoDigits? 12 (← afterChar? '-' cs)
  let (day, cs) ← twoDigits? 31 (← afterChar? '-' cs)
  if month = 0 ∨ day = 0 then none else return ((100 * century + year, month, day), cs)

/-- Whether the calendar has the day. There is no year zero. -/
def isCalendarDay (day : Nat × Nat × Nat) : Bool :=
  0 < day.1 && day.2.2 ≤ daysIn day.1 day.2.1

/-- A date or time at the start of a text. -/
inductive MomentReading
  /-- The text has another form. -/
  | absent
  /-- The form of a date that the calendar does not have. -/
  | invalid
  /-- What is left after the date or time. -/
  | found (rest : List Char)

/-- Reads a date, a date and time, or a time. -/
def moment (cs : List Char) : MomentReading :=
  match date? cs with
  | some (day, rest) =>
    if !isCalendarDay day then .invalid
    else
      match rest with
      | c :: tail =>
        if c = 'T' ∨ c = 't' ∨ c = ' ' then
          match time? tail with
          | some after => .found (offset after)
          | none => .found rest
        else .found rest
      | [] => .found rest
  | none =>
    match time? cs with
    | some rest => .found rest
    | none => .absent

end ToolSites.Toml
