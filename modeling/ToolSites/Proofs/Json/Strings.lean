import ToolSites.Json.Printer
import ToolSites.Json.Token
/-!
# Strings read back from their JSON text

Every character is written as itself, as a short escape, or as one or two escapes
of 16-bit units. `scan_escaped` reads each of these forms back, whatever follows
it; `scan_flatMap_escaped` does so for a whole string, up to its closing quote.
-/
open ToolSites.Text

namespace ToolSites.Json

/-! ## Units -/

theorem hexValue?_digitChar {d : Nat} (h : d < 16) : hexValue? (Nat.digitChar d) = some d := by
  have all : ∀ d < 16, hexValue? (Nat.digitChar d) = some d := by decide
  exact all d h

/-- A unit is written in four digits, the highest first. -/
theorem hexDigits_four (n : Nat) :
    hexDigits 4 n = [Nat.digitChar (n / 16 / 16 / 16 % 16), Nat.digitChar (n / 16 / 16 % 16),
      Nat.digitChar (n / 16 % 16), Nat.digitChar (n % 16)] := rfl

theorem scan_unitEscape {n : Nat} (hn : n < 0x10000) {after : List Char} (h : after ≠ []) :
    scan (unitEscape n ++ after) = push (.unit n) (scan after) := by
  have hu : unit? (Nat.digitChar (n / 16 / 16 / 16 % 16)) (Nat.digitChar (n / 16 / 16 % 16))
      (Nat.digitChar (n / 16 % 16)) (Nat.digitChar (n % 16)) = some n := by
    simp only [unit?, hexValue?_digitChar (Nat.mod_lt _ (by decide : 0 < 16)), Option.bind_eq_bind,
      Option.bind_some, Option.pure_def, Option.some.injEq]
    omega
  obtain ⟨c, tail, rfl⟩ := List.exists_cons_of_ne_nil h
  simp only [unitEscape, hexDigits_four, List.cons_append, List.nil_append]
  rw [scan, if_neg (by decide), if_pos rfl]
  simp only [if_true, List.isEmpty_cons, Bool.false_eq_true, if_false, hu]

/-- A unit that is not the first half of a pair is a symbol of its own. -/
theorem join_unit {n : Nat} (h : isHigh n = false) (qs : List Piece) :
    join (.unit n :: qs) = unitSymbol n :: join qs := by
  cases qs with
  | nil => rfl
  | cons q qs =>
    cases q with
    | char c => rfl
    | unit low => simp only [join, h, Bool.false_and, Bool.false_eq_true, if_false]

theorem not_surrogate (c : Char) : isHigh c.toNat = false ∧ isLow c.toNat = false := by
  have hc : c.toNat < 0xD800 ∨ (0xDFFF < c.toNat ∧ c.toNat < 0x110000) := c.valid
  simp only [isHigh, isLow, Bool.and_eq_false_iff, decide_eq_false_iff_not]
  omega

theorem join_unit_char (c : Char) (qs : List Piece) :
    join (.unit c.toNat :: qs) = .char c :: join qs := by
  obtain ⟨hh, hl⟩ := not_surrogate c
  rw [join_unit hh]
  simp only [unitSymbol, hh, hl, Bool.or_self, Bool.false_eq_true, if_false, Char.ofNat_toNat]

/-- The two halves of a character beyond the 16-bit ones make that character. -/
theorem join_pair {c : Char} (h : 0x10000 ≤ c.toNat) (qs : List Piece) :
    join (.unit (0xD800 + (c.toNat - 0x10000) / 0x400) ::
      .unit (0xDC00 + (c.toNat - 0x10000) % 0x400) :: qs) = .char c :: join qs := by
  have hc : c.toNat < 0xD800 ∨ (0xDFFF < c.toNat ∧ c.toNat < 0x110000) := c.valid
  have hh : isHigh (0xD800 + (c.toNat - 0x10000) / 0x400) = true := by
    simp only [isHigh, Bool.and_eq_true, decide_eq_true_eq]; omega
  have hl : isLow (0xDC00 + (c.toNat - 0x10000) % 0x400) = true := by
    simp only [isLow, Bool.and_eq_true, decide_eq_true_eq]; omega
  have hp : pairChar (0xD800 + (c.toNat - 0x10000) / 0x400)
      (0xDC00 + (c.toNat - 0x10000) % 0x400) = c := by
    rw [pairChar, show 0x10000 + (0xD800 + (c.toNat - 0x10000) / 0x400 - 0xD800) * 0x400 +
      (0xDC00 + (c.toNat - 0x10000) % 0x400 - 0xDC00) = c.toNat by omega, Char.ofNat_toNat]
  simp only [join, hh, hl, Bool.and_self, if_true, hp]

/-! ## Characters -/

theorem scan_quote (rest : List Char) : scan ('"' :: rest) = .ok ([], rest) := by
  rw [scan.eq_def]
  simp only [if_true]

theorem scan_plain {c : Char} (hq : c ≠ '"') (hb : c ≠ '\\') (hc : ¬ c.toNat < 0x20)
    (after : List Char) : scan (c :: after) = push (.char c) (scan after) := by
  rw [scan.eq_def]
  simp only [if_neg hq, if_neg hb, if_neg hc]

theorem scan_short {e c : Char} (he : e ≠ 'u') (h : shortEscape? e = some c) (after : List Char) :
    scan ('\\' :: e :: after) = push (.char c) (scan after) := by
  have hq : ¬ '\\' = '"' := by decide
  rw [scan.eq_def]
  simp only [if_neg hq, if_true, if_neg he, h]

/-- What stands for a character in a string reads as that character. -/
theorem scan_escaped (c : Char) {after rest : List Char} {qs : List Piece}
    (h : scan after = .ok (qs, rest)) :
    ∃ ps, scan (escaped c ++ after) = .ok (ps ++ qs, rest) ∧ join (ps ++ qs) = .char c :: join qs := by
  have hne : after ≠ [] := by rintro rfl; simp [scan] at h
  unfold escaped
  split
  -- a quote or a backslash comes after a backslash
  · next hc =>
    refine ⟨[.char c], ?_, rfl⟩
    rw [List.cons_append, List.singleton_append, scan_short (c := c) ?_ ?_, h]
    · rfl
    · rcases hc with rfl | rfl <;> decide
    · rcases hc with rfl | rfl <;> rfl
  -- five control characters have letters of their own
  iterate 5
    split
    · next hc => subst hc; exact ⟨[.char _], by simp [scan_short, shortEscape?, h, push], rfl⟩
  split
  -- the other visible characters stand for themselves
  · next hq _ _ _ _ _ hc =>
    have hlow : ¬ c.toNat < 0x20 := Nat.not_lt.2 hc.1
    refine ⟨[.char c], ?_, rfl⟩
    rw [List.singleton_append, scan_plain (fun e => hq (.inl e)) (fun e => hq (.inr e)) hlow, h]
    rfl
  split
  -- what is left takes one unit, or two that only `join` puts together
  · next hc =>
    refine ⟨[.unit c.toNat], ?_, join_unit_char c qs⟩
    rw [scan_unitEscape hc hne, h]
    rfl
  · next hc =>
    have hv : c.toNat < 0xD800 ∨ (0xDFFF < c.toNat ∧ c.toNat < 0x110000) := c.valid
    refine ⟨[.unit _, .unit _], ?_, join_pair (by omega) qs⟩
    rw [List.append_assoc, scan_unitEscape (by omega) (by simp [unitEscape]),
      scan_unitEscape (by omega) hne, h]
    rfl

/-- A string reads back up to its closing quote. -/
theorem scan_flatMap_escaped (cs rest : List Char) :
    ∃ ps, scan (cs.flatMap escaped ++ '"' :: rest) = .ok (ps, rest) ∧ join ps = cs.map .char := by
  induction cs with
  | nil => exact ⟨[], scan_quote rest, rfl⟩
  | cons c cs ih =>
    obtain ⟨qs, hs, hj⟩ := ih
    obtain ⟨ps, hp, hjp⟩ := scan_escaped c hs
    refine ⟨ps ++ qs, ?_, by rw [hjp, hj, List.map_cons]⟩
    rw [List.flatMap_cons, List.append_assoc, hp]

/-- Where no half of a pair is spelled, the symbols are written as characters. -/
theorem flatMap_symbolText (s : String) : (Spelling.of s).flatMap symbolText = s.toList.flatMap escaped :=
  List.flatMap_map ..

/-- The token of a string that was written. -/
theorem stringToken_text (s : String) (rest : List Char) :
    stringToken ((Spelling.of s).flatMap symbolText ++ '"' :: rest) = (.text (.of s), rest) := by
  obtain ⟨ps, hs, hj⟩ := scan_flatMap_escaped s.toList rest
  rw [flatMap_symbolText]
  simp only [stringToken, hs, hj, Spelling.of]

/-! ## The characters of the text -/

theorem digitChar_ascii {d : Nat} (h : d < 16) :
    ' ' ≤ Nat.digitChar d ∧ Nat.digitChar d ≤ '~' := by
  have all : ∀ d < 16, ' ' ≤ Nat.digitChar d ∧ Nat.digitChar d ≤ '~' := by decide
  exact all d h

theorem unitEscape_ascii (n : Nat) : ∀ d ∈ unitEscape n, ' ' ≤ d ∧ d ≤ '~' := by
  have hd : ∀ m, ' ' ≤ Nat.digitChar (m % 16) ∧ Nat.digitChar (m % 16) ≤ '~' :=
    fun m => digitChar_ascii (Nat.mod_lt _ (by decide))
  intro d h
  simp only [unitEscape, hexDigits_four, List.mem_cons, List.not_mem_nil, or_false] at h
  rcases h with rfl | rfl | rfl | rfl | rfl | rfl
  · decide
  · decide
  all_goals exact hd _

/-- A character is written in visible characters of ASCII. -/
theorem escaped_ascii (c : Char) : ∀ d ∈ escaped c, ' ' ≤ d ∧ d ≤ '~' := by
  intro d h
  unfold escaped at h
  split at h
  · next hc =>
    simp only [List.mem_cons, List.not_mem_nil, or_false] at h
    rcases hc with rfl | rfl <;> rcases h with rfl | rfl <;> decide
  iterate 5
    split at h
    · simp only [List.mem_cons, List.not_mem_nil, or_false] at h
      rcases h with rfl | rfl <;> decide
  split at h
  · next hc => rw [List.mem_singleton.1 h]; exact hc
  split at h
  · exact unitEscape_ascii _ d h
  · rcases List.mem_append.1 h with h | h <;> exact unitEscape_ascii _ d h

end ToolSites.Json
