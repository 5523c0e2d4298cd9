import ToolSites.Json.Token
import ToolSites.Proofs.Json.Strings
/-!
# Integers read back from their JSON text

The digits of a number are read as that number where something follows that cannot
go on with it (`Ends`); `wordToken_toDigits` and `wordToken_minus` say so for the
token that they make.
-/
open ToolSites.Text

namespace ToolSites.Json

/-! ## Digits -/

theorem isDigit_of_toDigits {n : Nat} {c : Char} (h : c ∈ Nat.toDigits 10 n) :
    isDigit c = true := by
  have hc : c.isDigit = true := Nat.isDigit_of_mem_toDigits (by decide) (by decide) h
  simpa [isDigit, Char.isDigit, Char.le_def] using hc

theorem digitsValue_toDigits (n : Nat) : digitsValue (Nat.toDigits 10 n) = n := by
  induction n using Nat.strongRecOn with
  | ind n ih =>
    by_cases h : n < 10
    · rw [Nat.toDigits_of_lt_base h]
      simp [digitsValue, valueIn, hexValue?_digitChar (show n < 16 by omega)]
    · have hq := ih (n / 10) (by omega)
      rw [Nat.toDigits_of_base_le (by decide) (by omega)]
      simp only [digitsValue, valueIn, List.foldl_append, List.foldl_cons, List.foldl_nil] at hq ⊢
      rw [hq, hexValue?_digitChar (show n % 10 < 16 by omega)]
      simp only [Option.getD_some]
      omega

/-- The digits of a number start with a zero only if that is all there is. -/
theorem toDigits_head (n : Nat) :
    Nat.toDigits 10 n = ['0'] ∨ ∃ c tail, Nat.toDigits 10 n = c :: tail ∧ c ≠ '0' := by
  induction n using Nat.strongRecOn with
  | ind n ih =>
    by_cases h : n < 10
    · have small : ∀ d < 10, Nat.digitChar d = '0' ∨ Nat.digitChar d ≠ '0' := by decide
      rw [Nat.toDigits_of_lt_base h]
      rcases small n h with h0 | h0
      · exact .inl (by rw [h0])
      · exact .inr ⟨_, [], rfl, h0⟩
    · rw [Nat.toDigits_of_base_le (by decide) (by omega)]
      have hne : Nat.toDigits 10 (n / 10) ≠ ['0'] := by
        intro he
        have hz : n / 10 = 0 := by rw [← digitsValue_toDigits (n / 10), he]; rfl
        omega
      rcases ih (n / 10) (by omega) with h0 | ⟨c, tail, ht, hc⟩
      · exact absurd h0 hne
      · exact .inr ⟨c, tail ++ [Nat.digitChar (n % 10)], by rw [ht, List.cons_append], hc⟩

/-- What may follow a value: nothing, a comma, or a blank. -/
def Ends (rest : List Char) : Prop := ∀ c ∈ rest.head?, c = ',' ∨ isBlank c = true

theorem Ends.not_number {rest : List Char} (h : Ends rest) {c : Char} (hc : c ∈ rest.head?) :
    isDigit c = false ∧ c ≠ '.' ∧ c ≠ 'e' ∧ c ≠ 'E' := by
  rcases h c hc with rfl | hb
  · decide
  · simp only [isBlank, Bool.or_eq_true, decide_eq_true_eq] at hb
    rcases hb with ((rfl | rfl) | rfl) | rfl <;> decide

theorem integerPart?_toDigits (n : Nat) {rest : List Char} (h : Ends rest) :
    integerPart? (Nat.toDigits 10 n ++ rest) = some (Nat.toDigits 10 n, rest) := by
  have hd : ∀ c ∈ Nat.toDigits 10 n, isDigit c = true := fun c hc => isDigit_of_toDigits hc
  have ht : rest.takeWhile isDigit = [] := by
    cases rest with
    | nil => rfl
    | cons c tail => rw [List.takeWhile_cons_of_neg (by simp [(h.not_number rfl).1])]
  have hw : rest.dropWhile isDigit = rest := by
    cases rest with
    | nil => rfl
    | cons c tail => rw [List.dropWhile_cons_of_neg (by simp [(h.not_number rfl).1])]
  rcases toDigits_head n with h0 | ⟨c, tail, hc, hne⟩
  · rw [h0]; rfl
  · have htake : (c :: tail ++ rest).takeWhile isDigit = c :: tail := by
      rw [← hc, List.takeWhile_append_of_pos hd, ht, List.append_nil]
    have hdrop : (c :: tail ++ rest).dropWhile isDigit = rest := by
      rw [← hc, List.dropWhile_append_of_pos hd, hw]
    have hdig : isDigit c = true := hd c (by rw [hc]; exact .head _)
    rw [hc, List.cons_append] at *
    unfold integerPart?
    split
    · next he => exact absurd (List.cons.inj he).1 hne
    · next he => cases he; simp only [hdig, if_true, htake, hdrop]
    · next he => cases he

theorem scanNumber?_toDigits (negative : Bool) {n : Nat} (hn : (Nat.toDigits 10 n).length ≤ maxDigits)
    {rest : List Char} (h : Ends rest) :
    scanNumber? negative (Nat.toDigits 10 n ++ rest) =
      some (.value (.integer (signed negative n)), rest) := by
  have hlen : ¬ maxDigits < (Nat.toDigits 10 n).length := Nat.not_lt.2 hn
  have hf : fractionPart rest = (none, rest) := by
    unfold fractionPart
    split
    · exact absurd rfl (h.not_number rfl).2.1
    · rfl
  have he : exponentPart rest = (none, rest) := by
    unfold exponentPart
    split
    · next c tail =>
      have hc := (h.not_number (c := c) rfl).2.2
      rw [if_neg (by simp [hc])]
    · rfl
  simp only [scanNumber?, integerPart?_toDigits n h, Option.map_some, hf, he, integerNumber, hlen,
    if_false, digitsValue_toDigits]

/-- A character that starts none of the words that stand for values. -/
theorem literal?_digit {c : Char} (h : isDigit c = true) (tail : List Char) :
    literal? (c :: tail) = none ∧ literal? ('-' :: c :: tail) = none := by
  have hc : c ≠ 'n' ∧ c ≠ 't' ∧ c ≠ 'f' ∧ c ≠ 'N' ∧ c ≠ 'I' ∧ c ≠ '-' := by
    refine ⟨?_, ?_, ?_, ?_, ?_, ?_⟩ <;> (rintro rfl; exact absurd h (by decide))
  simp [literal?, literals, hc.1.symm, hc.2.1.symm, hc.2.2.1.symm,
    hc.2.2.2.1.symm, hc.2.2.2.2.1.symm, hc.2.2.2.2.2.symm]

/-- The token of a number that was written. -/
theorem wordToken_toDigits {n : Nat} (hn : (Nat.toDigits 10 n).length ≤ maxDigits)
    {rest : List Char} (h : Ends rest) :
    wordToken (Nat.toDigits 10 n ++ rest) = (.number (.value (.integer n)), rest) := by
  obtain ⟨c, tail, hc⟩ := List.exists_cons_of_ne_nil (Nat.toDigits_ne_nil (n := n) (b := 10))
  have hd : isDigit c = true := isDigit_of_toDigits (n := n) (by rw [hc]; exact .head _)
  have hs := scanNumber?_toDigits false hn h
  rw [hc, List.cons_append] at hs ⊢
  have hm : ∀ more, c :: (tail ++ rest) ≠ '-' :: more := by
    rintro more he
    rw [(List.cons.inj he).1] at hd
    exact absurd hd (by decide)
  rw [wordToken, (literal?_digit hd _).1]
  · simp only [hs, signed, Bool.false_eq_true, if_false]
  · exact hm

/-- The token of a number that was written after a minus. -/
theorem wordToken_minus {n : Nat} (hn : (Nat.toDigits 10 n).length ≤ maxDigits)
    {rest : List Char} (h : Ends rest) :
    wordToken ('-' :: (Nat.toDigits 10 n ++ rest)) =
      (.number (.value (.integer (-(n : Int)))), rest) := by
  obtain ⟨c, tail, hc⟩ := List.exists_cons_of_ne_nil (Nat.toDigits_ne_nil (n := n) (b := 10))
  have hd : isDigit c = true := isDigit_of_toDigits (n := n) (by rw [hc]; exact .head _)
  have hs := scanNumber?_toDigits true hn h
  rw [hc, List.cons_append] at hs ⊢
  rw [wordToken, (literal?_digit hd _).2]
  simp only [hs, signed, if_true]

end ToolSites.Json
