import ToolSites.Proofs.Results
import ToolSites.Text.Utf8
/-!
# Bytes that are text

`decode_eq_ok`: a list of bytes reads as a text exactly if it is how the text is written, so that
each text has one written form and no other bytes are read. Both directions go over one character
at a time; a character is written in one to four bytes, and the first of them tells how many
follow and which may follow first.
-/

namespace ToolSites.Text.Utf8

/-! ## First bytes -/

theorem lead_two {b : Nat} (hb : 0xC2 ≤ b) (hb' : b ≤ 0xDF) : lead b = some (1, 0x80, 0xBF, b - 0xC0) := by
  rw [lead, if_pos ⟨hb, hb'⟩]

theorem lead_three {b : Nat} (hb : 0xE0 ≤ b) (hb' : b ≤ 0xEF) :
    lead b = some (2, if b = 0xE0 then 0xA0 else 0x80, if b = 0xED then 0x9F else 0xBF, b - 0xE0) := by
  unfold lead
  rw [if_neg (by omega)]
  by_cases hfirst : b = 0xE0
  · subst hfirst; rfl
  by_cases hlast : b = 0xED
  · subst hlast; rfl
  rw [if_neg hfirst, if_neg hlast, if_pos (by omega), if_neg hfirst, if_neg hlast]

theorem lead_four {b : Nat} (hb : 0xF0 ≤ b) (hb' : b ≤ 0xF4) :
    lead b = some (3, if b = 0xF0 then 0x90 else 0x80, if b = 0xF4 then 0x8F else 0xBF, b - 0xF0) := by
  unfold lead
  rw [if_neg (by omega), if_neg (by omega), if_neg (by omega), if_neg (by omega)]
  by_cases hfirst : b = 0xF0
  · subst hfirst; rfl
  by_cases hlast : b = 0xF4
  · subst hlast; rfl
  rw [if_neg hfirst, if_pos (by omega), if_neg hfirst, if_neg hlast]

theorem lead_none {b : Nat} (h : b < 0xC2 ∨ 0xF4 < b) : lead b = none := by
  unfold lead
  rw [if_neg (by omega), if_neg (by omega), if_neg (by omega), if_neg (by omega), if_neg (by omega),
    if_neg (by omega), if_neg (by omega)]

/-! ## Further bytes -/

theorem continuation_zero {lo hi seen bits n : Nat} {bs rest : List UInt8} :
    continuation lo hi 0 seen bits bs = .ok (n, rest) ↔ n = bits ∧ bs = rest := by
  rw [continuation, Except.ok.injEq, Prod.mk.injEq]
  exact and_congr_left' eq_comm

theorem continuation_succ {lo hi count seen bits n : Nat} {bs rest : List UInt8} :
    continuation lo hi (count + 1) seen bits bs = .ok (n, rest) ↔ ∃ b after, bs = b :: after ∧
      (lo ≤ b.toNat ∧ b.toNat ≤ hi) ∧
      continuation 0x80 0xBF count (seen + 1) (bits * 0x40 + b.toNat % 0x40) after = .ok (n, rest) := by
  cases bs with
  | nil => simp [continuation]
  | cons b after =>
    simp only [continuation, List.cons.injEq]
    split
    · next hb =>
      constructor
      · intro h
        exact ⟨b, after, ⟨rfl, rfl⟩, hb, h⟩
      · rintro ⟨_, _, ⟨rfl, rfl⟩, -, h⟩
        exact h
    · next hb => simp [hb]

/-! ## Characters -/

theorem toNat_range (c : Char) : c.toNat < 0xD800 ∨ 0xDFFF < c.toNat ∧ c.toNat < 0x110000 := c.valid

theorem toNat_ofNat {n : Nat} (h : n < 0xD800 ∨ 0xDFFF < n ∧ n < 0x110000) : (Char.ofNat n).toNat = n := by
  have hvalid : n.isValidChar := h
  rw [Char.ofNat, dif_pos hvalid]
  rfl

/-- The byte is the one with the number. -/
theorem byte_eq {n : Nat} {b : UInt8} (h : n = b.toNat) : UInt8.ofNat n = b := by
  rw [h, UInt8.ofNat_toNat]

theorem decodeChar_of_lead {b : UInt8} {rest after : List UInt8} {c : Char} {count lo hi bits : Nat}
    (hb : ¬ b.toNat < 0x80) (hlead : lead b.toNat = some (count, lo, hi, bits)) :
    decodeChar b rest = .ok (c, after) ↔
      ∃ n, continuation lo hi count 1 bits rest = .ok (n, after) ∧ Char.ofNat n = c := by
  rw [decodeChar, if_neg hb, hlead]
  simp only [map_eq_ok, Prod.exists, Prod.mk.injEq]
  constructor
  · rintro ⟨n, _, hn, hc, rfl⟩
    exact ⟨n, hn, hc⟩
  · rintro ⟨n, hn, hc⟩
    exact ⟨n, after, hn, hc, rfl⟩

theorem encodeChar_one {n : Nat} {b : UInt8} (hn : n < 0x80) (hb : n = b.toNat) :
    encodeChar (.ofNat n) = [b] := by
  rw [encodeChar, toNat_ofNat (by omega)]
  simp only [if_pos hn, byte_eq hb]

theorem encodeChar_two {n : Nat} {b b₂ : UInt8} (hn : 0x80 ≤ n) (hn' : n < 0x800)
    (hb : 0xC0 + n / 0x40 = b.toNat) (hb₂ : 0x80 + n % 0x40 = b₂.toNat) :
    encodeChar (.ofNat n) = [b, b₂] := by
  rw [encodeChar, toNat_ofNat (by omega)]
  simp only [if_neg (by omega : ¬ n < 0x80), if_pos hn', byte_eq hb, byte_eq hb₂]

theorem encodeChar_three {n : Nat} {b b₂ b₃ : UInt8} (hn : 0x800 ≤ n) (hn' : n < 0x10000)
    (hvalid : n < 0xD800 ∨ 0xDFFF < n) (hb : 0xE0 + n / 0x1000 = b.toNat)
    (hb₂ : 0x80 + n / 0x40 % 0x40 = b₂.toNat) (hb₃ : 0x80 + n % 0x40 = b₃.toNat) :
    encodeChar (.ofNat n) = [b, b₂, b₃] := by
  rw [encodeChar, toNat_ofNat (by omega)]
  simp only [if_neg (by omega : ¬ n < 0x80), if_neg (by omega : ¬ n < 0x800), if_pos hn', byte_eq hb,
    byte_eq hb₂, byte_eq hb₃]

theorem encodeChar_four {n : Nat} {b b₂ b₃ b₄ : UInt8} (hn : 0x10000 ≤ n) (hn' : n < 0x110000)
    (hb : 0xF0 + n / 0x40000 = b.toNat) (hb₂ : 0x80 + n / 0x1000 % 0x40 = b₂.toNat)
    (hb₃ : 0x80 + n / 0x40 % 0x40 = b₃.toNat) (hb₄ : 0x80 + n % 0x40 = b₄.toNat) :
    encodeChar (.ofNat n) = [b, b₂, b₃, b₄] := by
  rw [encodeChar, toNat_ofNat (by omega)]
  simp only [if_neg (by omega : ¬ n < 0x80), if_neg (by omega : ¬ n < 0x800),
    if_neg (by omega : ¬ n < 0x10000), byte_eq hb, byte_eq hb₂, byte_eq hb₃, byte_eq hb₄]

/-- The character that is read is written in the bytes that were read. -/
theorem encodeChar_of_decodeChar {b : UInt8} {rest after : List UInt8} {c : Char}
    (h : decodeChar b rest = .ok (c, after)) : encodeChar c ++ after = b :: rest := by
  by_cases hone : b.toNat < 0x80
  · rw [decodeChar, if_pos hone] at h
    cases h
    rw [encodeChar_one hone rfl, List.singleton_append]
  by_cases hnone : b.toNat < 0xC2 ∨ 0xF4 < b.toNat
  · rw [decodeChar, if_neg hone, lead_none hnone] at h
    cases h
  by_cases htwo : b.toNat ≤ 0xDF
  · obtain ⟨n, hn, rfl⟩ := (decodeChar_of_lead hone (lead_two (by omega) htwo)).1 h
    obtain ⟨b₂, _, rfl, hb₂, hn⟩ := continuation_succ.1 hn
    obtain ⟨hn, rfl⟩ := continuation_zero.1 hn
    have hbytes : encodeChar (.ofNat n) = [b, b₂] :=
      encodeChar_two (by omega) (by omega) (by omega) (by omega)
    rw [hbytes]
    rfl
  by_cases hthree : b.toNat ≤ 0xEF
  · obtain ⟨n, hn, rfl⟩ := (decodeChar_of_lead hone (lead_three (by omega) hthree)).1 h
    obtain ⟨b₂, _, rfl, hb₂, hn⟩ := continuation_succ.1 hn
    obtain ⟨b₃, _, rfl, hb₃, hn⟩ := continuation_succ.1 hn
    obtain ⟨hn, rfl⟩ := continuation_zero.1 hn
    -- the first bytes with a range of their own rule out longer forms and surrogates
    have hlo : 0x80 ≤ b₂.toNat ∧ (b.toNat = 0xE0 → 0xA0 ≤ b₂.toNat) := by split at hb₂ <;> omega
    have hhi : b₂.toNat ≤ 0xBF ∧ (b.toNat = 0xED → b₂.toNat ≤ 0x9F) := by
      split at hb₂ <;> split at hb₂ <;> omega
    have hbytes : encodeChar (.ofNat n) = [b, b₂, b₃] :=
      encodeChar_three (by omega) (by omega) (by omega) (by omega) (by omega) (by omega)
    rw [hbytes]
    rfl
  · obtain ⟨n, hn, rfl⟩ := (decodeChar_of_lead hone (lead_four (by omega) (by omega))).1 h
    obtain ⟨b₂, _, rfl, hb₂, hn⟩ := continuation_succ.1 hn
    obtain ⟨b₃, _, rfl, hb₃, hn⟩ := continuation_succ.1 hn
    obtain ⟨b₄, _, rfl, hb₄, hn⟩ := continuation_succ.1 hn
    obtain ⟨hn, rfl⟩ := continuation_zero.1 hn
    have hlo : 0x80 ≤ b₂.toNat ∧ (b.toNat = 0xF0 → 0x90 ≤ b₂.toNat) := by split at hb₂ <;> omega
    have hhi : b₂.toNat ≤ 0xBF ∧ (b.toNat = 0xF4 → b₂.toNat ≤ 0x8F) := by
      split at hb₂ <;> split at hb₂ <;> omega
    have hbytes : encodeChar (.ofNat n) = [b, b₂, b₃, b₄] :=
      encodeChar_four (by omega) (by omega) (by omega) (by omega) (by omega) (by omega)
    rw [hbytes]
    rfl

theorem exists_byte {n : Nat} (h : n < 256) : ∃ b : UInt8, n = b.toNat :=
  ⟨.ofNat n, (UInt8.toNat_ofNat_of_lt' h).symm⟩

/-- A character reads back from its bytes, whatever follows. -/
theorem decodeChar_encodeChar (c : Char) (after : List UInt8) :
    ∃ b rest, encodeChar c = b :: rest ∧ decodeChar b (rest ++ after) = .ok (c, after) := by
  obtain ⟨n, hn, rfl⟩ : ∃ n, (n < 0xD800 ∨ 0xDFFF < n ∧ n < 0x110000) ∧ c = .ofNat n :=
    ⟨c.toNat, toNat_range c, (Char.ofNat_toNat c).symm⟩
  by_cases hone : n < 0x80
  · obtain ⟨b, hb⟩ := exists_byte (n := n) (by omega)
    refine ⟨b, [], encodeChar_one hone hb, ?_⟩
    rw [decodeChar, if_pos (by omega), ← hb]
    rfl
  by_cases htwo : n < 0x800
  · obtain ⟨b, hb⟩ := exists_byte (n := 0xC0 + n / 0x40) (by omega)
    obtain ⟨b₂, hb₂⟩ := exists_byte (n := 0x80 + n % 0x40) (by omega)
    refine ⟨b, [b₂], encodeChar_two (by omega) htwo hb hb₂, ?_⟩
    refine (decodeChar_of_lead (by omega) (lead_two (by omega) (by omega))).2 ⟨n, ?_, rfl⟩
    refine continuation_succ.2 ⟨b₂, after, rfl, by omega, ?_⟩
    exact continuation_zero.2 ⟨by omega, rfl⟩
  by_cases hthree : n < 0x10000
  · obtain ⟨b, hb⟩ := exists_byte (n := 0xE0 + n / 0x1000) (by omega)
    obtain ⟨b₂, hb₂⟩ := exists_byte (n := 0x80 + n / 0x40 % 0x40) (by omega)
    obtain ⟨b₃, hb₃⟩ := exists_byte (n := 0x80 + n % 0x40) (by omega)
    refine ⟨b, [b₂, b₃], encodeChar_three (by omega) hthree (by omega) hb hb₂ hb₃, ?_⟩
    refine (decodeChar_of_lead (by omega) (lead_three (by omega) (by omega))).2 ⟨n, ?_, rfl⟩
    refine continuation_succ.2 ⟨b₂, b₃ :: after, rfl, ⟨?_, ?_⟩, ?_⟩
    · split <;> omega
    · split <;> omega
    refine continuation_succ.2 ⟨b₃, after, rfl, by omega, ?_⟩
    exact continuation_zero.2 ⟨by omega, rfl⟩
  · obtain ⟨b, hb⟩ := exists_byte (n := 0xF0 + n / 0x40000) (by omega)
    obtain ⟨b₂, hb₂⟩ := exists_byte (n := 0x80 + n / 0x1000 % 0x40) (by omega)
    obtain ⟨b₃, hb₃⟩ := exists_byte (n := 0x80 + n / 0x40 % 0x40) (by omega)
    obtain ⟨b₄, hb₄⟩ := exists_byte (n := 0x80 + n % 0x40) (by omega)
    refine ⟨b, [b₂, b₃, b₄], encodeChar_four (by omega) (by omega) hb hb₂ hb₃ hb₄, ?_⟩
    refine (decodeChar_of_lead (by omega) (lead_four (by omega) (by omega))).2 ⟨n, ?_, rfl⟩
    refine continuation_succ.2 ⟨b₂, b₃ :: b₄ :: after, rfl, ⟨?_, ?_⟩, ?_⟩
    · split <;> omega
    · split <;> omega
    refine continuation_succ.2 ⟨b₃, b₄ :: after, rfl, by omega, ?_⟩
    refine continuation_succ.2 ⟨b₄, after, rfl, by omega, ?_⟩
    exact continuation_zero.2 ⟨by omega, rfl⟩

/-! ## Texts -/

theorem encode_cons (c : Char) (text : List Char) : encode (c :: text) = encodeChar c ++ encode text :=
  List.flatMap_cons

theorem encode_of_decodeFrom {position : Nat} {bytes : List UInt8} {text : List Char}
    (h : decodeFrom position bytes = .ok text) : encode text = bytes := by
  fun_induction decodeFrom position bytes generalizing text with
  | case1 => cases h; rfl
  | case2 position b rest length reason hread => cases h
  | case3 position b rest c after hread ih =>
    obtain ⟨tail, htail, rfl⟩ := map_eq_ok.1 h
    rw [encode_cons, ih htail, encodeChar_of_decodeChar hread]

theorem decodeFrom_encode (position : Nat) (text : List Char) :
    decodeFrom position (encode text) = .ok text := by
  induction text generalizing position with
  | nil => rw [encode, List.flatMap_nil, decodeFrom]
  | cons c tail ih =>
    obtain ⟨b, rest, hbytes, hread⟩ := decodeChar_encodeChar c (encode tail)
    rw [encode_cons, hbytes, List.cons_append, decodeFrom]
    split
    · next hfails => rw [hread] at hfails; cases hfails
    · next hsome =>
      rw [hread] at hsome
      cases hsome
      rw [ih]
      rfl

/-- A list of bytes reads as a text exactly if it is how the text is written. -/
theorem decode_eq_ok {bytes : List UInt8} {text : List Char} :
    decode bytes = .ok text ↔ bytes = encode text := by
  constructor
  · intro h
    exact (encode_of_decodeFrom h).symm
  · rintro rfl
    exact decodeFrom_encode 0 text

/-- Bytes that write no text do not read as one. -/
theorem decode_eq_error {bytes : List UInt8} :
    (∃ fault, decode bytes = .error fault) ↔ ∀ text, bytes ≠ encode text := by
  constructor
  · rintro ⟨fault, h⟩ text he
    rw [decode_eq_ok.2 he] at h
    cases h
  · intro h
    cases hread : decode bytes with
    | error fault => exact ⟨fault, rfl⟩
    | ok text => exact absurd (decode_eq_ok.1 hread) (h text)

end ToolSites.Text.Utf8
