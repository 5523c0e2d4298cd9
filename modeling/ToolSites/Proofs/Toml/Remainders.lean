import ToolSites.Proofs.Results
import ToolSites.Toml.Reader
/-!
# What is left of the text

Whatever a reader leaves is a suffix of what it was given: there is one lemma for each reader, up to
values (`suffix_value`) and statements (`suffix_statement`). What a time, a date or a number starts
with is said as well, since that tells them apart.
-/

namespace ToolSites.Toml

open Text (isDigit signPart maxDigits suffix_signPart)

variable {cs rest : List Char}

theorem suffix_skipBlanks (cs : List Char) : skipBlanks cs <:+ cs := List.dropWhile_suffix _

theorem suffix_after? {word : String} (h : after? word cs = some rest) : rest <:+ cs := by
  unfold after? at h
  split at h
  · cases h
    exact List.drop_suffix _ _
  · cases h

/-! ## Strings -/

variable {s : List Char} {multiline : Bool}

theorem prepend_eq_some {before : List Char} {r : Option (List Char × List Char)}
    (h : prepend before r = some (s, rest)) : ∃ t, r = some (t, rest) := by
  obtain ⟨⟨t, after⟩, hr, h⟩ := Option.map_eq_some_iff.1 h
  cases h
  exact ⟨t, hr⟩

theorem suffix_basicRest? (h : basicRest? multiline cs = some (s, rest)) : rest <:+ cs := by
  fun_induction basicRest? multiline cs generalizing s rest with
  | case1 => cases h
  | case2 => cases h; exact List.suffix_cons _ _
  | case3 => cases h; exact (List.drop_suffix _ _).trans (List.suffix_cons _ _)
  | case4 after _ _ ih =>
    obtain ⟨t, h⟩ := prepend_eq_some h
    exact (ih h).trans (List.suffix_cons _ _)
  | case5 => cases h
  | case6 after x tail hescape ih =>
    obtain ⟨t, h⟩ := prepend_eq_some h
    exact ((ih h).trans (suffix_escape? hescape)).trans (List.suffix_cons _ _)
  | case7 => cases h
  | case8 c after _ _ _ ih =>
    obtain ⟨t, h⟩ := prepend_eq_some h
    exact (ih h).trans (List.suffix_cons _ _)

theorem suffix_literalRest? (h : literalRest? multiline cs = some (s, rest)) : rest <:+ cs := by
  fun_induction literalRest? multiline cs generalizing s rest with
  | case1 => cases h
  | case2 => cases h; exact List.suffix_cons _ _
  | case3 => cases h; exact (List.drop_suffix _ _).trans (List.suffix_cons _ _)
  | case4 after _ _ ih =>
    obtain ⟨t, h⟩ := prepend_eq_some h
    exact (ih h).trans (List.suffix_cons _ _)
  | case5 => cases h
  | case6 c after _ _ ih =>
    obtain ⟨t, h⟩ := prepend_eq_some h
    exact (ih h).trans (List.suffix_cons _ _)

theorem suffix_skipLineEnd (cs : List Char) : skipLineEnd cs <:+ cs := by
  unfold skipLineEnd
  split
  · exact List.suffix_cons _ _
  · exact List.suffix_rfl

theorem suffix_extraQuotes {quote : Char} {r : Option (List Char × List Char)}
    (h : r.map (extraQuotes quote) = some (s, rest)) : ∃ t after, r = some (t, after) ∧ rest <:+ after := by
  obtain ⟨⟨t, after⟩, hr, h⟩ := Option.map_eq_some_iff.1 h
  cases h
  exact ⟨t, after, hr, List.drop_suffix _ _⟩

theorem suffix_lineString? (h : lineString? cs = some (s, rest)) : rest <:+ cs := by
  unfold lineString? at h
  split at h
  · exact (suffix_basicRest? h).trans (List.suffix_cons _ _)
  · exact (suffix_literalRest? h).trans (List.suffix_cons _ _)
  · cases h

theorem suffix_string? (h : string? cs = some (s, rest)) : rest <:+ cs := by
  unfold string? at h
  split at h
  · next after _ hafter =>
    obtain ⟨t, body, hbody, hrest⟩ := suffix_extraQuotes h
    exact hrest.trans ((suffix_basicRest? hbody).trans ((suffix_skipLineEnd _).trans (suffix_after? hafter)))
  · next after hafter =>
    obtain ⟨t, body, hbody, hrest⟩ := suffix_extraQuotes h
    exact hrest.trans ((suffix_literalRest? hbody).trans ((suffix_skipLineEnd _).trans (suffix_after? hafter)))
  · exact suffix_lineString? h

/-! ## Keys -/

theorem suffix_keyPart? {part : String} (h : keyPart? cs = some (part, rest)) : rest <:+ cs := by
  unfold keyPart? at h
  split at h
  · cases h
  · split at h
    · cases h
      exact List.dropWhile_suffix _
    · obtain ⟨⟨s, after⟩, hs, h⟩ := Option.map_eq_some_iff.1 h
      cases h
      exact suffix_lineString? hs

theorem suffix_keyRest? {fuel : Nat} {parts : List String} (h : keyRest? fuel cs = some (parts, rest)) :
    rest <:+ cs := by
  fun_induction keyRest? fuel cs generalizing parts rest with
  | case1 fuel after ih =>
    obtain ⟨⟨part, tail⟩, hpart, h⟩ := Option.bind_eq_some_iff.1 h
    obtain ⟨⟨more, last⟩, hmore, h⟩ := Option.bind_eq_some_iff.1 h
    cases h
    have hpart := (suffix_keyPart? hpart).trans ((suffix_skipBlanks _).trans (List.suffix_cons '.' after))
    exact ((ih _ hmore).trans (suffix_skipBlanks _)).trans hpart
  | case2 => cases h; exact List.suffix_rfl

theorem suffix_key? {key : List String} (h : key? cs = some (key, rest)) : rest <:+ cs := by
  obtain ⟨⟨part, tail⟩, hpart, h⟩ := Option.bind_eq_some_iff.1 h
  obtain ⟨⟨more, last⟩, hmore, h⟩ := Option.bind_eq_some_iff.1 h
  cases h
  exact ((suffix_keyRest? hmore).trans (suffix_skipBlanks _)).trans (suffix_keyPart? hpart)

/-! ## Dates and times -/

theorem twoDigits?_eq_some {most n : Nat} (h : twoDigits? most cs = some (n, rest)) :
    ∃ a b, isDigit a ∧ isDigit b ∧ cs = a :: b :: rest := by
  unfold twoDigits? at h
  split at h
  · next a b after =>
    split at h
    · next hdigits =>
      cases h
      simp only [Bool.and_eq_true] at hdigits
      exact ⟨a, b, hdigits.1.1, hdigits.1.2, rfl⟩
    · cases h
  · cases h

theorem afterChar?_eq_some {c : Char} (h : afterChar? c cs = some rest) : cs = c :: rest := by
  unfold afterChar? at h
  split at h
  · split at h
    · next hc => cases h; rw [hc]
    · cases h
  · cases h

/-- A time starts with two digits and a colon. -/
theorem time?_eq_some (h : time? cs = some rest) :
    ∃ a b after, isDigit a ∧ isDigit b ∧ cs = a :: b :: ':' :: after ∧ rest <:+ after := by
  obtain ⟨⟨_, colon⟩, hhour, h⟩ := Option.bind_eq_some_iff.1 h
  obtain ⟨after, hcolon, h⟩ := Option.bind_eq_some_iff.1 h
  obtain ⟨⟨_, second⟩, hminute, h⟩ := Option.bind_eq_some_iff.1 h
  obtain ⟨seconds, hsecond, h⟩ := Option.bind_eq_some_iff.1 h
  obtain ⟨⟨_, fraction⟩, hseconds, hlast⟩ := Option.bind_eq_some_iff.1 h
  obtain ⟨a, b, ha, hb, rfl⟩ := twoDigits?_eq_some hhour
  obtain rfl := afterChar?_eq_some hcolon
  obtain ⟨c, d, -, -, rfl⟩ := twoDigits?_eq_some hminute
  obtain rfl := afterChar?_eq_some hsecond
  obtain ⟨e, f, -, -, rfl⟩ := twoDigits?_eq_some hseconds
  refine ⟨a, b, _, ha, hb, rfl, ?_⟩
  have hrest : rest <:+ fraction := by
    dsimp only at hlast
    split at hlast
    · cases hlast
      split
      · exact (List.dropWhile_suffix _).trans ⟨['.', _], rfl⟩
      · exact List.suffix_rfl
    · cases hlast
      exact List.suffix_rfl
  exact hrest.trans ⟨[c, d, ':', e, f], rfl⟩

theorem suffix_time? (h : time? cs = some rest) : rest <:+ cs := by
  obtain ⟨a, b, after, -, -, rfl, hrest⟩ := time?_eq_some h
  exact hrest.trans ⟨[a, b, ':'], rfl⟩

theorem suffix_getD {r : Option (List Char)} (h : ∀ rest, r = some rest → rest <:+ cs) : r.getD cs <:+ cs := by
  cases r with
  | none => exact List.suffix_rfl
  | some rest => exact h rest rfl

theorem suffix_offset (cs : List Char) : offset cs <:+ cs := by
  unfold offset
  split
  · exact List.suffix_rfl
  next c after =>
  split
  · exact List.suffix_cons _ _
  split
  · refine suffix_getD fun tail hread => ?_
    obtain ⟨⟨_, colon⟩, hhour, hread⟩ := Option.bind_eq_some_iff.1 hread
    obtain ⟨minute, hcolon, hread⟩ := Option.bind_eq_some_iff.1 hread
    obtain ⟨⟨_, last⟩, hminute, hread⟩ := Option.bind_eq_some_iff.1 hread
    cases hread
    obtain ⟨a, b, -, -, rfl⟩ := twoDigits?_eq_some hhour
    obtain rfl := afterChar?_eq_some hcolon
    obtain ⟨d, e, -, -, rfl⟩ := twoDigits?_eq_some hminute
    exact ⟨[c, a, b, ':', d, e], rfl⟩
  · exact List.suffix_rfl

/-- A date starts with four digits and a hyphen. -/
theorem date?_eq_some {day : Nat × Nat × Nat} (h : date? cs = some (day, rest)) :
    ∃ a b c d after, isDigit a ∧ cs = a :: b :: c :: d :: '-' :: after ∧ rest <:+ after := by
  obtain ⟨⟨_, low⟩, hhigh, h⟩ := Option.bind_eq_some_iff.1 h
  obtain ⟨⟨_, hyphen⟩, hlow, h⟩ := Option.bind_eq_some_iff.1 h
  obtain ⟨month, hmonth, h⟩ := Option.bind_eq_some_iff.1 h
  obtain ⟨⟨_, second⟩, hmonths, h⟩ := Option.bind_eq_some_iff.1 h
  obtain ⟨date, hdate, h⟩ := Option.bind_eq_some_iff.1 h
  obtain ⟨⟨_, last⟩, hdays, hlast⟩ := Option.bind_eq_some_iff.1 h
  obtain ⟨a, b, ha, -, rfl⟩ := twoDigits?_eq_some hhigh
  obtain ⟨c, d, -, -, rfl⟩ := twoDigits?_eq_some hlow
  obtain rfl := afterChar?_eq_some hmonth
  obtain ⟨e, f, -, -, rfl⟩ := twoDigits?_eq_some hmonths
  obtain rfl := afterChar?_eq_some hdate
  obtain ⟨i, j, -, -, rfl⟩ := twoDigits?_eq_some hdays
  dsimp only at hlast
  split at hlast
  · cases hlast
  · cases hlast
    exact ⟨a, b, c, d, _, ha, rfl, ⟨[e, f, '-', i, j], rfl⟩⟩

theorem suffix_date? {day : Nat × Nat × Nat} (h : date? cs = some (day, rest)) : rest <:+ cs := by
  obtain ⟨a, b, c, d, after, -, rfl, hrest⟩ := date?_eq_some h
  exact hrest.trans ⟨[a, b, c, d, '-'], rfl⟩

theorem suffix_moment (h : moment cs = .found rest) : rest <:+ cs := by
  unfold moment at h
  split at h
  · next day after hdate =>
    refine List.IsSuffix.trans ?_ (suffix_date? hdate)
    split at h
    · cases h
    split at h
    · next c tail =>
      split at h
      · split at h
        · next last htime =>
          cases h
          exact ((suffix_offset _).trans (suffix_time? htime)).trans (List.suffix_cons _ _)
        · cases h
          exact List.suffix_rfl
      · cases h
        exact List.suffix_rfl
    · cases h
      exact List.suffix_rfl
  · split at h
    · next htime =>
      cases h
      exact suffix_time? htime
    · cases h

/-! ## Numbers -/

variable {base : Nat} {digits : List Char}

theorem suffix_moreDigits (base : Nat) (cs : List Char) : (moreDigits base cs).2 <:+ cs := by
  fun_induction moreDigits base cs with
  | case1 => exact List.suffix_rfl
  | case2 d after _ digits rest hmore ih =>
    rw [hmore] at ih
    exact ih.trans ⟨['_', d], rfl⟩
  | case3 => exact List.suffix_rfl
  | case4 d after _ _ digits rest hmore ih =>
    rw [hmore] at ih
    exact ih.trans (List.suffix_cons _ _)
  | case5 => exact List.suffix_rfl

theorem suffix_digits? (h : digits? base cs = some (digits, rest)) : rest <:+ cs := by
  unfold digits? at h
  split at h
  · cases h
  · split at h
    · cases h
      exact (suffix_moreDigits _ _).trans (List.suffix_cons _ _)
    · cases h

theorem suffix_basedInteger? {n : Int} (h : basedInteger? cs = some (n, rest)) : rest <:+ cs := by
  unfold basedInteger? at h
  split at h
  · next letter after =>
    obtain ⟨base, -, h⟩ := Option.bind_eq_some_iff.1 h
    obtain ⟨⟨digits, last⟩, hdigits, h⟩ := Option.bind_eq_some_iff.1 h
    cases h
    exact (suffix_digits? hdigits).trans ⟨['0', letter], rfl⟩
  · cases h

theorem suffix_wholePart? (h : wholePart? cs = some (digits, rest)) : rest <:+ cs := by
  unfold wholePart? at h
  split at h
  · cases h
    exact List.suffix_cons _ _
  · exact suffix_digits? h

theorem suffix_fractionDigits? (h : fractionDigits? cs = some (digits, rest)) : rest <:+ cs := by
  unfold fractionDigits? at h
  split at h
  · exact (suffix_digits? h).trans (List.suffix_cons _ _)
  · cases h

theorem suffix_powerOfTen? {power : Int} (h : powerOfTen? cs = some (power, rest)) : rest <:+ cs := by
  unfold powerOfTen? at h
  split at h
  · next e after =>
    split at h
    · obtain ⟨⟨digits, last⟩, hdigits, h⟩ := Option.bind_eq_some_iff.1 h
      cases h
      exact ((suffix_digits? hdigits).trans (suffix_signPart _)).trans (List.suffix_cons _ _)
    · cases h
  · cases h

theorem suffix_named? {n : Number} (h : named? cs = some (n, rest)) : rest <:+ cs := by
  unfold named? at h
  dsimp only at h
  split at h
  · cases h
    exact (List.drop_suffix _ _).trans (suffix_signPart _)
  · split at h
    · cases h
      exact (List.drop_suffix _ _).trans (suffix_signPart _)
    · cases h

/-- A decimal number that has too many digits is an integer. -/
theorem decimal?_eq_some {n : Number} (h : decimal? cs = some (n, rest)) :
    ∃ whole after, wholePart? (signPart cs).2 = some (whole, after) ∧ rest <:+ after ∧
      ∀ count, n = .tooManyDigits count → rest = after ∧ fractionDigits? after = none ∧
        powerOfTen? after = none ∧ whole.length = count ∧ maxDigits < count := by
  unfold decimal? at h
  obtain ⟨⟨whole, after⟩, hwhole, h⟩ := Option.bind_eq_some_iff.1 h
  refine ⟨whole, after, hwhole, ?_⟩
  dsimp only at h
  cases hfraction : fractionDigits? after with
  | none =>
    rw [hfraction] at h
    dsimp only at h
    cases hpower : powerOfTen? after with
    | none =>
      rw [hpower] at h
      dsimp only at h
      split at h
      · next hlong =>
        cases h
        refine ⟨List.suffix_rfl, fun count hn => ?_⟩
        cases hn
        exact ⟨rfl, rfl, rfl, rfl, hlong⟩
      · cases h
        exact ⟨List.suffix_rfl, nofun⟩
    | some power =>
      rw [hpower] at h
      cases h
      exact ⟨suffix_powerOfTen? hpower, nofun⟩
  | some fraction =>
    rw [hfraction] at h
    dsimp only at h
    have hfirst := suffix_fractionDigits? hfraction
    cases hpower : powerOfTen? fraction.2 with
    | none =>
      rw [hpower] at h
      cases h
      exact ⟨hfirst, nofun⟩
    | some power =>
      rw [hpower] at h
      cases h
      exact ⟨(suffix_powerOfTen? hpower).trans hfirst, nofun⟩

theorem suffix_number? {n : Number} (h : number? cs = some (n, rest)) : rest <:+ cs := by
  unfold number? at h
  split at h
  · next hbased =>
    cases h
    exact suffix_basedInteger? hbased
  · rcases Option.or_eq_some_iff.1 h with h | ⟨-, h⟩
    · obtain ⟨whole, after, hwhole, hrest, -⟩ := decimal?_eq_some h
      exact (hrest.trans (suffix_wholePart? hwhole)).trans (suffix_signPart cs)
    · exact suffix_named? h

/-! ## Values -/

theorem orMalformed_eq_ok {α : Type} {x : Option α} {a : α} : orMalformed x = .ok a ↔ x = some a := by
  cases x <;> simp [orMalformed]

theorem suffix_comment? (h : comment? cs = some rest) : rest <:+ cs := by
  unfold comment? at h
  split at h
  · split at h
    · cases h
    · cases h
      exact (List.dropWhile_suffix _).trans (List.suffix_cons _ _)
  · cases h
    exact List.suffix_rfl

theorem suffix_skipSpace? {fuel : Nat} (h : skipSpace? fuel cs = some rest) : rest <:+ cs := by
  induction fuel generalizing cs with
  | zero => cases h; exact List.suffix_rfl
  | succ fuel ih =>
    unfold skipSpace? at h
    split at h
    · next after hafter =>
      obtain ⟨tail, htail, h⟩ := Option.bind_eq_some_iff.1 h
      have hcomment : '#' :: after <:+ cs := hafter ▸ List.dropWhile_suffix _
      exact ((ih h).trans (suffix_comment? htail)).trans hcomment
    · cases h
      exact List.dropWhile_suffix _

theorem suffix_skipAll (h : skipAll cs = .ok rest) : rest <:+ cs :=
  suffix_skipSpace? (orMalformed_eq_ok.1 h)

theorem suffix_scalar {v : Value} (h : scalar cs = .ok (v, rest)) : rest <:+ cs := by
  unfold scalar at h
  split at h
  · cases h
  split at h
  · obtain ⟨⟨s, after⟩, hs, h⟩ := Option.map_eq_some_iff.1 (orMalformed_eq_ok.1 h)
    cases h
    exact suffix_string? hs
  split at h
  · next hafter =>
    cases h
    exact suffix_after? hafter
  · next hafter =>
    cases h
    exact suffix_after? hafter
  split at h
  · cases h
  · next hmoment =>
    cases h
    exact suffix_moment hmoment
  split at h
  · next hnumber =>
    cases h
    exact suffix_number? hnumber
  · cases h
  · cases h

theorem keyAndSign_eq_ok {key : KeyPath} : keyAndSign cs = .ok (key, rest) ↔
    ∃ after, key? cs = some (key, '=' :: after) ∧ skipBlanks after = rest := by
  constructor
  · intro h
    obtain ⟨⟨path, tail⟩, hkey, h⟩ := bind_eq_ok.1 h
    split at h
    · next after he =>
      cases he
      cases h
      exact ⟨after, orMalformed_eq_ok.1 hkey, rfl⟩
    · cases h
  · rintro ⟨after, hkey, rfl⟩
    unfold keyAndSign
    rw [hkey]
    rfl

theorem suffix_keyAndSign {key : KeyPath} (h : keyAndSign cs = .ok (key, rest)) : rest <:+ cs.tail := by
  obtain ⟨after, hkey, rfl⟩ := keyAndSign_eq_ok.1 h
  obtain ⟨before, rfl⟩ := suffix_key? hkey
  refine (suffix_skipBlanks after).trans ?_
  cases before with
  | nil => exact List.suffix_rfl
  | cons c before => exact (List.suffix_cons '=' after).trans (List.suffix_append before _)

theorem length_keyAndSign {key : KeyPath} (h : keyAndSign cs = .ok (key, rest)) : rest.length < cs.length := by
  obtain ⟨after, hkey, rfl⟩ := keyAndSign_eq_ok.1 h
  exact Nat.lt_of_le_of_lt (suffix_skipBlanks after).length_le (suffix_key? hkey).length_le

variable {v : Value} {fuel depth : Nat}

/-- What the readers of values leave is a suffix, with the fuel that they share. -/
structure LeavesSuffix [Host] (fuel : Nat) : Prop where
  value : ∀ {depth cs rest v}, value fuel depth cs = .ok (v, rest) → rest <:+ cs
  items : ∀ {depth before cs rest v}, items fuel depth before cs = .ok (v, rest) → rest <:+ cs
  fields : ∀ {depth before pieces cs rest v}, inlineFields fuel depth before pieces cs = .ok (v, rest) →
    rest <:+ cs

theorem LeavesSuffix.value_succ [Host] (hf : LeavesSuffix fuel)
    (h : Toml.value (fuel + 1) depth cs = .ok (v, rest)) : rest <:+ cs := by
  unfold Toml.value at h
  split at h
  case isFalse => cases h
  split at h
  · next tail _ =>
    refine List.IsSuffix.trans ?_ (List.suffix_cons _ tail)
    obtain ⟨after, hafter, h⟩ := bind_eq_ok.1 h
    split at h
    · cases h
      exact (List.suffix_cons _ _).trans (suffix_skipAll hafter)
    · exact (hf.items h).trans (suffix_skipAll hafter)
  · next tail _ =>
    refine List.IsSuffix.trans ?_ ((suffix_skipBlanks tail).trans (List.suffix_cons _ tail))
    split at h
    · next after hafter =>
      cases h
      exact hafter ▸ List.suffix_cons _ _
    · exact hf.fields h
  · exact suffix_scalar h

theorem LeavesSuffix.items_succ [Host] (hf : LeavesSuffix fuel) {before : List Value}
    (h : Toml.items (fuel + 1) depth before cs = .ok (v, rest)) : rest <:+ cs := by
  unfold Toml.items at h
  obtain ⟨⟨first, tail⟩, hfirst, h⟩ := bind_eq_ok.1 h
  obtain ⟨after, hafter, h⟩ := bind_eq_ok.1 h
  refine List.IsSuffix.trans ?_ ((suffix_skipAll hafter).trans (hf.value hfirst))
  split at h
  · cases h
    exact List.suffix_cons _ _
  · next more =>
    obtain ⟨next, hnext, h⟩ := bind_eq_ok.1 h
    refine List.IsSuffix.trans ?_ ((suffix_skipAll hnext).trans (List.suffix_cons _ more))
    split at h
    · cases h
      exact List.suffix_cons _ _
    · exact hf.items h
  · cases h

theorem LeavesSuffix.fields_succ [Host] (hf : LeavesSuffix fuel) {before : Fields} {pieces : List KeyPath}
    (h : inlineFields (fuel + 1) depth before pieces cs = .ok (v, rest)) : rest <:+ cs := by
  unfold inlineFields at h
  obtain ⟨⟨key, start⟩, hkey, h⟩ := bind_eq_ok.1 h
  obtain ⟨⟨first, tail⟩, hfirst, h⟩ := bind_eq_ok.1 h
  have htail := ((suffix_skipBlanks tail).trans (hf.value hfirst)).trans
    ((suffix_keyAndSign hkey).trans (List.tail_suffix cs))
  dsimp only at h
  split at h
  · cases h
  obtain ⟨fields, -, h⟩ := bind_eq_ok.1 h
  refine List.IsSuffix.trans ?_ htail
  split at h
  · next hafter =>
    cases h
    exact hafter ▸ List.suffix_cons _ _
  · next more hmore =>
    rw [hmore]
    exact ((hf.fields h).trans (suffix_skipBlanks more)).trans (List.suffix_cons _ more)
  · cases h

theorem leavesSuffix [Host] (fuel : Nat) : LeavesSuffix fuel := by
  induction fuel with
  | zero => exact ⟨nofun, nofun, nofun⟩
  | succ fuel ih => exact ⟨ih.value_succ, ih.items_succ, ih.fields_succ⟩

theorem suffix_value [Host] (h : value fuel depth cs = .ok (v, rest)) : rest <:+ cs := (leavesSuffix fuel).value h

/-! ## Statements -/

theorem suffix_headerPath {closing : String} {path : KeyPath} (h : headerPath closing cs = .ok (path, rest)) :
    rest <:+ cs := by
  obtain ⟨⟨key, tail⟩, hkey, h⟩ := bind_eq_ok.1 h
  obtain ⟨after, hafter, h⟩ := bind_eq_ok.1 h
  cases h
  have hkey := (suffix_key? (orMalformed_eq_ok.1 hkey)).trans (suffix_skipBlanks cs)
  exact (suffix_after? (orMalformed_eq_ok.1 hafter)).trans hkey

theorem suffix_statement [Host] {d draft : Draft} (h : statement d cs = .ok (draft, rest)) : rest <:+ cs := by
  unfold statement at h
  split at h
  · cases h
    exact List.suffix_rfl
  · obtain ⟨⟨path, tail⟩, hpath, h⟩ := bind_eq_ok.1 h
    obtain ⟨opened, -, h⟩ := bind_eq_ok.1 h
    cases h
    exact (suffix_headerPath hpath).trans ⟨['[', '['], rfl⟩
  · obtain ⟨⟨path, tail⟩, hpath, h⟩ := bind_eq_ok.1 h
    obtain ⟨opened, -, h⟩ := bind_eq_ok.1 h
    cases h
    exact (suffix_headerPath hpath).trans (List.suffix_cons _ _)
  · split at h
    · cases h
      exact List.suffix_rfl
    · obtain ⟨⟨key, start⟩, hkey, h⟩ := bind_eq_ok.1 h
      obtain ⟨⟨v, tail⟩, hv, h⟩ := bind_eq_ok.1 h
      obtain ⟨assigned, -, h⟩ := bind_eq_ok.1 h
      cases h
      exact (suffix_value hv).trans ((suffix_keyAndSign hkey).trans (List.tail_suffix _))

end ToolSites.Toml
