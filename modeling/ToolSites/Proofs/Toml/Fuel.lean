import ToolSites.Proofs.Toml.Remainders
/-!
# Reading without fuel

The fuel of the readers bounds how often they call each other. Two bounds that are large enough for
the text give the same (`agree`, `congr_statements`), so that the bound is never met. `valueAt`,
`itemsAt`, `fieldsAt` and `statementsAt` are the readers without it; how each goes on after a part that
was read, and that it fails with a part that fails, is said by one lemma for each.
-/

namespace ToolSites.Toml

open Text (isDigit)

variable {cs : List Char} {fuel depth : Nat}

/-! ## Values -/

/-- Two bounds give the same for all texts for which they are large enough. Arrays and tables take one step
more than their first item or field. -/
structure Agree [Host] (n m : Nat) : Prop where
  value : ∀ depth cs, 2 * cs.length < n → 2 * cs.length < m → value n depth cs = value m depth cs
  items : ∀ depth before cs, 2 * cs.length + 1 < n → 2 * cs.length + 1 < m →
    items n depth before cs = items m depth before cs
  fields : ∀ depth before pieces cs, 2 * cs.length + 1 < n → 2 * cs.length + 1 < m →
    inlineFields n depth before pieces cs = inlineFields m depth before pieces cs

variable {n m : Nat}

theorem Agree.value_succ [Host] (h : Agree n m) (hn : 2 * cs.length < n + 1) (hm : 2 * cs.length < m + 1) :
    Toml.value (n + 1) depth cs = Toml.value (m + 1) depth cs := by
  unfold Toml.value
  split
  case isFalse => rfl
  split
  · next tail _ =>
    rw [List.length_cons] at hn hm
    refine bind_congr_ok fun after hafter => ?_
    have hlength := (suffix_skipAll hafter).length_le
    split
    · rfl
    · exact h.items _ _ _ (by omega) (by omega)
  · next tail _ =>
    rw [List.length_cons] at hn hm
    have hlength := (suffix_skipBlanks tail).length_le
    split
    · rfl
    · exact h.fields _ _ _ _ (by omega) (by omega)
  · rfl

/-- The next item stands after a comma. -/
theorem Agree.items_succ [Host] (h : Agree n m) {before : List Value} (hn : 2 * cs.length + 1 < n + 1)
    (hm : 2 * cs.length + 1 < m + 1) :
    Toml.items (n + 1) depth before cs = Toml.items (m + 1) depth before cs := by
  unfold Toml.items
  rw [h.value depth cs (by omega) (by omega)]
  refine bind_congr_ok fun first hfirst => bind_congr_ok fun after hafter => ?_
  have hlength := ((suffix_skipAll hafter).trans (suffix_value hfirst)).length_le
  split
  · rfl
  · next more =>
    rw [List.length_cons] at hlength
    refine bind_congr_ok fun next hnext => ?_
    have hnext := (suffix_skipAll hnext).length_le
    split
    · rfl
    · exact h.items _ _ _ (by omega) (by omega)
  · rfl

/-- The value of a field stands after an equals sign, and the next field after a comma. -/
theorem Agree.fields_succ [Host] (h : Agree n m) {before : Fields} {pieces : List KeyPath}
    (hn : 2 * cs.length + 1 < n + 1) (hm : 2 * cs.length + 1 < m + 1) :
    inlineFields (n + 1) depth before pieces cs = inlineFields (m + 1) depth before pieces cs := by
  unfold inlineFields
  refine bind_congr_ok fun field hkey => ?_
  obtain ⟨key, start⟩ := field
  have hstart := length_keyAndSign hkey
  dsimp only at hstart ⊢
  rw [h.value depth start (by omega) (by omega)]
  refine bind_congr_ok fun read hread => ?_
  obtain ⟨v, tail⟩ := read
  dsimp only
  split
  · rfl
  refine bind_congr_ok fun fields _ => ?_
  have hlength := ((suffix_skipBlanks tail).trans (suffix_value hread)).length_le
  split
  · rfl
  · next more hmore =>
    rw [hmore, List.length_cons] at hlength
    have hnext := (suffix_skipBlanks more).length_le
    exact h.fields _ _ _ _ (by omega) (by omega)
  · rfl

/-- Fuel for every character twice is enough, and it does not matter how much there is. -/
theorem agree [Host] (n m : Nat) : Agree n m := by
  have hzero : ∀ {p : Prop} {k : Nat}, k < 0 → p := fun h => absurd h (Nat.not_lt_zero _)
  induction n generalizing m with
  | zero => exact ⟨fun _ _ h _ => hzero h, fun _ _ _ h _ => hzero h, fun _ _ _ _ h _ => hzero h⟩
  | succ n ih =>
    cases m with
    | zero => exact ⟨fun _ _ _ h => hzero h, fun _ _ _ _ h => hzero h, fun _ _ _ _ _ h => hzero h⟩
    | succ m =>
      exact ⟨fun _ _ => (ih m).value_succ, fun _ _ _ => (ih m).items_succ,
        fun _ _ _ _ => (ih m).fields_succ⟩

/-- A value inside of so many arrays and inline tables, without fuel. -/
def valueAt [Host] (depth : Nat) (cs : List Char) : Except ReadError (Value × List Char) :=
  value (2 * cs.length + 1) depth cs

/-- The items of an array, without fuel. -/
def itemsAt [Host] (depth : Nat) (before : List Value) (cs : List Char) :
    Except ReadError (Value × List Char) := items (2 * cs.length + 2) depth before cs

/-- The fields of an inline table, without fuel. -/
def fieldsAt [Host] (depth : Nat) (before : Fields) (pieces : List KeyPath) (cs : List Char) :
    Except ReadError (Value × List Char) := inlineFields (2 * cs.length + 2) depth before pieces cs

theorem value_eq [Host] (h : 2 * cs.length < fuel) : value fuel depth cs = valueAt depth cs :=
  (agree _ _).value depth cs h (Nat.lt_succ_self _)

theorem items_eq [Host] {before : List Value} (h : 2 * cs.length + 1 < fuel) :
    items fuel depth before cs = itemsAt depth before cs :=
  (agree _ _).items depth before cs h (Nat.lt_succ_self _)

theorem inlineFields_eq [Host] {before : Fields} {pieces : List KeyPath} (h : 2 * cs.length + 1 < fuel) :
    inlineFields fuel depth before pieces cs = fieldsAt depth before pieces cs :=
  (agree _ _).fields depth before pieces cs h (Nat.lt_succ_self _)

variable {rest after : List Char} {v : Value} {e : ReadError}

theorem valueAt_of_array [Host] (hfollows : Host.follows depth ('[' :: cs) = true)
    (h : skipAll cs = .ok after) (hopen : ∀ tail, after ≠ ']' :: tail) :
    valueAt depth ('[' :: cs) = itemsAt (depth + 1) [] after := by
  have hlength := (suffix_skipAll h).length_le
  unfold valueAt value
  rw [if_pos hfollows]
  refine (bind_of_ok h).trans ?_
  split
  · exact absurd rfl (hopen _)
  · exact items_eq (by rw [List.length_cons]; omega)

theorem valueAt_of_table [Host] (hfollows : Host.follows depth ('\x7b' :: cs) = true)
    (hopen : ∀ tail, skipBlanks cs ≠ '\x7d' :: tail) :
    valueAt depth ('\x7b' :: cs) = fieldsAt (depth + 1) [] [] (skipBlanks cs) := by
  have hlength := (suffix_skipBlanks cs).length_le
  unfold valueAt value
  rw [if_pos hfollows]
  split
  · next he => cases he
  · next he =>
    cases he
    split
    · next hclosed => exact absurd hclosed (hopen _)
    · exact inlineFields_eq (by rw [List.length_cons]; omega)
  · next hother => exact absurd rfl (hother cs)

/-- An array goes on after a comma, unless it is closed there. -/
theorem itemsAt_of_next [Host] {before : List Value} {more : List Char} (hv : valueAt depth cs = .ok (v, rest))
    (hcomma : skipAll rest = .ok (',' :: more)) (h : skipAll more = .ok after)
    (hopen : ∀ tail, after ≠ ']' :: tail) : itemsAt depth before cs = itemsAt depth (v :: before) after := by
  have hlength := ((suffix_skipAll hcomma).trans (suffix_value hv)).length_le
  have hafter := (suffix_skipAll h).length_le
  rw [List.length_cons] at hlength
  rw [itemsAt, items]
  refine (bind_of_ok hv).trans ((bind_of_ok hcomma).trans ((bind_of_ok h).trans ?_))
  split
  · exact absurd rfl (hopen _)
  · exact items_eq (by omega)

theorem itemsAt_of_error [Host] {before : List Value} (h : valueAt depth cs = .error e) :
    itemsAt depth before cs = .error e := by
  rw [itemsAt, items]
  exact bind_of_error h

/-- An inline table goes on after a comma. -/
theorem fieldsAt_of_next [Host] {before fields : Fields} {pieces : List KeyPath} {key : KeyPath}
    {tail more : List Char} (hkey : keyAndSign cs = .ok (key, rest)) (hv : valueAt depth rest = .ok (v, tail))
    (hpieces : pieces.any (·.isPrefixOf key) = false) (hfields : addAt? false key v before = some fields)
    (hcomma : skipBlanks tail = ',' :: more) : fieldsAt depth before pieces cs =
      fieldsAt depth fields (if isPiece v then key :: pieces else pieces) (skipBlanks more) := by
  have hrest := length_keyAndSign hkey
  have hlength := ((suffix_skipBlanks tail).trans (suffix_value hv)).length_le
  have hmore := (suffix_skipBlanks more).length_le
  rw [hcomma, List.length_cons] at hlength
  rw [fieldsAt, inlineFields]
  refine (bind_of_ok hkey).trans ((bind_of_ok ((value_eq (by omega)).trans hv)).trans ?_)
  dsimp only
  rw [hpieces, if_neg Bool.false_ne_true]
  refine (bind_of_ok (orMalformed_eq_ok.2 hfields)).trans ?_
  rw [hcomma]
  exact inlineFields_eq (by omega)

theorem fieldsAt_of_error [Host] {before : Fields} {pieces : List KeyPath} {key : KeyPath}
    (hkey : keyAndSign cs = .ok (key, rest)) (h : valueAt depth rest = .error e) :
    fieldsAt depth before pieces cs = .error e := by
  have hrest := length_keyAndSign hkey
  rw [fieldsAt, inlineFields]
  exact (bind_of_ok hkey).trans (bind_of_error ((value_eq (by omega)).trans h))

/-! ## Statements -/

/-- A key starts with a character of a bare word or a quote. -/
theorem exists_of_key? {key : List String} {rest : List Char} (h : key? cs = some (key, rest)) :
    ∃ c tail, cs = c :: tail ∧ (isBare c = true ∨ c = '"' ∨ c = '\'') := by
  obtain ⟨⟨part, after⟩, hpart, -⟩ := Option.bind_eq_some_iff.1 h
  unfold keyPart? at hpart
  split at hpart
  · cases hpart
  next c tail =>
  refine ⟨c, tail, rfl, ?_⟩
  split at hpart
  · next hbare => exact .inl hbare
  · obtain ⟨⟨s, after⟩, hs, -⟩ := Option.map_eq_some_iff.1 hpart
    unfold lineString? at hs
    split at hs
    · next he => cases he; exact .inr (.inl rfl)
    · next he => cases he; exact .inr (.inr rfl)
    · cases hs

theorem exists_of_keyAndSign {key : KeyPath} {rest : List Char} (h : keyAndSign cs = .ok (key, rest)) :
    ∃ c tail, cs = c :: tail ∧ (isBare c = true ∨ c = '"' ∨ c = '\'') := by
  obtain ⟨after, hkey, -⟩ := keyAndSign_eq_ok.1 h
  exact exists_of_key? hkey

/-- No statement starts with the end of a line. -/
theorem statement_ne_ok [Host] {d draft : Draft} {rest : List Char} :
    statement d ('\n' :: cs) ≠ .ok (draft, rest) := by
  intro h
  unfold statement at h
  split at h
  · next he => cases he
  · next he => cases he
  · next he => cases he
  · next he =>
    cases he
    split at h
    · next hmark => cases hmark
    · obtain ⟨⟨key, start⟩, hkey, -⟩ := bind_eq_ok.1 h
      obtain ⟨c, tail, he, hc⟩ := exists_of_keyAndSign hkey
      cases he
      simp [isBare, isDigit] at hc

theorem statement_of_key [Host] {d : Draft} {key : KeyPath} {rest : List Char} (h : keyAndSign cs = .ok (key, rest)) :
    statement d cs = valueAt 0 rest >>= fun r => orMalformed (d.assign? key r.1) >>= fun draft =>
      .ok (draft, r.2) := by
  obtain ⟨c, tail, rfl, hc⟩ := exists_of_keyAndSign h
  unfold statement
  split
  · next he => cases he
  · next he => cases he; simp [isBare, isDigit] at hc
  · next he => cases he; simp [isBare, isDigit] at hc
  · next he =>
    cases he
    split
    · next hmark => subst hmark; simp [isBare, isDigit] at hc
    · rw [h]
      rfl

/-- Fuel for every character is enough for the statements, and it does not matter how much. -/
theorem congr_statements [Host] {d : Draft} (hn : cs.length < n) (hm : cs.length < m) :
    statements n d cs = statements m d cs := by
  induction n generalizing m d cs with
  | zero => cases hn
  | succ n ih =>
    cases m with
    | zero => cases hm
    | succ m =>
      unfold statements
      have hblanks := (suffix_skipBlanks cs).length_le
      split
      · rfl
      · next rest hrest =>
        rw [hrest, List.length_cons] at hblanks
        exact ih (by omega) (by omega)
      refine bind_congr_ok fun read hread => bind_congr_ok fun after hafter => ?_
      have hlength := (suffix_comment? (orMalformed_eq_ok.1 hafter)).length_le
      have htail := ((suffix_skipBlanks read.2).trans (suffix_statement hread)).length_le
      split
      · rfl
      · next rest =>
        rw [List.length_cons] at hlength
        exact ih (by omega) (by omega)
      · rfl

/-- Statements, without fuel. -/
def statementsAt [Host] (d : Draft) (cs : List Char) : Except ReadError Fields := statements (cs.length + 1) d cs

theorem statements_eq [Host] {d : Draft} (h : cs.length < fuel) : statements fuel d cs = statementsAt d cs :=
  congr_statements h (Nat.lt_succ_self _)

theorem statementsAt_of_emptyLine [Host] {d : Draft} (h : skipBlanks cs = '\n' :: rest) :
    statementsAt d cs = statementsAt d rest := by
  have hlength := (suffix_skipBlanks cs).length_le
  rw [h, List.length_cons] at hlength
  rw [statementsAt, statements, h]
  exact statements_eq (by omega)

/-- Statements go on after the end of a line. -/
theorem statementsAt_of_next [Host] {d draft : Draft} {more : List Char}
    (hdraft : statement d (skipBlanks cs) = .ok (draft, rest))
    (hcomment : comment? (skipBlanks rest) = some ('\n' :: more)) :
    statementsAt d cs = statementsAt draft more := by
  have hlength := ((suffix_comment? hcomment).trans (suffix_skipBlanks rest)).length_le
  have hrest := ((suffix_statement hdraft).trans (suffix_skipBlanks cs)).length_le
  rw [List.length_cons] at hlength
  rw [statementsAt, statements]
  split
  · next hnil =>
    rw [hnil] at hdraft
    cases hdraft
    cases hcomment
  · next hline =>
    rw [hline] at hdraft
    exact absurd hdraft statement_ne_ok
  · refine (bind_of_ok hdraft).trans ((bind_of_ok (orMalformed_eq_ok.2 hcomment)).trans ?_)
    exact statements_eq (by omega)

theorem statementsAt_of_error [Host] {d : Draft} {key : KeyPath} (hkey : keyAndSign (skipBlanks cs) = .ok (key, rest))
    (h : valueAt 0 rest = .error e) : statementsAt d cs = .error e := by
  obtain ⟨c, tail, hstart, hc⟩ := exists_of_keyAndSign hkey
  rw [statementsAt, statements]
  split
  · next hnil => rw [hnil] at hstart; cases hstart
  · next hline => rw [hline] at hstart; cases hstart; simp [isBare, isDigit] at hc
  · refine bind_of_error ?_
    rw [statement_of_key hkey]
    exact bind_of_error h

theorem length_joinLineEnds (text : List Char) : (joinLineEnds text).length ≤ text.length := by
  fun_induction joinLineEnds text with
  | case1 rest ih => simp only [List.length_cons]; omega
  | case2 c rest _ ih => simp only [List.length_cons]; omega
  | case3 => exact Nat.le_refl _

/-- Reading is reading statements, as long as there are any. -/
theorem read_eq [Host] (text : List Char) : read text = statementsAt {} (joinLineEnds text) :=
  statements_eq (Nat.lt_succ_of_le (length_joinLineEnds text))

end ToolSites.Toml
