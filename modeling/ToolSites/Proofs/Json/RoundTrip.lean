import ToolSites.Json.Reader
import ToolSites.Proofs.Json.Numbers
/-!
# Values read back from their JSON text

`read_write_line`: a value that is written on lines of its own and read again is the
same value, as long as it holds no floating-point number, no half of a pair that stands
alone, no integer too long to be read, and no table that names a field twice. The proof runs over the text
once, with one lemma for each of the three kinds of text: a value, the items after
the first, and the fields after the first. `write_plain` says what characters such a
text has.
-/
open ToolSites.Text

namespace ToolSites.Json

/-! ## Values that can be written -/

namespace Document

mutual

/-- Whether the value reads back from its text. -/
def Writable : Document → Prop
  | .null | .boolean _ => True
  | .text s => ∃ t, s = .of t
  | .integer n => (Nat.toDigits 10 n.natAbs).length ≤ maxDigits
  | .real _ => False
  | .array items => ItemsWritable items
  | .table fields => (Entries.names fields).Nodup ∧ FieldsWritable fields

/-- Whether each item reads back from its text. -/
def ItemsWritable : List Document → Prop
  | [] => True
  | v :: rest => v.Writable ∧ ItemsWritable rest

/-- Whether the name and the value of each field read back from their text. -/
def FieldsWritable : List (Spelling × Document) → Prop
  | [] => True
  | (name, v) :: rest => (∃ t, name = .of t) ∧ v.Writable ∧ FieldsWritable rest

end

theorem itemsWritable_iff {items : List Document} : ItemsWritable items ↔ ∀ v ∈ items, v.Writable := by
  induction items with
  | nil => simp [ItemsWritable]
  | cons v rest ih => simp [ItemsWritable, ih]

theorem fieldsWritable_iff {fields : List (Spelling × Document)} :
    FieldsWritable fields ↔ ∀ f ∈ fields, (∃ t, f.1 = .of t) ∧ f.2.Writable := by
  induction fields with
  | nil => simp [FieldsWritable]
  | cons f rest ih => obtain ⟨n, v⟩ := f; simp [FieldsWritable, ih, and_assoc]

end Document

/-! ## One token -/

theorem lex_blank {c : Char} (h : isBlank c = true) (rest : List Char) :
    lex (c :: rest) = lex rest := by
  rw [lex, if_pos h]

theorem lex_blanks {blanks : List Char} (h : ∀ c ∈ blanks, isBlank c = true) (rest : List Char) :
    lex (blanks ++ rest) = lex rest := by
  induction blanks with
  | nil => rfl
  | cons c tail ih =>
    rw [List.cons_append, lex_blank (h c (.head _)), ih fun d hd => h d (.tail _ hd)]

theorem newline_blank (level : Nat) : ∀ c ∈ newline level, isBlank c = true := by
  intro c hc
  rcases List.mem_cons.1 hc with rfl | hc
  · decide
  · rw [List.eq_of_mem_replicate hc]; decide

/-- Running over a token that the state accepts. -/
theorem run_token {s u : State} {c : Char} {rest after : List Char} {k : Token}
    (hb : isBlank c = false) (ht : nextToken c rest = (k, after))
    (hs : ∀ left, step s left k = .ok u) : run s (lex (c :: rest)) = run u (lex after) := by
  rw [lex, if_neg (by simp [hb]), run, ht, hs]
  rfl

/-- Running over a character that is a token by itself. -/
theorem run_mark {s u : State} {c : Char} {k : Token} (hb : isBlank c = false)
    (ht : ∀ rest, nextToken c rest = (k, rest)) (hs : ∀ left, step s left k = .ok u)
    (rest : List Char) : run s (lex (c :: rest)) = run u (lex rest) :=
  run_token hb (ht rest) hs

theorem run_string {s u : State} {name : String} (rest : List Char)
    (hs : ∀ left, step s left (.text (.of name)) = .ok u) :
    run s (lex (stringText (.of name) ++ rest)) = run u (lex rest) := by
  simp only [stringText, List.append_assoc, List.cons_append, List.nil_append]
  exact run_token (by decide) (stringToken_text name rest) hs

/-- The colon between a name and its value. -/
theorem run_colon {stack : List Frame} {before : List (Spelling × Document)} {name : Spelling}
    (rest : List Char) :
    run ⟨stack, .colon before name⟩ (lex (": ".toList ++ rest)) =
      run ⟨.table before name :: stack, .value⟩ (lex rest) :=
  (run_mark (k := .colon) (by decide) (fun _ => rfl) (fun _ => rfl) _).trans
    (congrArg _ (lex_blank (by decide) rest))

/-- At the start of a value and of the first item the same tokens begin a value. -/
theorem step_begin {stack : List Frame} {w : Awaiting} (hw : w = .value ∨ w = .firstItem)
    (left : Nat) {k : Token} (ht : k ≠ .closeArray) :
    step ⟨stack, w⟩ left k = beginValue stack left k := by
  rcases hw with rfl | rfl
  · rfl
  · cases stack with
    | nil => rfl
    | cons frame tail => cases frame <;> cases k <;> first | rfl | exact absurd rfl ht

theorem ends_itemsText (level : Nat) (items : List Document) (l : Nat) (rest : List Char) :
    Ends (itemsText level items ++ (newline l ++ rest)) := by
  cases items <;> simp [Ends, itemsText, newline, isBlank]

theorem ends_fieldsText (level : Nat) (fields : List (Spelling × Document)) (l : Nat)
    (rest : List Char) : Ends (fieldsText level fields ++ (newline l ++ rest)) := by
  cases fields <;> simp [Ends, fieldsText, newline, isBlank]

theorem not_blank_digit {c : Char} (h : isDigit c = true) : isBlank c = false := by
  rw [← Bool.not_eq_true]
  intro hb
  simp only [isBlank, Bool.or_eq_true, decide_eq_true_eq] at hb
  rcases hb with ((rfl | rfl) | rfl) | rfl <;> exact absurd h (by decide)

/-- A digit or a minus begins a word. -/
theorem nextToken_word {c : Char} (h : isDigit c = true ∨ c = '-') (rest : List Char) :
    nextToken c rest = wordToken (c :: rest) := by
  have hne : ∀ d ∈ ['\x7b', '\x7d', '[', ']', ':', ',', '"'], c ≠ d := by
    rintro d hd rfl
    simp only [List.mem_cons, List.not_mem_nil, or_false] at hd
    rcases hd with rfl | rfl | rfl | rfl | rfl | rfl | rfl <;> revert h <;> decide
  simp only [List.mem_cons, List.not_mem_nil, or_false, forall_eq_or_imp, forall_eq] at hne
  obtain ⟨h₁, h₂, h₃, h₄, h₅, h₆, h₇⟩ := hne
  rw [nextToken, if_neg h₁, if_neg h₂, if_neg h₃, if_neg h₄, if_neg h₅, if_neg h₆, if_neg h₇]

theorem toList_ofNat (m : Nat) : (toString (Int.ofNat m)).toList = Nat.toDigits 10 m :=
  Nat.toList_repr

theorem toList_negSucc (m : Nat) :
    (toString (Int.negSucc m)).toList = '-' :: Nat.toDigits 10 (m + 1) := by
  show ("-" ++ (m + 1).repr).toList = _
  rw [String.toList_append, Nat.toList_repr]
  rfl

/-- The text of an integer, whatever its sign, is one token. -/
theorem run_integer {n : Int} (hn : (Nat.toDigits 10 n.natAbs).length ≤ maxDigits) {s u : State}
    {rest : List Char} (hr : Ends rest) (hs : ∀ left, step s left (.number (.value (.integer n))) = .ok u) :
    run s (lex ((toString n).toList ++ rest)) = run u (lex rest) := by
  cases n with
  | ofNat m =>
    obtain ⟨c, tail, hc⟩ := List.exists_cons_of_ne_nil (Nat.toDigits_ne_nil (n := m) (b := 10))
    have hd : isDigit c = true := isDigit_of_toDigits (n := m) (by rw [hc]; exact .head _)
    have ht := wordToken_toDigits hn hr
    rw [toList_ofNat]
    simp only [Int.ofNat_eq_natCast, Int.natAbs_natCast, hc, List.cons_append] at ht ⊢
    exact run_token (not_blank_digit hd) ((nextToken_word (.inl hd) _).trans ht) hs
  | negSucc m =>
    have ht := wordToken_minus (n := m + 1) hn hr
    rw [toList_negSucc, List.cons_append]
    exact run_token (by decide) ((nextToken_word (.inr rfl) _).trans ht) hs

/-! ## Values -/

mutual

/-- Reading goes over the text of a value, whatever is open around it. -/
theorem run_valueText (level : Nat) (v : Document) (hv : v.Writable) (stack : List Frame)
    {w : Awaiting} (hw : w = .value ∨ w = .firstItem) {rest : List Char} (hr : Ends rest) :
    run ⟨stack, w⟩ (lex (valueText level v ++ rest)) = run ⟨stack, .next v⟩ (lex rest) := by
  have begins : ∀ {k : Token} {u : State}, k ≠ .closeArray →
      (∀ left, beginValue stack left k = .ok u) →
      ∀ left, step ⟨stack, w⟩ left k = .ok u :=
    fun ht hs left => (step_begin hw left ht).trans (hs left)
  cases v with
  | null => exact run_token (by decide) rfl (begins (k := .literal .null) (by simp) fun _ => rfl)
  | boolean b =>
    cases b with
    | false => exact run_token (by decide) rfl (begins (k := .literal _) (by simp) fun _ => rfl)
    | true => exact run_token (by decide) rfl (begins (k := .literal _) (by simp) fun _ => rfl)
  | integer n => exact run_integer hv hr (begins (by simp) fun _ => rfl)
  | real x => exact hv.elim
  | text s =>
    obtain ⟨t, rfl⟩ := hv
    exact run_string rest (begins (by simp) fun _ => rfl)
  | array items =>
    cases items with
    | nil =>
      rw [valueText]
      refine (run_mark (u := ⟨.array [] :: stack, .firstItem⟩) (by decide) (fun _ => rfl)
        (begins (k := .openArray) (by simp) fun _ => rfl) _).trans ?_
      exact run_mark (k := .closeArray) (by decide) (fun _ => rfl) (fun _ => rfl) rest
    | cons item items =>
      simp only [valueText, List.cons_append, List.append_assoc, List.nil_append]
      refine (run_mark (u := ⟨.array [] :: stack, .firstItem⟩) (by decide) (fun _ => rfl)
        (begins (k := .openArray) (by simp) fun _ => rfl) _).trans ?_
      rw [lex_blanks (newline_blank _),
        run_valueText (level + 1) item hv.1 _ (.inr rfl) (ends_itemsText _ _ _ _)]
      exact run_itemsText (level + 1) items hv.2 stack [] item level rest
  | table fields =>
    cases fields with
    | nil =>
      rw [valueText]
      refine (run_mark (u := ⟨stack, .firstName⟩) (by decide) (fun _ => rfl)
        (begins (k := .openTable) (by simp) fun _ => rfl) _).trans ?_
      exact run_mark (k := .closeTable) (by decide) (fun _ => rfl) (fun _ => rfl) rest
    | cons field fields =>
      obtain ⟨name, item⟩ := field
      obtain ⟨hn, ⟨t, rfl⟩, hi, hf⟩ := hv
      simp only [valueText, List.cons_append, List.append_assoc, List.nil_append]
      refine (run_mark (u := ⟨stack, .firstName⟩) (by decide) (fun _ => rfl)
        (begins (k := .openTable) (by simp) fun _ => rfl) _).trans ?_
      rw [lex_blanks (newline_blank _), run_string (u := ⟨stack, .colon [] (.of t)⟩) _ fun _ => rfl,
        run_colon, run_valueText (level + 1) item hi _ (.inl rfl) (ends_fieldsText _ _ _ _)]
      exact run_fieldsText (level + 1) fields hf stack [] (.of t) item hn level rest

/-- Reading goes over the items after the first to the end of their array. -/
theorem run_itemsText (level : Nat) (items : List Document) (hi : Document.ItemsWritable items)
    (stack : List Frame) (before : List Document) (v : Document) (l : Nat) (rest : List Char) :
    run ⟨.array before :: stack, .next v⟩
      (lex (itemsText level items ++ (newline l ++ ']' :: rest))) =
      run ⟨stack, .next (.array (before.reverse ++ v :: items))⟩ (lex rest) := by
  cases items with
  | nil =>
    rw [itemsText, List.nil_append, lex_blanks (newline_blank _), ← List.reverse_cons]
    exact run_mark (k := .closeArray) (by decide) (fun _ => rfl) (fun _ => rfl) rest
  | cons item items =>
    simp only [itemsText, List.cons_append, List.append_assoc]
    refine (run_mark (u := ⟨.array (v :: before) :: stack, .value⟩) (k := .comma)
      (by decide) (fun _ => rfl) (fun _ => rfl) _).trans ?_
    rw [lex_blanks (newline_blank _),
      run_valueText level item hi.1 _ (.inl rfl) (ends_itemsText _ _ _ _),
      run_itemsText level items hi.2 stack (v :: before) item l rest, List.reverse_cons,
      List.append_assoc]
    rfl

/-- Reading goes over the fields after the first to the end of their table. -/
theorem run_fieldsText (level : Nat) (fields : List (Spelling × Document))
    (hf : Document.FieldsWritable fields) (stack : List Frame) (before : List (Spelling × Document))
    (name : Spelling) (v : Document)
    (hn : (Entries.names (before ++ (name, v) :: fields)).Nodup) (l : Nat) (rest : List Char) :
    run ⟨.table before name :: stack, .next v⟩
      (lex (fieldsText level fields ++ (newline l ++ '\x7d' :: rest))) =
      run ⟨stack, .next (.table (before ++ (name, v) :: fields))⟩ (lex rest) := by
  -- the name is new, so that its value goes to the end
  have hput : Entries.put name v before = before ++ [(name, v)] := by
    refine Entries.put_of_not_mem (fun hm => ?_) v
    simp only [Entries.names, List.map_append, List.map_cons] at hn hm
    exact (List.nodup_append.1 hn).2.2 name hm name (.head _) rfl
  cases fields with
  | nil =>
    rw [fieldsText, List.nil_append, lex_blanks (newline_blank _), ← hput]
    exact run_mark (k := .closeTable) (by decide) (fun _ => rfl) (fun _ => rfl) rest
  | cons field fields =>
    obtain ⟨next, item⟩ := field
    obtain ⟨⟨t, rfl⟩, hi, hf⟩ := hf
    simp only [fieldsText, List.cons_append, List.append_assoc]
    refine (run_mark (u := ⟨stack, .name (Entries.put name v before)⟩) (k := .comma)
      (by decide) (fun _ => rfl) (fun _ => rfl) _).trans ?_
    rw [hput] at *
    rw [lex_blanks (newline_blank _),
      run_string (u := ⟨stack, .colon (before ++ [(name, v)]) (.of t)⟩) _ fun _ => rfl, run_colon,
      run_valueText level item hi _ (.inl rfl) (ends_fieldsText _ _ _ _)]
    have happ : before ++ (name, v) :: (.of t, item) :: fields =
        (before ++ [(name, v)]) ++ (.of t, item) :: fields := by simp
    rw [happ] at hn ⊢
    exact run_fieldsText level fields hf stack _ (.of t) item hn l rest

end

/-! ## The characters of the text -/

/-- A character of a text that was written: a line feed or a visible one of ASCII. -/
def IsPlain (c : Char) : Prop := c = '\n' ∨ (' ' ≤ c ∧ c ≤ '~')

theorem visible_plain {l : List Char} (h : (l.all fun c => ' ' ≤ c ∧ c ≤ '~') = true) :
    ∀ c ∈ l, IsPlain c :=
  fun c hc => .inr (by simpa using List.all_eq_true.1 h c hc)

theorem newline_plain (level : Nat) : ∀ c ∈ newline level, IsPlain c := by
  intro c hc
  rcases List.mem_cons.1 hc with rfl | hc
  · exact .inl rfl
  · rw [List.eq_of_mem_replicate hc]; exact .inr (by decide)

theorem stringText_plain (s : String) : ∀ c ∈ stringText (.of s), IsPlain c := by
  intro c hc
  rw [stringText, flatMap_symbolText] at hc
  simp only [List.cons_append, List.mem_cons, List.mem_append, List.mem_flatMap, List.not_mem_nil,
    or_false] at hc
  rcases hc with rfl | ⟨d, _, hd⟩ | rfl
  · exact .inr (by decide)
  · exact .inr (escaped_ascii d c hd)
  · exact .inr (by decide)

theorem integerText_plain (n : Int) : ∀ c ∈ (toString n).toList, IsPlain c := by
  have digits : ∀ m : Nat, ∀ c ∈ Nat.toDigits 10 m, IsPlain c := by
    intro m c hc
    have hd := isDigit_of_toDigits hc
    simp only [isDigit, Bool.and_eq_true, decide_eq_true_eq] at hd
    exact .inr ⟨Char.le_trans (by decide) hd.1, Char.le_trans hd.2 (by decide)⟩
  intro c hc
  cases n with
  | ofNat m =>
    rw [toList_ofNat] at hc
    exact digits m c hc
  | negSucc m =>
    rw [toList_negSucc] at hc
    rcases List.mem_cons.1 hc with rfl | hc
    · exact .inr (by decide)
    · exact digits _ c hc

mutual

/-- A value is written in plain characters. -/
theorem valueText_plain (level : Nat) (v : Document) (hv : v.Writable) :
    ∀ c ∈ valueText level v, IsPlain c := by
  cases v with
  | null => exact visible_plain (l := "null".toList) (by decide)
  | boolean b =>
    cases b with
    | false => exact visible_plain (l := "false".toList) (by decide)
    | true => exact visible_plain (l := "true".toList) (by decide)
  | integer n => exact integerText_plain n
  | real x => exact hv.elim
  | text s =>
    obtain ⟨t, rfl⟩ := hv
    exact stringText_plain t
  | array items =>
    cases items with
    | nil => exact visible_plain (l := "[]".toList) (by decide)
    | cons item items =>
      simp only [valueText, List.cons_append, List.append_assoc, List.forall_mem_append,
        List.forall_mem_cons]
      exact ⟨.inr (by decide), newline_plain _, valueText_plain _ item hv.1,
        itemsText_plain _ items hv.2, newline_plain _, .inr (by decide), by simp⟩
  | table fields =>
    cases fields with
    | nil => exact visible_plain (l := "\x7b\x7d".toList) (by decide)
    | cons field fields =>
      obtain ⟨name, item⟩ := field
      obtain ⟨-, ⟨t, rfl⟩, hi, hf⟩ := hv
      simp only [valueText, List.cons_append, List.append_assoc, List.forall_mem_append,
        List.forall_mem_cons]
      exact ⟨.inr (by decide), newline_plain _, stringText_plain t,
        visible_plain (l := ": ".toList) (by decide), valueText_plain _ item hi,
        fieldsText_plain _ fields hf, newline_plain _, .inr (by decide), by simp⟩

/-- The items after the first are written in plain characters. -/
theorem itemsText_plain (level : Nat) (items : List Document) (hi : Document.ItemsWritable items) :
    ∀ c ∈ itemsText level items, IsPlain c := by
  cases items with
  | nil => simp [itemsText]
  | cons item items =>
    simp only [itemsText, List.cons_append, List.append_assoc, List.forall_mem_append,
      List.forall_mem_cons]
    exact ⟨.inr (by decide), newline_plain _, valueText_plain _ item hi.1,
      itemsText_plain _ items hi.2⟩

/-- The fields after the first are written in plain characters. -/
theorem fieldsText_plain (level : Nat) (fields : List (Spelling × Document))
    (hf : Document.FieldsWritable fields) : ∀ c ∈ fieldsText level fields, IsPlain c := by
  cases fields with
  | nil => simp [fieldsText]
  | cons field fields =>
    obtain ⟨name, item⟩ := field
    obtain ⟨⟨t, rfl⟩, hi, hf⟩ := hf
    simp only [fieldsText, List.cons_append, List.append_assoc, List.forall_mem_append,
      List.forall_mem_cons]
    exact ⟨.inr (by decide), newline_plain _, stringText_plain t,
      visible_plain (l := ": ".toList) (by decide), valueText_plain _ item hi,
      fieldsText_plain _ fields hf⟩

end

/-! ## Documents -/

theorem write_plain {v : Document} (h : v.Writable) : ∀ c ∈ write v, IsPlain c :=
  valueText_plain 0 v h

/-- The value that was written is read, also if a line end follows it. -/
theorem read_write_line {v : Document} (h : v.Writable) : read (write v ++ ['\n']) = .ok v := by
  have hends : Ends ['\n'] := by simp [Ends, isBlank]
  have hlex : lex ['\n'] = [] := by rw [lex_blank (by decide), lex]
  -- a text that starts with a byte order mark would be refused
  have hmark : (write v ++ ['\n']).head? ≠ some '\uFEFF' := by
    intro he
    have hmem := List.mem_of_mem_head? (Option.mem_def.2 he)
    rcases List.mem_append.1 hmem with hc | hc
    · rcases write_plain h _ hc with hc | hc <;> revert hc <;> decide
    · revert hc; decide
  rw [read, if_neg hmark, write, run_valueText 0 v h [] (.inl rfl) hends, hlex]
  rfl

end ToolSites.Json
