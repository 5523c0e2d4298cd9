import Mathlib.Logic.Relation
import ToolSites.Proofs.Toml.LongIntegers
/-!
# Where reading a TOML document stops

A text that is not read is malformed, or reading gives it up: over an integer with too many digits, or
over a value that lies deeper than the machine has stack for (`GivesUp`). What the readers come to is
told step by step (`Starts`), by what they read before and not by what they find. One step more or less
does not change whether they give up (`fails_iff`), and so they do exactly if they come to such a value
in some number of steps (`read_eq_error`). A text that has no run of so many digits is never given up
over an integer (`Stops.hasLongRun`), and one that is given up over its depth has brackets as deep
(`Stops.deep`).
-/
open ToolSites.Text (isDigit maxDigits)

namespace ToolSites.Toml

/-! ## Tasks -/

/-- What is to be read, with what was read before it. -/
inductive Task
  | statements (d : Draft) (cs : List Char)
  | value (depth : Nat) (cs : List Char)
  | items (depth : Nat) (before : List Value) (cs : List Char)
  | fields (depth : Nat) (before : Fields) (pieces : List KeyPath) (cs : List Char)

namespace Task

/-- The text that is to be read. -/
def text : Task → List Char
  | statements _ cs | value _ cs | items _ _ cs | fields _ _ _ cs => cs

/-- In how many arrays and inline tables the task lies. -/
def depth : Task → Nat
  | statements .. => 0
  | value depth _ | items depth _ _ | fields depth _ _ _ => depth

/-- Tasks in the order in which they are taken up: of the same text, the value comes last. -/
def size : Task → Nat
  | value _ cs => 2 * cs.length
  | statements _ cs | items _ _ cs | fields _ _ _ cs => 2 * cs.length + 1

/-- The task fails for this reason. -/
def Fails [Host] (e : ReadError) : Task → Prop
  | statements d cs => statementsAt d cs = .error e
  | value depth cs => valueAt depth cs = .error e
  | items depth before cs => itemsAt depth before cs = .error e
  | fields depth before pieces cs => fieldsAt depth before pieces cs = .error e

theorem size_lt {task next : Task} (h : next.text.length < task.text.length) : next.size < task.size := by
  have hnext : next.size ≤ 2 * next.text.length + 1 := by cases next <;> simp [size, text]
  have htask : 2 * task.text.length ≤ task.size := by cases task <;> simp [size, text]
  omega

end Task

/-- A bracket that opens an array or an inline table. -/
def isOpening (c : Char) : Bool := c = '[' || c = '\x7b'

/-- The first task comes to the second. -/
inductive Starts [Host] : Task → Task → Prop
  | array {depth cs after} : Host.follows depth ('[' :: cs) = true → skipAll cs = .ok after →
      (∀ tail, after ≠ ']' :: tail) → Starts (.value depth ('[' :: cs)) (.items (depth + 1) [] after)
  | table {depth cs} : Host.follows depth ('\x7b' :: cs) = true →
      (∀ tail, skipBlanks cs ≠ '\x7d' :: tail) →
      Starts (.value depth ('\x7b' :: cs)) (.fields (depth + 1) [] [] (skipBlanks cs))
  | item {depth before cs} : Starts (.items depth before cs) (.value depth cs)
  | nextItem {depth before cs v rest more after} : valueAt depth cs = .ok (v, rest) →
      skipAll rest = .ok (',' :: more) → skipAll more = .ok after → (∀ tail, after ≠ ']' :: tail) →
      Starts (.items depth before cs) (.items depth (v :: before) after)
  | field {depth before pieces cs key rest} : keyAndSign cs = .ok (key, rest) →
      Starts (.fields depth before pieces cs) (.value depth rest)
  | nextField {depth before pieces cs key rest v tail fields more} : keyAndSign cs = .ok (key, rest) →
      valueAt depth rest = .ok (v, tail) → pieces.any (·.isPrefixOf key) = false →
      addAt? false key v before = some fields → skipBlanks tail = ',' :: more →
      Starts (.fields depth before pieces cs)
        (.fields depth fields (if isPiece v then key :: pieces else pieces) (skipBlanks more))
  | pair {d cs key rest} : keyAndSign (skipBlanks cs) = .ok (key, rest) →
      Starts (.statements d cs) (.value 0 rest)
  | emptyLine {d cs rest} : skipBlanks cs = '\n' :: rest → Starts (.statements d cs) (.statements d rest)
  | nextLine {d cs draft rest more} : statement d (skipBlanks cs) = .ok (draft, rest) →
      comment? (skipBlanks rest) = some ('\n' :: more) → Starts (.statements d cs) (.statements draft more)

/-- Why a value is given up where it starts: there is no stack for it, or it is an integer that is
too long. -/
def GivesUp [Host] (depth : Nat) (cs : List Char) : ReadError → Prop
  | .malformed => False
  | .tooDeep => Host.follows depth cs = false
  | .tooManyDigits n => Host.follows depth cs = true ∧ LongInteger cs n

variable {cs : List Char} {depth n : Nat} {e : ReadError} {task next : Task}

/-- A task comes to a part of its text. -/
theorem Starts.suffix [Host] (h : Starts task next) : next.text <:+ task.text := by
  cases h with
  | @array depth cs after _ hafter _ => exact (suffix_skipAll hafter).trans (List.suffix_cons _ cs)
  | @table depth cs _ _ => exact (suffix_skipBlanks cs).trans (List.suffix_cons _ cs)
  | item => exact List.suffix_rfl
  | @nextItem depth before cs v rest more after hv hcomma hafter _ =>
    have hmore := (suffix_skipAll hcomma).trans (suffix_value hv)
    exact ((suffix_skipAll hafter).trans (List.suffix_cons _ more)).trans hmore
  | field hkey => exact (suffix_keyAndSign hkey).trans (List.tail_suffix _)
  | @nextField depth before pieces cs key rest v tail fields more hkey hv _ _ hcomma =>
    have htail := (suffix_value hv).trans ((suffix_keyAndSign hkey).trans (List.tail_suffix cs))
    have hmore : more <:+ tail := (List.suffix_cons _ more).trans (hcomma ▸ suffix_skipBlanks tail)
    exact ((suffix_skipBlanks more).trans hmore).trans htail
  | @pair d cs key rest hkey =>
    exact ((suffix_keyAndSign hkey).trans (List.tail_suffix _)).trans (suffix_skipBlanks cs)
  | @emptyLine d cs rest hline => exact (List.suffix_cons _ rest).trans (hline ▸ suffix_skipBlanks cs)
  | @nextLine d cs draft rest more hdraft hcomment =>
    have hrest := (suffix_statement hdraft).trans (suffix_skipBlanks cs)
    have hmore := (suffix_comment? hcomment).trans (suffix_skipBlanks rest)
    exact ((List.suffix_cons _ more).trans hmore).trans hrest

/-- It comes to a smaller task. -/
theorem Starts.size_lt [Host] (h : Starts task next) : next.size < task.size := by
  cases h with
  | item => exact Nat.lt_succ_self _
  | @array depth cs after _ hafter _ => exact Task.size_lt (Nat.lt_succ_of_le (suffix_skipAll hafter).length_le)
  | @table depth cs _ _ => exact Task.size_lt (Nat.lt_succ_of_le (suffix_skipBlanks cs).length_le)
  | @nextItem depth before cs v rest more after hv hcomma hafter _ =>
    have hmore := ((suffix_skipAll hcomma).trans (suffix_value hv)).length_le
    exact Task.size_lt (Nat.lt_of_le_of_lt (suffix_skipAll hafter).length_le hmore)
  | field hkey => exact Task.size_lt (length_keyAndSign hkey)
  | @nextField depth before pieces cs key rest v tail fields more hkey hv _ _ hcomma =>
    have hmore : ',' :: more <:+ rest := (hcomma ▸ suffix_skipBlanks tail).trans (suffix_value hv)
    have hrest := Nat.lt_of_le_of_lt hmore.length_le (length_keyAndSign hkey)
    exact Task.size_lt (Nat.lt_of_le_of_lt (suffix_skipBlanks more).length_le (Nat.lt_of_succ_lt hrest))
  | @pair d cs key rest hkey =>
    exact Task.size_lt (Nat.lt_of_lt_of_le (length_keyAndSign hkey) (suffix_skipBlanks cs).length_le)
  | @emptyLine d cs rest hline =>
    have hsuffix : '\n' :: rest <:+ cs := hline ▸ suffix_skipBlanks cs
    exact Task.size_lt hsuffix.length_le
  | @nextLine d cs draft rest more hdraft hcomment =>
    have hrest := (suffix_statement hdraft).trans (suffix_skipBlanks cs)
    have hmore := (suffix_comment? hcomment).trans (suffix_skipBlanks rest)
    exact Task.size_lt (hmore.trans hrest).length_le

/-- Every step into an array or inline table takes its bracket. -/
theorem Starts.depth_le [Host] (h : Starts task next) :
    next.depth + next.text.countP isOpening ≤ task.depth + task.text.countP isOpening := by
  have hcount := h.suffix.sublist.countP_le (p := isOpening)
  cases h with
  | @array depth cs after _ hafter _ =>
    have hafter : after.countP isOpening ≤ cs.countP isOpening := (suffix_skipAll hafter).sublist.countP_le
    have hopening : ('[' :: cs).countP isOpening = cs.countP isOpening + 1 := List.countP_cons_of_pos rfl
    simp only [Task.depth, Task.text]
    omega
  | @table depth cs _ _ =>
    have hcs : (skipBlanks cs).countP isOpening ≤ cs.countP isOpening := (suffix_skipBlanks cs).sublist.countP_le
    have hopening : ('\x7b' :: cs).countP isOpening = cs.countP isOpening + 1 := List.countP_cons_of_pos rfl
    simp only [Task.depth, Task.text]
    omega
  | _ => exact Nat.add_le_add_left hcount _

/-! ## Steps -/

section Fails

variable (he : e ≠ .malformed)
include he

theorem orMalformed_ne {α : Type} {x : Option α} : orMalformed x ≠ .error e := by
  intro h
  unfold orMalformed at h
  split at h
  · cases h
  · cases h
    exact he rfl

theorem skipAll_ne : skipAll cs ≠ .error e := orMalformed_ne he

theorem keyAndSign_ne : keyAndSign cs ≠ .error e := by
  intro h
  rcases bind_eq_error.1 h with h | ⟨⟨key, rest⟩, -, h⟩
  · exact orMalformed_ne he h
  · split at h
    · cases h
    · cases h
      exact he rfl

theorem headerPath_ne {closing : String} : headerPath closing cs ≠ .error e := by
  intro h
  rcases bind_eq_error.1 h with h | ⟨⟨path, rest⟩, -, h⟩
  · exact orMalformed_ne he h
  · rcases bind_eq_error.1 h with h | ⟨after, -, h⟩
    · exact orMalformed_ne he h
    · cases h

theorem header_ne {closing : String} {openAt? : KeyPath → Option Draft} :
    (headerPath closing cs >>= fun r => orMalformed (openAt? r.1) >>= fun draft =>
      .ok (draft, r.2)) ≠ .error e := by
  intro h
  rcases bind_eq_error.1 h with h | ⟨r, -, h⟩
  · exact headerPath_ne he h
  · rcases bind_eq_error.1 h with h | ⟨draft, -, h⟩
    · exact orMalformed_ne he h
    · cases h

/-- A scalar is given up only if it is an integer that is too long. -/
theorem exists_of_scalar (h : scalar cs = .error e) : ∃ n, e = .tooManyDigits n ∧ LongInteger cs n := by
  cases e with
  | malformed => exact absurd rfl he
  | tooManyDigits n => exact ⟨n, rfl, scalar_eq_tooManyDigits.1 h⟩
  | tooDeep => exact absurd h scalar_ne_tooDeep

theorem next_of_value [Host] (h : (Task.value depth cs).Fails e) :
    GivesUp depth cs e ∨ ∃ next, Starts (.value depth cs) next ∧ next.Fails e := by
  unfold Task.Fails valueAt value at h
  dsimp only at h
  split at h
  case isFalse hfollows =>
    cases h
    exact .inl (Bool.eq_false_iff.2 hfollows)
  next hfollows =>
  split at h
  · next tail =>
    rcases bind_eq_error.1 h with h | ⟨after, hafter, h⟩
    · exact absurd h (skipAll_ne he)
    split at h
    · cases h
    · next hopen =>
      have hlength := (suffix_skipAll hafter).length_le
      rw [items_eq (by rw [List.length_cons]; omega)] at h
      exact .inr ⟨_, .array hfollows hafter hopen, h⟩
  · next tail =>
    split at h
    · cases h
    · next hopen =>
      have hlength := (suffix_skipBlanks tail).length_le
      rw [inlineFields_eq (by rw [List.length_cons]; omega)] at h
      exact .inr ⟨_, .table hfollows hopen, h⟩
  · obtain ⟨n, rfl, hlong⟩ := exists_of_scalar he h
    exact .inl ⟨hfollows, hlong⟩

theorem next_of_items [Host] {before : List Value} (h : (Task.items depth before cs).Fails e) :
    ∃ next, Starts (.items depth before cs) next ∧ next.Fails e := by
  unfold Task.Fails itemsAt items at h
  rcases bind_eq_error.1 h with h | ⟨⟨v, rest⟩, hv, h⟩
  · exact ⟨_, .item, h⟩
  rcases bind_eq_error.1 h with h | ⟨after, hafter, h⟩
  · exact absurd h (skipAll_ne he)
  have hlength := ((suffix_skipAll hafter).trans (suffix_value hv)).length_le
  split at h
  · cases h
  · next more =>
    rw [List.length_cons] at hlength
    rcases bind_eq_error.1 h with h | ⟨last, hlast, h⟩
    · exact absurd h (skipAll_ne he)
    have hnext := (suffix_skipAll hlast).length_le
    split at h
    · cases h
    · next hopen =>
      rw [items_eq (by omega)] at h
      exact ⟨_, .nextItem hv hafter hlast hopen, h⟩
  · cases h
    exact absurd rfl he

theorem next_of_fields [Host] {before : Fields} {pieces : List KeyPath}
    (h : (Task.fields depth before pieces cs).Fails e) :
    ∃ next, Starts (.fields depth before pieces cs) next ∧ next.Fails e := by
  unfold Task.Fails fieldsAt inlineFields at h
  rcases bind_eq_error.1 h with h | ⟨⟨key, rest⟩, hkey, h⟩
  · exact absurd h (keyAndSign_ne he)
  have hrest := length_keyAndSign hkey
  dsimp only at h
  rw [value_eq (by omega)] at h
  rcases bind_eq_error.1 h with h | ⟨⟨v, tail⟩, hv, h⟩
  · exact ⟨_, .field hkey, h⟩
  dsimp only at h
  split at h
  · cases h
    exact absurd rfl he
  next hpieces =>
  rcases bind_eq_error.1 h with h | ⟨fields, hfields, h⟩
  · exact absurd h (orMalformed_ne he)
  split at h
  · cases h
  · next more hmore =>
    have hlength := ((suffix_skipBlanks tail).trans (suffix_value hv)).length_le
    have hnext := (suffix_skipBlanks more).length_le
    rw [hmore, List.length_cons] at hlength
    rw [inlineFields_eq (by omega)] at h
    exact ⟨_, .nextField hkey hv (Bool.eq_false_iff.2 hpieces) (orMalformed_eq_ok.1 hfields) hmore, h⟩
  · cases h
    exact absurd rfl he

/-- Only the value of a field can be given up in a statement. -/
theorem exists_of_statement [Host] {d : Draft} (h : statement d cs = .error e) :
    ∃ key rest, keyAndSign cs = .ok (key, rest) ∧ valueAt 0 rest = .error e := by
  unfold statement at h
  split at h
  · cases h
  · exact absurd h (header_ne he)
  · exact absurd h (header_ne he)
  · split at h
    · cases h
    · rcases bind_eq_error.1 h with h | ⟨⟨key, rest⟩, hkey, h⟩
      · exact absurd h (keyAndSign_ne he)
      refine ⟨key, rest, hkey, ?_⟩
      rcases bind_eq_error.1 h with h | ⟨⟨v, tail⟩, -, h⟩
      · exact h
      rcases bind_eq_error.1 h with h | ⟨draft, -, h⟩
      · exact absurd h (orMalformed_ne he)
      · cases h

theorem next_of_statements [Host] {d : Draft} (h : (Task.statements d cs).Fails e) :
    ∃ next, Starts (.statements d cs) next ∧ next.Fails e := by
  unfold Task.Fails statementsAt statements at h
  have hblanks := (suffix_skipBlanks cs).length_le
  dsimp only at h
  split at h
  · cases h
  · next rest hline =>
    rw [hline, List.length_cons] at hblanks
    rw [statements_eq (by omega)] at h
    exact ⟨_, .emptyLine hline, h⟩
  rcases bind_eq_error.1 h with h | ⟨⟨draft, rest⟩, hdraft, h⟩
  · obtain ⟨key, start, hkey, hv⟩ := exists_of_statement he h
    exact ⟨_, .pair hkey, hv⟩
  rcases bind_eq_error.1 h with h | ⟨after, hafter, h⟩
  · exact absurd h (orMalformed_ne he)
  have hcomment : comment? (skipBlanks rest) = some after := orMalformed_eq_ok.1 hafter
  have hlength := (suffix_comment? hcomment).length_le
  have hrest := ((suffix_skipBlanks rest).trans (suffix_statement hdraft)).length_le
  split at h
  · cases h
  · next more =>
    rw [List.length_cons] at hlength
    rw [statements_eq (by omega)] at h
    exact ⟨_, .nextLine hdraft hcomment, h⟩
  · cases h
    exact absurd rfl he

end Fails

theorem LongInteger.valueAt_eq [Host] (h : LongInteger cs n) (hfollows : Host.follows depth cs = true) :
    valueAt depth cs = scalar cs := by
  obtain ⟨c, tail, rfl, hc⟩ := h.head
  unfold valueAt value
  rw [if_pos hfollows]
  split
  · next he => cases he; simp [isDigit] at hc
  · next he => cases he; simp [isDigit] at hc
  · rfl

/-- A value that is given up where it starts fails. -/
theorem GivesUp.fails [Host] (h : GivesUp depth cs e) : (Task.value depth cs).Fails e := by
  cases e with
  | malformed => cases h
  | tooManyDigits n => exact (h.2.valueAt_eq h.1).trans (scalar_eq_tooManyDigits.2 h.2)
  | tooDeep =>
    unfold Task.Fails valueAt value
    exact if_neg (Bool.eq_false_iff.1 h)

/-- What comes to a task that fails fails as well. -/
theorem Starts.fails [Host] (h : Starts task next) (hfails : next.Fails e) : task.Fails e := by
  cases h with
  | array hfollows hafter hopen => exact (valueAt_of_array hfollows hafter hopen).trans hfails
  | table hfollows hopen => exact (valueAt_of_table hfollows hopen).trans hfails
  | item => exact itemsAt_of_error hfails
  | nextItem hv hcomma hafter hopen => exact (itemsAt_of_next hv hcomma hafter hopen).trans hfails
  | field hkey => exact fieldsAt_of_error hkey hfails
  | nextField hkey hv hpieces hfields hcomma =>
    exact (fieldsAt_of_next hkey hv hpieces hfields hcomma).trans hfails
  | pair hkey => exact statementsAt_of_error hkey hfails
  | emptyLine hline => exact (statementsAt_of_emptyLine hline).trans hfails
  | nextLine hdraft hcomment => exact (statementsAt_of_next hdraft hcomment).trans hfails

/-- What is given up is so where it starts, or comes to what is given up. -/
theorem fails_iff [Host] (he : e ≠ .malformed) : task.Fails e ↔
    (∃ depth place, task = .value depth place ∧ GivesUp depth place e) ∨
      ∃ next, Starts task next ∧ next.Fails e := by
  constructor
  · intro h
    cases task with
    | value depth cs => exact (next_of_value he h).imp_left fun hgives => ⟨depth, cs, rfl, hgives⟩
    | items depth before cs => exact .inr (next_of_items he h)
    | fields depth before pieces cs => exact .inr (next_of_fields he h)
    | statements d cs => exact .inr (next_of_statements he h)
  · rintro (⟨depth, place, rfl, hgives⟩ | ⟨next, hstarts, hfails⟩)
    · exact hgives.fails
    · exact hstarts.fails hfails

/-! ## Runs -/

/-- What is given up comes to where it is, in some number of steps. -/
theorem fails_iff_reaches [Host] (he : e ≠ .malformed) : task.Fails e ↔
    ∃ depth place, Relation.ReflTransGen Starts task (.value depth place) ∧ GivesUp depth place e := by
  constructor
  · intro h
    -- what is given up is followed down to the value: each step comes to a smaller task
    induction hsize : task.size using Nat.strongRecOn generalizing task with
    | _ size ih =>
      rcases (fails_iff he).1 h with ⟨depth, place, rfl, hgives⟩ | ⟨next, hstarts, hfails⟩
      · exact ⟨depth, place, .refl, hgives⟩
      · obtain ⟨depth, place, hreaches, hgives⟩ := ih next.size (hsize ▸ hstarts.size_lt) hfails rfl
        exact ⟨depth, place, .head hstarts hreaches, hgives⟩
  · rintro ⟨depth, place, hreaches, hgives⟩
    -- from the value back to the start, each task is given up because the next one is
    induction hreaches using Relation.ReflTransGen.head_induction_on with
    | refl => exact hgives.fails
    | head hstarts _ ih => exact hstarts.fails ih

/-- Reading the text comes to a value that is given up for this reason. -/
def Stops [Host] (text : List Char) (e : ReadError) : Prop :=
  ∃ depth place, Relation.ReflTransGen Starts (.statements {} (joinLineEnds text)) (.value depth place) ∧
    GivesUp depth place e

/-- A text that is not malformed is given up exactly if reading gets to a value that is. -/
theorem read_eq_error [Host] {text : List Char} (he : e ≠ .malformed) : read text = .error e ↔ Stops text e := by
  have hstops : (Task.statements {} (joinLineEnds text)).Fails e ↔ Stops text e := fails_iff_reaches he
  rw [read_eq]
  exact hstops

/-- Reading gives up over an integer exactly if it gets to one that is too long. -/
theorem read_eq_tooManyDigits [Host] {text : List Char} :
    read text = .error (.tooManyDigits n) ↔ Stops text (.tooManyDigits n) := read_eq_error nofun

/-- Reading gives up over the depth of a text exactly if it gets to a value that lies too deep. -/
theorem read_eq_tooDeep [Host] {text : List Char} : read text = .error .tooDeep ↔ Stops text .tooDeep :=
  read_eq_error nofun

/-! ## What is in the text -/

theorem suffix_of_reaches [Host] {start : Task} (h : Relation.ReflTransGen Starts start task) :
    task.text <:+ start.text := by
  induction h with
  | refl => exact List.suffix_rfl
  | tail _ hstarts ih => exact hstarts.suffix.trans ih

/-- A part of a text whose line ends were joined comes of a part of the text. -/
theorem exists_of_joinLineEnds {text place : List Char} (h : place <:+ joinLineEnds text) :
    ∃ part, part <:+ text ∧ joinLineEnds part = place := by
  fun_induction joinLineEnds text with
  | case1 rest ih =>
    rcases List.suffix_cons_iff.1 h with rfl | h
    · exact ⟨_, List.suffix_rfl, by rw [joinLineEnds]⟩
    · obtain ⟨part, hpart, hjoined⟩ := ih h
      exact ⟨part, hpart.trans ⟨['\r', '\n'], rfl⟩, hjoined⟩
  | case2 c rest hpair ih =>
    rcases List.suffix_cons_iff.1 h with rfl | h
    · exact ⟨_, List.suffix_rfl, by rw [joinLineEnds]; exact hpair⟩
    · obtain ⟨part, hpart, hjoined⟩ := ih h
      exact ⟨part, hpart.trans (List.suffix_cons _ _), hjoined⟩
  | case3 => exact ⟨[], List.suffix_rfl, (List.suffix_nil.1 h).symm⟩

theorem joinLineEnds_eq_self {text : List Char} (h : '\r' ∉ text) : joinLineEnds text = text := by
  fun_induction joinLineEnds text with
  | case1 rest => exact absurd (.head _) h
  | case2 c rest _ ih => rw [ih fun hmem => h (.tail _ hmem)]
  | case3 => rfl

/-- What has no line end stands in the text as it did before the line ends were joined. -/
theorem prefix_of_joinLineEnds {text run after : List Char} (h : joinLineEnds text = run ++ after)
    (hrun : '\n' ∉ run) : run <+: text := by
  induction run generalizing text with
  | nil => exact List.nil_prefix
  | cons c run ih =>
    rw [List.mem_cons, not_or] at hrun
    unfold joinLineEnds at h
    split at h
    · exact absurd (List.cons.inj h).1 hrun.1
    · next rest _ =>
      obtain ⟨rfl, htail⟩ := List.cons.inj h
      exact List.cons_prefix_cons.2 ⟨rfl, ih htail hrun.2⟩
    · cases h

/-- The text has a run of so many digits, and they are too many. -/
def HasLongRun (text : List Char) (n : Nat) : Prop :=
  maxDigits < n ∧ ∃ run, DigitRun run n ∧ run <:+: text

/-- A text that is given up over an integer has a run of so many digits. -/
theorem Stops.hasLongRun [Host] {text : List Char} (h : Stops text (.tooManyDigits n)) : HasLongRun text n := by
  obtain ⟨depth, place, hreaches, -, hlong, sign, first, more, after, rfl, -, -, -, hrun, -⟩ := h
  have hplace : first :: more ++ after <:+ joinLineEnds text :=
    (List.suffix_append sign _).trans (suffix_of_reaches hreaches)
  obtain ⟨part, hpart, hjoined⟩ := exists_of_joinLineEnds hplace
  -- the run has no line end, so that it stands in the text as it was
  have hline : '\n' ∉ first :: more := by
    intro hmem
    rcases hrun.mem hmem with hd | he
    · cases hd
    · cases he
  exact ⟨hlong, _, hrun, (prefix_of_joinLineEnds hjoined hline).isInfix.trans hpart.isInfix⟩

theorem depth_le_of_reaches [Host] {start : Task} (h : Relation.ReflTransGen Starts start task) :
    task.depth + task.text.countP isOpening ≤ start.depth + start.text.countP isOpening := by
  induction h with
  | refl => exact Nat.le_refl _
  | tail _ hstarts ih => exact Nat.le_trans hstarts.depth_le ih

theorem countP_joinLineEnds (text : List Char) :
    (joinLineEnds text).countP isOpening = text.countP isOpening := by
  fun_induction joinLineEnds text with
  | case1 rest ih => simp only [List.countP_cons, ih, Nat.add_assoc]; rfl
  | case2 c rest _ ih => rw [List.countP_cons, List.countP_cons, ih]
  | case3 => rfl

/-- A text that is given up over its depth has as many brackets, and there is no stack for a value that
stands in it. -/
theorem Stops.deep [Host] {text : List Char} (h : Stops text .tooDeep) :
    ∃ depth ≤ text.countP isOpening, ∃ place, place <:+ joinLineEnds text ∧
      Host.follows depth place = false := by
  obtain ⟨depth, place, hreaches, hgives⟩ := h
  have hdepth := depth_le_of_reaches hreaches
  simp only [Task.depth, Task.text, countP_joinLineEnds, Nat.zero_add] at hdepth
  exact ⟨depth, Nat.le_trans (Nat.le_add_right _ _) hdepth, place, suffix_of_reaches hreaches, hgives⟩

/-- Reading stops at a field of many digits. -/
theorem stops_of_digits {first : Char} {more : List Char} (hdigits : ∀ c ∈ first :: more, isDigit c = true)
    (hzero : first ≠ '0') (hlong : maxDigits < (first :: more).length) :
    Stops ('a' :: '=' :: first :: more) (.tooManyDigits (first :: more).length) := by
  have hfirst := hdigits first (.head _)
  have hblank : isBlank first = false := by
    rw [Bool.eq_false_iff]
    intro h
    simp only [isBlank, Bool.or_eq_true, decide_eq_true_eq] at h
    rcases h with rfl | rfl <;> cases hfirst
  have hline : joinLineEnds ('a' :: '=' :: first :: more) = 'a' :: '=' :: first :: more := by
    refine joinLineEnds_eq_self fun hmem => ?_
    rcases List.mem_cons.1 hmem with he | hmem
    · cases he
    rcases List.mem_cons.1 hmem with he | hmem
    · cases he
    · cases hdigits _ hmem
  have hkey : keyAndSign (skipBlanks (joinLineEnds ('a' :: '=' :: first :: more))) =
      .ok (["a"], first :: more) := by
    rw [hline]
    refine keyAndSign_eq_ok.2 ⟨first :: more, rfl, ?_⟩
    rw [skipBlanks, List.dropWhile_cons, hblank]
    rfl
  refine ⟨0, first :: more, .single (.pair hkey), rfl, hlong, [], first, more, [], ?_, .inl rfl, hfirst, hzero,
    digitRun_of_digits hdigits, endsInteger_nil⟩
  rw [List.nil_append, List.append_nil]

end ToolSites.Toml
