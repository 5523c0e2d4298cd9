import Mathlib.Data.List.TakeWhile
import ToolSites.Json.Reader
import ToolSites.Proofs.Results
/-!
# Where reading a JSON text stops

A text that is not read is malformed, or reading gives it up: over an integer with too many digits,
or over an array or table that lies deeper than the machine has room for. `read_eq_error` says when it
is given up: all tokens before the integer or bracket are fine, and it stands where a value may stand
(`Stops`). A text that has no run of so many digits is never given up over an integer
(`Stops.hasLongRun`), and one that is given up over its depth has brackets as deep (`Stops.deep`).
-/
open ToolSites.Text (isDigit maxDigits)

namespace ToolSites.Json

/-! ## Integers that are too long -/

/-- Each token is the one that starts with some part of the text. -/
theorem exists_nextToken {cs : List Char} {entry : Nat × Token} (h : entry ∈ lex cs) :
    ∃ c rest, c :: rest <:+ cs ∧ entry.2 = (nextToken c rest).1 := by
  fun_induction lex cs with
  | case1 => cases h
  | case2 c rest _ ih =>
    obtain ⟨d, after, hsuffix, htoken⟩ := ih h
    exact ⟨d, after, hsuffix.trans (List.suffix_cons _ _), htoken⟩
  | case3 c rest _ ih =>
    rcases List.mem_cons.1 h with rfl | h
    · exact ⟨c, rest, List.suffix_rfl, rfl⟩
    · obtain ⟨d, after, hsuffix, htoken⟩ := ih h
      exact ⟨d, after, hsuffix.trans ((suffix_nextToken c rest).trans (List.suffix_cons _ _)), htoken⟩

theorem isDigit_of_integerPart? {cs digits rest : List Char} (h : integerPart? cs = some (digits, rest)) :
    ∀ c ∈ digits, isDigit c := by
  unfold integerPart? at h
  split at h
  · cases h
    exact List.forall_mem_singleton.2 rfl
  · split at h
    · cases h
      exact fun _ => List.mem_takeWhile_imp
    · cases h
  · cases h

/-- The text has a run of so many digits, and they are too many. -/
def HasLongRun (text : List Char) (digits : Nat) : Prop :=
  maxDigits < digits ∧ ∃ run, run.length = digits ∧ (∀ c ∈ run, isDigit c) ∧ run <:+: text

theorem HasLongRun.of_suffix {cs text : List Char} {digits : Nat} (h : HasLongRun cs digits)
    (hsuffix : cs <:+ text) : HasLongRun text digits := by
  obtain ⟨hlong, run, hlength, hdigits, hrun⟩ := h
  exact ⟨hlong, run, hlength, hdigits, hrun.trans hsuffix.isInfix⟩

theorem hasLongRun_of_scanNumber? {negative : Bool} {cs rest : List Char} {digits : Nat}
    (h : scanNumber? negative cs = some (.tooLong digits, rest)) : HasLongRun cs digits := by
  unfold scanNumber? at h
  obtain ⟨⟨run, after⟩, hrun, h⟩ := Option.map_eq_some_iff.1 h
  dsimp only at h
  split at h
  · unfold integerNumber at h
    split at h
    · next hlong =>
      cases h
      obtain ⟨d, ds, rfl, rfl⟩ := integerPart?_eq_append hrun
      exact ⟨hlong, _, rfl, isDigit_of_integerPart? hrun, (List.prefix_append _ _).isInfix⟩
    · cases h
  · cases h

theorem hasLongRun_of_wordToken {cs : List Char} {digits : Nat}
    (h : (wordToken cs).1 = .number (.tooLong digits)) : HasLongRun cs digits := by
  unfold wordToken at h
  split at h
  · cases h
  · dsimp only at h
    split at h
    · next hnumber =>
      cases h
      obtain ⟨_, number, hsuffix, -, hnumber⟩ := exists_scanNumber? hnumber
      exact (hasLongRun_of_scanNumber? hnumber).of_suffix hsuffix
    · cases h

theorem hasLongRun_of_nextToken {c : Char} {rest : List Char} {digits : Nat}
    (h : (nextToken c rest).1 = .number (.tooLong digits)) : HasLongRun (c :: rest) digits := by
  unfold nextToken stringToken at h
  -- only a word can be a number
  repeat' split at h
  all_goals first
    | exact hasLongRun_of_wordToken h
    | cases h

theorem hasLongRun_of_lex {cs : List Char} {left digits : Nat}
    (h : (left, .number (.tooLong digits)) ∈ lex cs) : HasLongRun cs digits := by
  obtain ⟨c, rest, hsuffix, htoken⟩ := exists_nextToken h
  exact (hasLongRun_of_nextToken htoken.symm).of_suffix hsuffix

/-! ## Where reading stops -/

/-- A state in which a value may come next. -/
def State.AwaitsValue (state : State) : Prop :=
  state.awaiting = .value ∨ state.awaiting = .firstItem

/-- A value may come next and comes, but is not read. -/
inductive State.GivesUp [Host] (state : State) : Token → Stop → Prop
  | tooManyDigits {digits : Nat} : state.AwaitsValue →
      GivesUp state (.number (.tooLong digits)) (.tooManyDigits digits)
  | array : state.AwaitsValue → Host.opens state.stack.length = false →
      GivesUp state .openArray .tooDeep
  | table : state.AwaitsValue → Host.opens state.stack.length = false →
      GivesUp state .openTable .tooDeep

/-- The reader stops although nothing is wrong with the text. -/
def Stop.IsGivingUp : Stop → Prop
  | .fault _ => False
  | .tooManyDigits _ | .tooDeep => True

variable {stop : Stop}

theorem not_isGivingUp_blame {problem : Problem} {left : Nat} (h : blame problem left = .error stop) :
    ¬ stop.IsGivingUp := by
  cases h
  exact id

theorem beginField_not_isGivingUp {stack : List Frame} {before : List (Spelling × Document)} {left : Nat}
    {token : Token} (h : beginField stack before left token = .error stop) : ¬ stop.IsGivingUp := by
  unfold beginField at h
  split at h
  · cases h
  · cases h
    exact id
  · exact not_isGivingUp_blame h

theorem afterValue_not_isGivingUp {stack : List Frame} {v : Document} {left : Nat} {token : Token}
    (h : afterValue stack v left token = .error stop) : ¬ stop.IsGivingUp := by
  unfold afterValue at h
  split at h
  any_goals exact not_isGivingUp_blame h
  all_goals cases h

theorem finish_not_isGivingUp {state : State} (h : finish state = .error stop) : ¬ stop.IsGivingUp := by
  unfold finish at h
  split at h
  all_goals cases h
  all_goals exact id

section Reading

variable [Host] {state : State}

theorem givesUp_of_beginValue {left : Nat} {token : Token} (hawaits : state.AwaitsValue)
    (h : beginValue state.stack left token = .error stop) (hstop : stop.IsGivingUp) :
    state.GivesUp token stop := by
  unfold beginValue at h
  split at h
  · cases h
  · cases h
  · cases h
  · cases h
    exact .tooManyDigits hawaits
  · obtain ⟨hroom, rfl⟩ := opening_eq_error.1 h
    exact .array hawaits hroom
  · obtain ⟨hroom, rfl⟩ := opening_eq_error.1 h
    exact .table hawaits hroom
  · cases h
    exact hstop.elim
  · exact absurd hstop (not_isGivingUp_blame h)

theorem State.GivesUp.beginValue_eq {token : Token} (h : state.GivesUp token stop) (left : Nat) :
    beginValue state.stack left token = .error stop := by
  cases h with
  | tooManyDigits _ => rfl
  | array _ hroom => exact opening_eq_error.2 ⟨hroom, rfl⟩
  | table _ hroom => exact opening_eq_error.2 ⟨hroom, rfl⟩

/-- A token that is not read where a value may stand stops the reader, and no other does so without
that something is wrong. -/
theorem step_eq_error {left : Nat} {token : Token} (hstop : stop.IsGivingUp) :
    step state left token = .error stop ↔ state.GivesUp token stop := by
  obtain ⟨stack, awaiting⟩ := state
  constructor
  · intro h
    unfold step at h
    dsimp only at h
    -- one case for each line of `step`
    split at h
    · exact givesUp_of_beginValue (.inl rfl) h hstop
    · cases h
    · exact givesUp_of_beginValue (.inr rfl) h hstop
    · cases h
    · exact absurd hstop (beginField_not_isGivingUp h)
    · exact absurd hstop (beginField_not_isGivingUp h)
    · cases h
    · exact absurd hstop (not_isGivingUp_blame h)
    · exact absurd hstop (afterValue_not_isGivingUp h)
  · intro h
    have hbegin := h.beginValue_eq left
    have hawaits : State.AwaitsValue ⟨stack, awaiting⟩ := by cases h <;> assumption
    have hclose : token ≠ .closeArray := by cases h <;> simp
    unfold step
    dsimp only
    rcases hawaits with rfl | rfl
    · exact hbegin
    · split <;> first | exact hbegin | simp_all

/-- The state after some tokens, all of which are accepted. -/
def advance (state : State) : List (Nat × Token) → Except Stop State
  | [] => .ok state
  | (left, token) :: rest => (step state left token).bind fun state => advance state rest

/-- The tokens before the one that stops the reader are accepted. -/
theorem run_eq_error {tokens : List (Nat × Token)} (hstop : stop.IsGivingUp) :
    run state tokens = .error stop ↔ ∃ before left token after stopped,
      tokens = before ++ (left, token) :: after ∧ advance state before = .ok stopped ∧
      stopped.GivesUp token stop := by
  induction tokens generalizing state with
  | nil =>
    refine iff_of_false (fun h => finish_not_isGivingUp h hstop) ?_
    rintro ⟨before, left, token, after, stopped, h, -⟩
    exact List.cons_ne_nil _ _ (List.append_eq_nil_iff.1 h.symm).2
  | cons entry rest ih =>
    obtain ⟨left, token⟩ := entry
    unfold run
    constructor
    · intro h
      cases hstep : step state left token with
      | error found =>
        rw [hstep] at h
        cases h
        exact ⟨[], left, token, rest, state, rfl, rfl, (step_eq_error hstop).1 hstep⟩
      | ok next =>
        rw [hstep] at h
        obtain ⟨before, left', token', after, stopped, rfl, hadvance, hgives⟩ := ih.1 h
        refine ⟨(left, token) :: before, left', token', after, stopped, rfl, ?_, hgives⟩
        rw [advance, hstep]
        exact hadvance
    · rintro ⟨before, left', token', after, stopped, htokens, hadvance, hgives⟩
      -- the token that stops the reader is the first one, or the first is one of those before it
      cases before with
      | nil =>
        cases hadvance
        cases htokens
        rw [(step_eq_error hstop).2 hgives]
        rfl
      | cons entry before =>
        obtain ⟨rfl, rfl⟩ := List.cons.inj htokens
        rw [advance] at hadvance
        cases hstep : step state left token with
        | error found => rw [hstep] at hadvance; cases hadvance
        | ok next =>
          rw [hstep] at hadvance
          exact ih.2 ⟨before, left', token', after, stopped, rfl, hadvance, hgives⟩

end Reading

/-! ## Texts -/

/-- The text has a value that is not read where a value may stand, and nothing is wrong before it. -/
def Stops [Host] (text : List Char) (stop : Stop) : Prop :=
  text.head? ≠ some '\uFEFF' ∧ ∃ before left token after state,
    lex text = before ++ (left, token) :: after ∧
    advance ⟨[], .value⟩ before = .ok state ∧ state.GivesUp token stop

theorem stops_iff [Host] {text : List Char} (hmark : text.head? ≠ some '\uFEFF') (hstop : stop.IsGivingUp) :
    Stops text stop ↔ run ⟨[], .value⟩ (lex text) = .error stop := by
  rw [run_eq_error hstop]
  exact and_iff_right hmark

/-- What is said where reading gives up. -/
inductive Stop.Tells : Stop → ReadError → Prop
  | tooManyDigits (digits : Nat) : Tells (.tooManyDigits digits) (.tooManyDigits digits)
  | tooDeep : Tells .tooDeep .tooDeep

/-- Reading gives up exactly if it stops at a value that is not read. -/
theorem read_eq_error [Host] {text : List Char} {e : ReadError} (h : stop.Tells e) :
    read text = .error e ↔ Stops text stop := by
  have hstop : stop.IsGivingUp := by cases h <;> exact trivial
  unfold read
  split
  · next hmark =>
    refine iff_of_false (fun he => ?_) fun hstops => hstops.1 hmark
    cases he
    cases h
  next hmark =>
  rw [stops_iff hmark hstop]
  cases run ⟨[], .value⟩ (lex text) with
  | ok v => simp
  | error found => cases h <;> cases found <;> simp

/-- Reading gives up over an integer exactly if it gets to one that is too long. -/
theorem read_eq_tooManyDigits [Host] {text : List Char} {digits : Nat} :
    read text = .error (.tooManyDigits digits) ↔ Stops text (.tooManyDigits digits) :=
  read_eq_error (.tooManyDigits digits)

/-- Reading gives up over the depth of a text exactly if it gets to a bracket that lies too deep. -/
theorem read_eq_tooDeep [Host] {text : List Char} : read text = .error .tooDeep ↔ Stops text .tooDeep :=
  read_eq_error .tooDeep

/-- A text that is given up over an integer has a run of so many digits. -/
theorem Stops.hasLongRun [Host] {text : List Char} {digits : Nat} (h : Stops text (.tooManyDigits digits)) :
    HasLongRun text digits := by
  obtain ⟨-, before, left, token, after, _, hlex, -, hgives⟩ := h
  cases hgives
  have htoken : (left, .number (.tooLong digits)) ∈ lex text := by
    rw [hlex]
    exact List.mem_append_right _ (.head _)
  exact hasLongRun_of_lex htoken

/-! ## Depth -/

/-- Whether a character opens an array or table where it is a token. -/
def isOpening (c : Char) : Bool := c = '[' || c = '\x7b'

/-- How many tokens open an array or table. -/
def openings (tokens : List (Nat × Token)) : Nat :=
  tokens.countP fun entry => entry.2 matches .openArray | .openTable

/-- How many arrays and tables are open in a state. -/
def State.depth (state : State) : Nat :=
  state.stack.length +
    match state.awaiting with
    | .firstName | .name _ | .colon .. => 1
    | .value | .firstItem | .next _ => 0

/-- A bracket that opens stands in the text. -/
theorem openings_lex_le (cs : List Char) : openings (lex cs) ≤ cs.countP isOpening := by
  fun_induction lex cs with
  | case1 => exact Nat.le_refl 0
  | case2 c rest _ ih => exact Nat.le_trans ih (List.Sublist.countP_le (List.sublist_cons_self c rest))
  | case3 c rest _ ih =>
    have hrest : (nextToken c rest).2.countP isOpening ≤ rest.countP isOpening :=
      (suffix_nextToken c rest).sublist.countP_le
    have htoken : (nextToken c rest).1 matches .openArray | .openTable → isOpening c = true := by
      unfold nextToken stringToken wordToken
      grind [isOpening]
    unfold openings at ih ⊢
    rw [List.countP_cons, List.countP_cons]
    grind

section Depth

variable {state next : State} {stack : List Frame} {left : Nat} {token : Token}

theorem depth_beginValue [Host] (h : beginValue stack left token = .ok next) :
    next.depth ≤ stack.length + openings [(left, token)] := by
  unfold beginValue at h
  split at h
  · cases h; exact Nat.le_refl _
  · cases h; exact Nat.le_refl _
  · cases h; exact Nat.le_refl _
  · cases h
  · obtain ⟨-, rfl⟩ := opening_eq_ok.1 h
    exact Nat.le_refl _
  · obtain ⟨-, rfl⟩ := opening_eq_ok.1 h
    exact Nat.le_refl _
  · cases h
  · cases h

theorem depth_beginField {before : List (Spelling × Document)} (h : beginField stack before left token = .ok next) :
    next.depth = stack.length + 1 := by
  unfold beginField at h
  split at h
  · cases h; rfl
  · cases h
  · cases h

theorem depth_afterValue {v : Document} (h : afterValue stack v left token = .ok next) :
    next.depth ≤ stack.length := by
  unfold afterValue at h
  split at h
  · cases h
  · cases h; exact Nat.le_refl _
  · cases h; exact Nat.le_succ _
  · cases h; exact Nat.le_refl _
  · cases h; exact Nat.le_succ _
  · cases h

/-- A token opens one array or table at most. -/
theorem depth_step [Host] (h : step state left token = .ok next) :
    next.depth ≤ state.depth + openings [(left, token)] := by
  obtain ⟨stack, awaiting⟩ := state
  unfold step at h
  dsimp only at h
  -- one case for each line of `step`
  split at h
  · exact depth_beginValue h
  · cases h
    exact Nat.le_succ _
  · exact depth_beginValue h
  · cases h
    exact Nat.le_succ _
  · rw [depth_beginField h]
    exact Nat.le_add_right _ _
  · rw [depth_beginField h]
    exact Nat.le_add_right _ _
  · cases h
    exact Nat.le_refl _
  · cases h
  · exact Nat.le_trans (depth_afterValue h) (Nat.le_add_right _ _)

/-- No more are open than were opened. -/
theorem depth_advance [Host] {tokens : List (Nat × Token)} (h : advance state tokens = .ok next) :
    next.depth ≤ state.depth + openings tokens := by
  induction tokens generalizing state with
  | nil =>
    cases h
    exact Nat.le_refl _
  | cons entry rest ih =>
    obtain ⟨middle, hstep, hrest⟩ := bind_eq_ok.1 h
    have hfirst : middle.depth ≤ state.depth + openings [entry] := depth_step hstep
    have hcount : openings (entry :: rest) = openings rest + openings [entry] := by
      rw [openings, List.countP_cons, openings, openings, List.countP_singleton]
    have hmore := ih hrest
    omega

end Depth

/-- A text that is given up over its depth has a bracket at a depth for which there is no room. -/
theorem Stops.deep [Host] {text : List Char} (h : Stops text .tooDeep) :
    ∃ depth < text.countP isOpening, Host.opens depth = false := by
  obtain ⟨-, before, left, token, after, state, hlex, hadvance, hgives⟩ := h
  have hdepth : state.stack.length ≤ openings before := by
    have h : state.depth ≤ 0 + openings before := depth_advance hadvance
    rw [Nat.zero_add] at h
    exact Nat.le_trans (Nat.le_add_right _ _) h
  have htoken : openings ((left, token) :: after) ≠ 0 ∧ Host.opens state.stack.length = false := by
    cases hgives with
    | array _ hroom => exact ⟨by simp [openings], hroom⟩
    | table _ hroom => exact ⟨by simp [openings], hroom⟩
  have hall := openings_lex_le text
  rw [hlex, openings, List.countP_append] at hall
  refine ⟨_, ?_, htoken.2⟩
  have hpos := Nat.pos_of_ne_zero htoken.1
  unfold openings at hdepth hpos
  omega

end ToolSites.Json
