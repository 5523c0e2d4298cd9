import ToolSites.Json.Reader
import ToolSites.Proofs.Results
/-!
# Tables that are read have each name once

Of a name that a table gives twice the reader keeps one value, so that no table in a document
that was read has a name twice: `read_distinct`. What the reader has read so far is kept
`Distinct` by every token (`State.Distinct.step`), since a field is put among those before it
in one place only.
-/

namespace ToolSites.Json

/-- No table in the document has a name twice. -/
inductive Document.Distinct : Document → Prop
  | null : Distinct .null
  | boolean (b : Bool) : Distinct (.boolean b)
  | integer (n : Int) : Distinct (.integer n)
  | real (x : Binary64) : Distinct (.real x)
  | text (s : Spelling) : Distinct (.text s)
  | array {items : List Document} : (∀ v ∈ items, Distinct v) → Distinct (.array items)
  | table {fields : List (Spelling × Document)} : (Entries.names fields).Nodup →
      (∀ f ∈ fields, Distinct f.2) → Distinct (.table fields)

/-! ## Tokens -/

/-- A token that is a value is distinct. -/
def Token.Distinct : Token → Prop
  | .number (.value v) => v.Distinct
  | .literal v => v.Distinct
  | _ => True

theorem distinct_literal? {cs rest : List Char} {v : Document} (h : literal? cs = some (v, rest)) :
    v.Distinct := by
  obtain ⟨⟨word, w⟩, hm, hw⟩ := List.exists_of_findSome?_eq_some h
  have hliterals : ∀ e ∈ literals, e.2.Distinct := by
    simp only [literals, List.forall_mem_cons]
    exact ⟨.null, .boolean _, .boolean _, .real _, .real _, .real _, List.forall_mem_nil _⟩
  dsimp only at hw
  split at hw
  · cases hw
    exact hliterals _ hm
  · cases hw

theorem distinct_scanNumber? {negative : Bool} {cs rest : List Char} {n : Number}
    (h : scanNumber? negative cs = some (n, rest)) : Token.Distinct (.number n) := by
  unfold scanNumber? at h
  obtain ⟨⟨digits, after⟩, -, h⟩ := Option.map_eq_some_iff.1 h
  dsimp only at h
  split at h
  · cases h
    unfold integerNumber
    split
    · trivial
    · exact Document.Distinct.integer _
  · cases h
    exact Document.Distinct.real _

theorem distinct_wordToken (cs : List Char) : (wordToken cs).1.Distinct := by
  unfold wordToken
  split
  · next hl => exact distinct_literal? hl
  · dsimp only
    split
    · next hn =>
      split at hn
      · exact distinct_scanNumber? hn
      · exact distinct_scanNumber? hn
    · trivial

theorem distinct_stringToken (rest : List Char) : (stringToken rest).1.Distinct := by
  unfold stringToken
  split
  · trivial
  · trivial

theorem distinct_nextToken (c : Char) (rest : List Char) : (nextToken c rest).1.Distinct := by
  unfold nextToken
  repeat' split
  all_goals first
    | trivial
    | exact distinct_stringToken rest
    | exact distinct_wordToken (c :: rest)

theorem distinct_lex (cs : List Char) : ∀ token ∈ lex cs, token.2.Distinct := by
  fun_induction lex cs with
  | case1 => exact List.forall_mem_nil _
  | case2 c rest hb ih => exact ih
  | case3 c rest hb ih => exact List.forall_mem_cons.2 ⟨distinct_nextToken c rest, ih⟩

/-! ## States -/

/-- The fields have different names and distinct values. -/
def FieldsDistinct (fields : List (Spelling × Document)) : Prop :=
  (Entries.names fields).Nodup ∧ ∀ f ∈ fields, f.2.Distinct

theorem fieldsDistinct_nil : FieldsDistinct [] := ⟨List.nodup_nil, List.forall_mem_nil _⟩

theorem FieldsDistinct.put {fields : List (Spelling × Document)} (h : FieldsDistinct fields) (name : Spelling)
    {v : Document} (hv : v.Distinct) : FieldsDistinct (Entries.put name v fields) := by
  refine ⟨Entries.nodup_put h.1 name v, fun f hf => ?_⟩
  rcases Entries.mem_put hf with rfl | hf
  · exact hv
  · exact h.2 f hf

/-- What was read of an array or table that is still open. -/
def Frame.Distinct : Frame → Prop
  | .array before => ∀ v ∈ before, v.Distinct
  | .table before _ => FieldsDistinct before

/-- What was read since the last array or table was opened. -/
def Awaiting.Distinct : Awaiting → Prop
  | .value | .firstItem | .firstName => True
  | .name before => FieldsDistinct before
  | .colon before _ => FieldsDistinct before
  | .next v => v.Distinct

/-- All that was read. -/
structure State.Distinct (state : State) : Prop where
  stack : ∀ frame ∈ state.stack, frame.Distinct
  awaiting : state.awaiting.Distinct

variable {stack : List Frame} {state next : State} {left : Nat} {token : Token}

theorem distinct_beginValue [Host] (hstack : ∀ frame ∈ stack, frame.Distinct) (htoken : token.Distinct)
    (h : beginValue stack left token = .ok next) : next.Distinct := by
  unfold beginValue at h
  split at h
  · cases h; exact ⟨hstack, Document.Distinct.text _⟩
  · cases h; exact ⟨hstack, htoken⟩
  · cases h; exact ⟨hstack, htoken⟩
  · cases h
  · obtain ⟨-, rfl⟩ := opening_eq_ok.1 h
    exact ⟨List.forall_mem_cons.2 ⟨List.forall_mem_nil _, hstack⟩, trivial⟩
  · obtain ⟨-, rfl⟩ := opening_eq_ok.1 h
    exact ⟨hstack, trivial⟩
  · cases h
  · cases h

theorem distinct_beginField {before : List (Spelling × Document)} (hstack : ∀ frame ∈ stack, frame.Distinct)
    (hbefore : FieldsDistinct before) (h : beginField stack before left token = .ok next) :
    next.Distinct := by
  unfold beginField at h
  split at h
  · cases h; exact ⟨hstack, hbefore⟩
  · cases h
  · cases h

theorem distinct_afterValue {v : Document} (hstack : ∀ frame ∈ stack, frame.Distinct) (hv : v.Distinct)
    (h : afterValue stack v left token = .ok next) : next.Distinct := by
  unfold afterValue at h
  split at h
  · cases h
  -- an item, and another one follows
  · cases h
    obtain ⟨hbefore, hstack⟩ := List.forall_mem_cons.1 hstack
    exact ⟨List.forall_mem_cons.2 ⟨List.forall_mem_cons.2 ⟨hv, hbefore⟩, hstack⟩, trivial⟩
  · cases h
    obtain ⟨hbefore, hstack⟩ := List.forall_mem_cons.1 hstack
    refine ⟨hstack, Document.Distinct.array fun w hw => ?_⟩
    exact List.forall_mem_cons.2 ⟨hv, hbefore⟩ w (List.mem_reverse.1 hw)
  -- a field, and another one follows
  · cases h
    obtain ⟨hbefore, hstack⟩ := List.forall_mem_cons.1 hstack
    exact ⟨hstack, FieldsDistinct.put hbefore _ hv⟩
  · cases h
    obtain ⟨hbefore, hstack⟩ := List.forall_mem_cons.1 hstack
    have hfields := FieldsDistinct.put hbefore ‹Spelling› hv
    exact ⟨hstack, Document.Distinct.table hfields.1 hfields.2⟩
  · cases h

/-- A token keeps what was read distinct. -/
theorem State.Distinct.step [Host] (hstate : state.Distinct) (htoken : token.Distinct)
    (h : step state left token = .ok next) : next.Distinct := by
  obtain ⟨stack, awaiting⟩ := state
  obtain ⟨hstack, hawaiting⟩ := hstate
  dsimp only at hstack hawaiting
  unfold Json.step at h
  dsimp only at h
  -- one case for each line of `step`
  split at h
  · exact distinct_beginValue hstack htoken h
  · cases h
    exact ⟨(List.forall_mem_cons.1 hstack).2, Document.Distinct.array (List.forall_mem_nil _)⟩
  · exact distinct_beginValue hstack htoken h
  · cases h
    exact ⟨hstack, Document.Distinct.table List.nodup_nil (List.forall_mem_nil _)⟩
  · exact distinct_beginField hstack fieldsDistinct_nil h
  · exact distinct_beginField hstack hawaiting h
  · cases h
    exact ⟨List.forall_mem_cons.2 ⟨hawaiting, hstack⟩, trivial⟩
  · cases h
  · exact distinct_afterValue hstack hawaiting h

/-- The document that is read is distinct. -/
theorem distinct_run [Host] {tokens : List (Nat × Token)} {v : Document} (hstate : state.Distinct)
    (htokens : ∀ token ∈ tokens, token.2.Distinct) (h : run state tokens = .ok v) : v.Distinct := by
  induction tokens generalizing state with
  | nil =>
    unfold run finish at h
    split at h
    · next heq _ =>
      cases h
      have hnext := hstate.awaiting
      rw [heq] at hnext
      exact hnext
    all_goals cases h
  | cons token rest ih =>
    obtain ⟨next, hstep, hrun⟩ := bind_eq_ok.1 h
    obtain ⟨htoken, hrest⟩ := List.forall_mem_cons.1 htokens
    exact ih (hstate.step htoken hstep) hrest hrun

/-- A document that was read from a text has no table with a name twice. -/
theorem read_distinct [Host] {text : List Char} {v : Document} (h : read text = .ok v) : v.Distinct := by
  unfold read at h
  split at h
  · cases h
  · split at h
    · next hrun =>
      cases h
      have hstart : State.Distinct ⟨[], .value⟩ := ⟨List.forall_mem_nil _, trivial⟩
      exact distinct_run hstart (distinct_lex text) hrun
    · cases h
    · cases h
    · cases h

end ToolSites.Json
