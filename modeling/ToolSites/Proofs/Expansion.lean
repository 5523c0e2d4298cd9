import Mathlib.Data.List.Basic
import Mathlib.Data.List.TakeWhile
import ToolSites.Config.Load
/-!
# What variables do to a document

A text falls into pieces in one way only, whatever the variables are: `IsSegmentation` says
how, and `isSegmentation_iff` that `pieces` are the one segmentation. Expansion puts values in
the place of some pieces and is done, so that nothing it puts there is read again.

Of a document, expansion changes the texts and nothing else. Its texts (`Value.texts`) and what
is left without them (`Value.blank`) are all that there is to it (`Value.eq_of_blank`), so that
the rest is said of texts alone: without variables nothing changes, and variables to which
nothing refers play no part. Nor do they decide whether the machine gets to the end of a document:
what keeps it from there is said by `Value.exists_of_fault?`.
-/

namespace ToolSites

/-! ## References -/

namespace Piece

/-- The piece is a dollar sign with a name: of word characters, or between braces. -/
def IsReference : Piece → Prop
  | .literal _ => False
  | .plain name => name ≠ [] ∧ ∀ c ∈ name, Text.isWord c = true
  | .braced name => name ≠ [] ∧ '\x7d' ∉ name

/-- The text starts with a reference. -/
def StartsReference (cs : List Char) : Prop :=
  ∃ (p : Piece) (rest : List Char), p.IsReference ∧ cs = p.raw ++ rest

/-- The piece is the right one where the text `after` follows it. A character stands for itself
only if no reference starts with it, and a name of word characters is as long as it can be. -/
def Fits (p : Piece) (after : List Char) : Prop :=
  match p with
  | .literal c => ¬ StartsReference (c :: after)
  | .plain name => IsReference (.plain name) ∧ ∀ c, after.head? = some c → Text.isWord c = false
  | .braced name => IsReference (.braced name)

theorem startsReference_head {c : Char} {rest : List Char} (h : StartsReference (c :: rest)) :
    c = '$' := by
  obtain ⟨p, after, hp, he⟩ := h
  cases p with
  | literal d => exact hp.elim
  | plain name => exact (List.cons.inj he).1
  | braced name => exact (List.cons.inj he).1

/-! ### Reading one -/

theorem takeWhile_of_boundary {p : Char → Bool} {name after : List Char} (hname : ∀ c ∈ name, p c = true)
    (hafter : ∀ c, after.head? = some c → p c = false) :
    (name ++ after).takeWhile p = name ∧ (name ++ after).dropWhile p = after := by
  rw [List.takeWhile_append_of_pos hname, List.dropWhile_append_of_pos hname]
  cases after with
  | nil => simp
  | cons c rest => simp [hafter c rfl]

theorem boundary_dropWhile (p : Char → Bool) (cs : List Char) (c : Char)
    (h : (cs.dropWhile p).head? = some c) : p c = false := by
  have hnot := List.head?_dropWhile_not p cs
  rw [h] at hnot
  simpa using hnot

/-- What is read after a dollar sign is a reference, and the right one. -/
theorem fits_of_reference? {cs after : List Char} {p : Piece} (h : reference? cs = some (p, after)) :
    p.IsReference ∧ p.Fits after := by
  unfold reference? at h
  split at h
  · next rest =>
    split at h
    · next c name after ht hd =>
      cases h
      have hname : '\x7d' ∉ c :: name := by
        intro hm
        rw [← ht] at hm
        simpa using List.mem_takeWhile_imp hm
      exact ⟨⟨List.cons_ne_nil _ _, hname⟩, List.cons_ne_nil _ _, hname⟩
    · cases h
  · split at h
    · cases h
    · next c name ht =>
      cases h
      have hword : IsReference (.plain (c :: name)) := by
        refine ⟨List.cons_ne_nil _ _, fun d hd => ?_⟩
        rw [← ht] at hd
        exact List.mem_takeWhile_imp hd
      exact ⟨hword, hword, boundary_dropWhile Text.isWord cs⟩

/-- Where a reference stands that is the right one, it is read. -/
theorem reference?_of_fits {cs after : List Char} {p : Piece} (hp : p.IsReference) (hfits : p.Fits after)
    (hraw : p.raw ++ after = '$' :: cs) : reference? cs = some (p, after) := by
  cases p with
  | literal c => exact hp.elim
  | plain name =>
    obtain ⟨hne, hword⟩ := hp
    obtain ⟨c, rest, rfl⟩ := List.exists_cons_of_ne_nil hne
    obtain rfl : c :: rest ++ after = cs := (List.cons.inj hraw).2
    obtain ⟨htake, hdrop⟩ := takeWhile_of_boundary hword hfits.2
    unfold reference?
    split
    · next heq =>
      -- a brace is no word character
      have hbrace : Text.isWord '\x7b' = true := (List.cons.inj heq).1 ▸ hword c (.head _)
      exact absurd hbrace (by decide)
    · rw [htake, hdrop]
  | braced name =>
    obtain ⟨hne, hfree⟩ := hp
    obtain ⟨c, rest, rfl⟩ := List.exists_cons_of_ne_nil hne
    obtain rfl : '\x7b' :: (c :: rest ++ '\x7d' :: after) = cs := by simpa [raw] using hraw
    have hname : ∀ d ∈ c :: rest, (d != '\x7d') = true := by
      intro d hd
      rw [bne_iff_ne]
      rintro rfl
      exact hfree hd
    have hend : ∀ d, ('\x7d' :: after).head? = some d → (d != '\x7d') = false := by simp
    obtain ⟨htake, hdrop⟩ := takeWhile_of_boundary hname hend
    rw [reference?, htake, hdrop]
    rfl

/-- Nothing is read only where no reference starts. -/
theorem reference?_eq_none {cs : List Char} : reference? cs = none ↔ ¬ StartsReference ('$' :: cs) := by
  constructor
  · rintro h ⟨p, rest, hp, he⟩
    cases p with
    | literal c => exact hp.elim
    | plain name =>
      -- what follows may belong to the name
      have hcs : cs = name ++ rest := (List.cons.inj he).2
      have hlong : IsReference (.plain (cs.takeWhile Text.isWord)) := by
        refine ⟨?_, fun c hc => List.mem_takeWhile_imp hc⟩
        rw [hcs, List.takeWhile_append_of_pos hp.2]
        exact List.append_ne_nil_of_left_ne_nil hp.1 _
      have hraw : '$' :: cs.takeWhile Text.isWord ++ cs.dropWhile Text.isWord = '$' :: cs := by
        rw [List.cons_append, List.takeWhile_append_dropWhile]
      have hread := reference?_of_fits hlong ⟨hlong, boundary_dropWhile Text.isWord cs⟩ hraw
      rw [h] at hread
      cases hread
    | braced name =>
      have hread := reference?_of_fits (p := .braced name) hp hp he.symm
      rw [h] at hread
      cases hread
  · intro h
    cases hread : reference? cs with
    | none => rfl
    | some found =>
      obtain ⟨p, after⟩ := found
      exact absurd ⟨p, after, (fits_of_reference? hread).1, (raw_reference? hread).symm⟩ h

end Piece

/-! ## Segmentations -/

/-- The pieces make up the text, and each is the right one where it stands. -/
structure IsSegmentation (cs : List Char) (ps : List Piece) : Prop where
  raw : ps.flatMap Piece.raw = cs
  fits : ∀ before p after, ps = before ++ p :: after → p.Fits (after.flatMap Piece.raw)

theorem isSegmentation_nil {cs : List Char} : IsSegmentation cs [] ↔ cs = [] := by
  constructor
  · intro h
    exact h.raw.symm
  · rintro rfl
    refine ⟨rfl, fun before p after h => ?_⟩
    exact absurd h.symm (List.append_ne_nil_of_right_ne_nil _ (List.cons_ne_nil _ _))

theorem isSegmentation_cons {cs : List Char} {p : Piece} {ps : List Piece} :
    IsSegmentation cs (p :: ps) ↔ ∃ after, cs = p.raw ++ after ∧ p.Fits after ∧ IsSegmentation after ps := by
  constructor
  · intro h
    refine ⟨ps.flatMap Piece.raw, h.raw.symm, h.fits [] p ps rfl, rfl, fun before q after hq => ?_⟩
    exact h.fits (p :: before) q after (by rw [hq, List.cons_append])
  · rintro ⟨after, rfl, hfits, hraw, hrest⟩
    refine ⟨by rw [List.flatMap_cons, hraw], fun before q later hq => ?_⟩
    cases before with
    | nil =>
      obtain ⟨rfl, rfl⟩ := List.cons.inj hq
      rwa [hraw]
    | cons first before =>
      exact hrest before q later (List.cons.inj hq).2

theorem pieces_reference {p : Piece} {cs after : List Char} (hp : p.IsReference) (hfits : p.Fits after)
    (hraw : p.raw ++ after = '$' :: cs) : pieces ('$' :: cs) = p :: pieces after := by
  have hread := Piece.reference?_of_fits hp hfits hraw
  rw [pieces, if_pos rfl]
  split
  · next hsome => rw [hread] at hsome; cases hsome; rfl
  · next hnone => rw [hread] at hnone; cases hnone

theorem pieces_literal {c : Char} {cs : List Char} (h : ¬ Piece.StartsReference (c :: cs)) :
    pieces (c :: cs) = .literal c :: pieces cs := by
  rw [pieces]
  split
  · next hc =>
    subst hc
    split
    · next hread => rw [Piece.reference?_eq_none.2 h] at hread; cases hread
    · rfl
  · rfl

theorem isSegmentation_pieces (cs : List Char) : IsSegmentation cs (pieces cs) := by
  fun_induction pieces cs with
  | case1 => exact isSegmentation_nil.2 rfl
  | case2 rest p after h ih =>
    exact isSegmentation_cons.2
      ⟨after, (Piece.raw_reference? h).symm, (Piece.fits_of_reference? h).2, ih⟩
  | case3 rest h ih => exact isSegmentation_cons.2 ⟨rest, rfl, Piece.reference?_eq_none.1 h, ih⟩
  | case4 c rest h ih =>
    exact isSegmentation_cons.2 ⟨rest, rfl, fun hs => h (Piece.startsReference_head hs), ih⟩

/-- A text has one segmentation. -/
theorem isSegmentation_iff {cs : List Char} {ps : List Piece} : IsSegmentation cs ps ↔ ps = pieces cs := by
  refine ⟨fun h => ?_, fun h => h ▸ isSegmentation_pieces cs⟩
  induction ps generalizing cs with
  | nil => rw [isSegmentation_nil.1 h, pieces]
  | cons p rest ih =>
    obtain ⟨after, rfl, hfits, hrest⟩ := isSegmentation_cons.1 h
    rw [ih hrest]
    cases p with
    | literal c => exact (pieces_literal hfits).symm
    | plain name => exact (pieces_reference (p := .plain name) hfits.1 hfits rfl).symm
    | braced name => exact (pieces_reference (p := .braced name) hfits hfits rfl).symm

/-! ## Texts -/

theorem toList_expandText (vars : Variables) (s : String) :
    (expandText vars s).toList = (pieces s.toList).flatMap (Piece.expanded vars) :=
  String.toList_ofList

/-- Only the values of the variables to which a text refers play a part. -/
theorem expandText_congr {vars other : Variables} {s : String}
    (h : ∀ name ∈ referencesOf s, vars name = other name) : expandText vars s = expandText other s := by
  have hpiece : ∀ p ∈ pieces s.toList, p.expanded vars = p.expanded other := by
    intro p hp
    unfold Piece.expanded
    cases hn : p.name? with
    | none => rfl
    | some name => rw [Option.bind_some, Option.bind_some, h name (List.mem_filterMap.2 ⟨p, hp, hn⟩)]
  rw [expandText, expandText, List.flatMap_congr hpiece]

/-- Without variables a text stays as it is. -/
theorem expandText_none (s : String) : expandText (fun _ => none) s = s := by
  have hpiece : Piece.expanded (fun _ => none) = Piece.raw := by
    funext p
    simp [Piece.expanded]
  rw [expandText, hpiece, flatMap_raw_pieces, String.ofList_toList]

/-! ## Documents -/

namespace Value

/-- What holds of an array if it holds of its items, of a table if it holds of the values of its
fields, and of every other value, holds of all values. -/
@[elab_as_elim]
theorem induct {P : Value → Prop} (null : P .null) (boolean : ∀ b, P (.boolean b))
    (integer : ∀ n, P (.integer n)) (real : ∀ x, P (.real x)) (text : ∀ s, P (.text s))
    (moment : ∀ lexeme, P (.moment lexeme)) (array : ∀ items, (∀ v ∈ items, P v) → P (.array items))
    (table : ∀ fields, (∀ f ∈ fields, P f.2) → P (.table fields)) (v : Value) : P v :=
  @Value.rec P (fun items => ∀ v ∈ items, P v) (fun fields => ∀ f ∈ fields, P f.2) (fun f => P f.2)
    null boolean integer real text moment array table (List.forall_mem_nil _)
    (fun _ _ hv hrest => List.forall_mem_cons.2 ⟨hv, hrest⟩) (List.forall_mem_nil _)
    (fun _ _ hf hrest => List.forall_mem_cons.2 ⟨hf, hrest⟩) (fun _ _ hv => hv) v

/-! ### What the texts leave over -/

mutual

/-- The value with all its texts empty: its names, its lists and its other values. -/
def blank : Value → Value
  | .text _ => .text ""
  | .array items => .array (blankItems items)
  | .table fields => .table (blankFields fields)
  | .null => .null
  | .boolean b => .boolean b
  | .integer n => .integer n
  | .real x => .real x
  | .moment lexeme => .moment lexeme

/-- Each item with its texts empty. -/
def blankItems : List Value → List Value
  | [] => []
  | v :: rest => blank v :: blankItems rest

/-- Each field with its texts empty. -/
def blankFields : List (String × Value) → List (String × Value)
  | [] => []
  | (name, v) :: rest => (name, blank v) :: blankFields rest

end

mutual

/-- The texts in the value, in order. -/
def texts : Value → List String
  | .text s => [s]
  | .array items => itemTexts items
  | .table fields => fieldTexts fields
  | .null | .boolean _ | .integer _ | .real _ | .moment _ => []

/-- The texts in the items. -/
def itemTexts : List Value → List String
  | [] => []
  | v :: rest => texts v ++ itemTexts rest

/-- The texts in the values of the fields. -/
def fieldTexts : List (String × Value) → List String
  | [] => []
  | (_, v) :: rest => texts v ++ fieldTexts rest

end

/-! ### Part by part -/

@[simp]
theorem blankItems_eq_map (items : List Value) : blankItems items = items.map blank := by
  induction items with
  | nil => rfl
  | cons v rest ih => rw [blankItems, ih, List.map_cons]

@[simp]
theorem blankFields_eq_map (fields : List (String × Value)) :
    blankFields fields = fields.map fun f => (f.1, f.2.blank) := by
  induction fields with
  | nil => rfl
  | cons f rest ih => rw [blankFields, ih, List.map_cons]

@[simp]
theorem itemTexts_eq_flatMap (items : List Value) : itemTexts items = items.flatMap texts := by
  induction items with
  | nil => rfl
  | cons v rest ih => rw [itemTexts, ih, List.flatMap_cons]

@[simp]
theorem fieldTexts_eq_flatMap (fields : List (String × Value)) :
    fieldTexts fields = fields.flatMap fun f => f.2.texts := by
  induction fields with
  | nil => rfl
  | cons f rest ih => rw [fieldTexts, ih, List.flatMap_cons]

@[simp]
theorem expandItems_eq_map (vars : Variables) (items : List Value) :
    expandItems vars items = items.map (expand vars) := by
  induction items with
  | nil => rfl
  | cons v rest ih => rw [expandItems, ih, List.map_cons]

@[simp]
theorem expandFields_eq_map (vars : Variables) (fields : List (String × Value)) :
    expandFields vars fields = fields.map fun f => (f.1, f.2.expand vars) := by
  induction fields with
  | nil => rfl
  | cons f rest ih => rw [expandFields, ih, List.map_cons]

@[simp]
theorem itemReferences_eq_flatMap (items : List Value) :
    itemReferences items = items.flatMap references := by
  induction items with
  | nil => rfl
  | cons v rest ih => rw [itemReferences, ih, List.flatMap_cons]

@[simp]
theorem fieldReferences_eq_flatMap (fields : List (String × Value)) :
    fieldReferences fields = fields.flatMap fun f => f.2.references := by
  induction fields with
  | nil => rfl
  | cons f rest ih => rw [fieldReferences, ih, List.flatMap_cons]

/-! ### What is expanded -/

theorem blank_expand (vars : Variables) (v : Value) : (v.expand vars).blank = v.blank := by
  induction v using induct with
  | array items ih =>
    have hitems : (items.map (expand vars)).map blank = items.map blank := by
      rw [List.map_map]
      exact List.map_congr_left ih
    simp only [expand, blank, expandItems_eq_map, blankItems_eq_map, hitems]
  | table fields ih =>
    have hfields : (fields.map fun f => (f.1, f.2.expand vars)).map (fun f => (f.1, f.2.blank)) =
        fields.map fun f => (f.1, f.2.blank) := by
      rw [List.map_map]
      exact List.map_congr_left fun f hf => Prod.ext rfl (ih f hf)
    simp only [expand, blank, expandFields_eq_map, blankFields_eq_map, hfields]
  | _ => rfl

/-- Each text is expanded, in its place. -/
theorem texts_expand (vars : Variables) (v : Value) :
    (v.expand vars).texts = v.texts.map (expandText vars) := by
  induction v using induct with
  | array items ih =>
    simp only [expand, texts, expandItems_eq_map, itemTexts_eq_flatMap, List.flatMap_map, List.map_flatMap]
    exact List.flatMap_congr ih
  | table fields ih =>
    simp only [expand, texts, expandFields_eq_map, fieldTexts_eq_flatMap, List.flatMap_map, List.map_flatMap]
    exact List.flatMap_congr ih
  | _ => rfl

/-- The references of a value are those of its texts. -/
theorem references_eq (v : Value) : v.references = v.texts.flatMap referencesOf := by
  induction v using induct with
  | array items ih =>
    simp only [references, texts, itemReferences_eq_flatMap, itemTexts_eq_flatMap, List.flatMap_assoc]
    exact List.flatMap_congr ih
  | table fields ih =>
    simp only [references, texts, fieldReferences_eq_flatMap, fieldTexts_eq_flatMap, List.flatMap_assoc]
    exact List.flatMap_congr ih
  | text s => exact (List.flatMap_singleton referencesOf s).symm
  | _ => rfl

/-! ### Texts and the rest -/

/-- How many texts a value has is left over without them. -/
theorem length_texts_blank (v : Value) : v.blank.texts.length = v.texts.length := by
  induction v using induct with
  | array items ih =>
    simp only [blank, texts, blankItems_eq_map, itemTexts_eq_flatMap, List.length_flatMap, List.map_map]
    exact congrArg List.sum (List.map_congr_left ih)
  | table fields ih =>
    simp only [blank, texts, blankFields_eq_map, fieldTexts_eq_flatMap, List.length_flatMap, List.map_map]
    exact congrArg List.sum (List.map_congr_left ih)
  | _ => rfl

theorem length_texts_of_blank {v w : Value} (h : v.blank = w.blank) : v.texts.length = w.texts.length := by
  rw [← length_texts_blank v, h, length_texts_blank w]

/-- Lists of parts are the same if the parts are told apart by what is left of them and by their
texts, and these are the same for both lists. -/
theorem eq_of_parts {α : Type} {rest : α → α} {texts : α → List String} {parts others : List α}
    (heq : ∀ a ∈ parts, ∀ b, rest a = rest b → texts a = texts b → a = b)
    (hlength : ∀ a b, rest a = rest b → (texts a).length = (texts b).length)
    (hrest : parts.map rest = others.map rest) (htexts : parts.flatMap texts = others.flatMap texts) :
    parts = others := by
  induction parts generalizing others with
  | nil =>
    cases others with
    | nil => rfl
    | cons b more => cases hrest
  | cons a tail ih =>
    cases others with
    | nil => cases hrest
    | cons b more =>
      obtain ⟨hab, hmore⟩ := List.cons.inj hrest
      rw [List.flatMap_cons, List.flatMap_cons] at htexts
      obtain ⟨ht, htmore⟩ := List.append_inj htexts (hlength a b hab)
      rw [heq a (.head _) b hab ht, ih (fun c hc => heq c (.tail _ hc)) hmore htmore]

/-- The texts of a value and what is left without them are all that there is to it. -/
theorem eq_of_blank {v w : Value} (hblank : v.blank = w.blank) (htexts : v.texts = w.texts) : v = w := by
  induction v using induct generalizing w with
  | array items ih =>
    cases w with
    | array others =>
      simp only [blank, texts, blankItems_eq_map, itemTexts_eq_flatMap, Value.array.injEq] at hblank htexts
      rw [eq_of_parts (fun v hv w => ih v hv) (fun _ _ => length_texts_of_blank) hblank htexts]
    | _ => simp [blank] at hblank
  | table fields ih =>
    cases w with
    | table others =>
      simp only [blank, texts, blankFields_eq_map, fieldTexts_eq_flatMap, Value.table.injEq] at hblank htexts
      have hfield : ∀ f ∈ fields, ∀ g : String × Value, (f.1, f.2.blank) = (g.1, g.2.blank) →
          f.2.texts = g.2.texts → f = g := by
        intro f hf g hg ht
        obtain ⟨hname, hv⟩ := Prod.mk.inj hg
        exact Prod.ext hname (ih f hf hv ht)
      rw [eq_of_parts hfield (fun _ _ h => length_texts_of_blank (Prod.mk.inj h).2) hblank htexts]
    | _ => simp [blank] at hblank
  | text s =>
    cases w with
    | text t => rw [(List.cons.inj htexts).1]
    | _ => simp [blank] at hblank
  | _ => cases w <;> simp_all [blank]

/-- A value that differs from another in its texts at most, each of which is expanded, is the
other one expanded. -/
theorem eq_expand {vars : Variables} {v w : Value} (hblank : w.blank = v.blank)
    (htexts : w.texts = v.texts.map (expandText vars)) : w = v.expand vars :=
  eq_of_blank (hblank.trans (blank_expand vars v).symm) (htexts.trans (texts_expand vars v).symm)

theorem expand_none (v : Value) : v.expand (fun _ => none) = v := by
  refine (eq_expand rfl ?_).symm
  have hsame : expandText (fun _ => none) = id := funext expandText_none
  rw [hsame, List.map_id]

/-- Only the values of the variables to which a document refers play a part. -/
theorem expand_congr {vars other : Variables} {v : Value}
    (h : ∀ name ∈ v.references, vars name = other name) : v.expand vars = v.expand other := by
  refine eq_expand (blank_expand vars v) ?_
  rw [texts_expand]
  refine List.map_congr_left fun s hs => expandText_congr fun name hn => h name ?_
  rw [references_eq]
  exact List.mem_flatMap.2 ⟨s, hs, hn⟩

/-! ### Faults -/

/-- The last value lies in the first one. Before each it says inside of how many arrays and tables
it lies. -/
inductive Within : Nat → Value → Nat → Value → Prop
  | self {depth v} : Within depth v depth v
  | item {depth items v d w} : v ∈ items → Within (depth + 1) v d w → Within depth (.array items) d w
  | field {depth fields f d w} : f ∈ fields → Within (depth + 1) f.2 d w → Within depth (.table fields) d w

theorem itemFault?_eq_findSome? [Host] (depth : Nat) (items : List Value) :
    itemFault? depth items = items.findSome? (fault? depth) := by
  induction items with
  | nil => rfl
  | cons v rest ih =>
    rw [itemFault?, List.findSome?_cons, ih]
    cases fault? depth v <;> rfl

theorem fieldFault?_eq_findSome? [Host] (depth : Nat) (fields : List (String × Value)) :
    fieldFault? depth fields = fields.findSome? fun f => fault? depth f.2 := by
  induction fields with
  | nil => rfl
  | cons f rest ih =>
    obtain ⟨name, v⟩ := f
    rw [fieldFault?, List.findSome?_cons, ih]
    cases fault? depth v <;> rfl

/-- What faults lies too deep, or a part of it faults. -/
theorem fault?_cases [Host] {depth : Nat} {v : Value} {fault : ExpansionFault}
    (h : v.fault? depth = some fault) :
    (fault = .tooDeep ∧ Host.reaches depth v = false) ∨ (∃ s, v = .text s ∧ textFault? s = some fault) ∨
      (∃ items, v = .array items ∧ ∃ w ∈ items, w.fault? (depth + 1) = some fault) ∨
      ∃ fields, v = .table fields ∧ ∃ f ∈ fields, f.2.fault? (depth + 1) = some fault := by
  unfold fault? at h
  split at h
  · cases v with
    | text s => exact .inr (.inl ⟨s, rfl, h⟩)
    | array items =>
      dsimp only at h
      rw [itemFault?_eq_findSome?] at h
      exact .inr (.inr (.inl ⟨items, rfl, List.exists_of_findSome?_eq_some h⟩))
    | table fields =>
      dsimp only at h
      rw [fieldFault?_eq_findSome?] at h
      exact .inr (.inr (.inr ⟨fields, rfl, List.exists_of_findSome?_eq_some h⟩))
    | _ => cases h
  · next hreaches =>
    cases h
    exact .inl ⟨rfl, Bool.eq_false_iff.2 hreaches⟩

/-- What faults is a value that lies too deep, or a name that cannot be encoded. -/
theorem exists_of_fault? [Host] {depth : Nat} {v : Value} {fault : ExpansionFault}
    (h : v.fault? depth = some fault) :
    (fault = .tooDeep ∧ ∃ d w, Within depth v d w ∧ Host.reaches d w = false) ∨
      ∃ name ∈ v.references, fault = .unencodable name ∧ Host.encodes name = false := by
  induction v using induct generalizing depth with
  | text s =>
    rcases fault?_cases h with ⟨rfl, hreaches⟩ | ⟨s, ⟨⟩, h⟩ | ⟨_, ⟨⟩, _⟩ | ⟨_, ⟨⟩, _⟩
    · exact .inl ⟨rfl, depth, _, .self, hreaches⟩
    · obtain ⟨name, hname, rfl⟩ := Option.map_eq_some_iff.1 h
      have hencodes := List.find?_some hname
      exact .inr ⟨name, List.mem_of_find?_eq_some hname, rfl, by simpa using hencodes⟩
  | array items ih =>
    rcases fault?_cases h with ⟨rfl, hreaches⟩ | ⟨_, ⟨⟩, _⟩ | ⟨items, ⟨⟩, v, hv, h⟩ | ⟨_, ⟨⟩, _⟩
    · exact .inl ⟨rfl, depth, _, .self, hreaches⟩
    · rcases ih v hv h with ⟨rfl, d, w, hw, hreaches⟩ | ⟨name, hname, rfl, hencodes⟩
      · exact .inl ⟨rfl, d, w, .item hv hw, hreaches⟩
      · refine .inr ⟨name, ?_, rfl, hencodes⟩
        rw [references, itemReferences_eq_flatMap]
        exact List.mem_flatMap.2 ⟨v, hv, hname⟩
  | table fields ih =>
    rcases fault?_cases h with ⟨rfl, hreaches⟩ | ⟨_, ⟨⟩, _⟩ | ⟨_, ⟨⟩, _⟩ | ⟨fields, ⟨⟩, f, hf, h⟩
    · exact .inl ⟨rfl, depth, _, .self, hreaches⟩
    · rcases ih f hf h with ⟨rfl, d, w, hw, hreaches⟩ | ⟨name, hname, rfl, hencodes⟩
      · exact .inl ⟨rfl, d, w, .field hf hw, hreaches⟩
      · refine .inr ⟨name, ?_, rfl, hencodes⟩
        rw [references, fieldReferences_eq_flatMap]
        exact List.mem_flatMap.2 ⟨f, hf, hname⟩
  | _ =>
    rcases fault?_cases h with ⟨rfl, hreaches⟩ | ⟨_, ⟨⟩, _⟩ | ⟨_, ⟨⟩, _⟩ | ⟨_, ⟨⟩, _⟩
    exact .inl ⟨rfl, depth, _, .self, hreaches⟩

end Value

/-! ## Configurations -/

theorem Config.ofText_congr {path : Path} {vars other : Variables} {text : List Char}
    (h : ∀ fields, Toml.read text = .ok fields → ∀ name ∈ (Value.table fields).references,
      vars name = other name) : Config.ofText path vars text = Config.ofText path other text := by
  unfold Config.ofText
  cases hread : Toml.read text with
  | error e => cases e <;> rfl
  | ok fields => simp only [Value.expand_congr (h fields hread)]

/-- Whether a configuration loads, and as what, depends on no variable to which it does not
refer. -/
theorem Config.load_congr {files : FileTree} {path : Path} {vars other : Variables}
    (h : ∀ name ∈ Config.references files path, vars name = other name) :
    Config.load files vars path = Config.load files other path := by
  unfold Config.load
  unfold Config.references at h
  cases hread : files.read path with
  | error fault => cases fault <;> rfl
  | ok bytes =>
    cases htext : Text.Utf8.decode bytes with
    | error fault => simp only [htext]
    | ok text =>
      simp only [hread, htext, Except.map] at h ⊢
      refine Config.ofText_congr fun fields hfields name hname => h name ?_
      rw [hfields]
      exact hname

/-! ## Single substitution -/

/-- A text has one segmentation, whatever the variables are, and is expanded piece by piece: what
stands for itself stays, and a reference gives way to the value of its variable, even to an
empty one, or stays if there is none. Of a document nothing but the texts is expanded. Without
variables it stays as it is, and variables that agree on all names to which it refers make the
same of it, and load the same configuration. -/
theorem single_substitution :
    (∀ s : String, ∃ ps : List Piece, (∀ qs, IsSegmentation s.toList qs ↔ qs = ps) ∧
      ∀ vars : Variables, (expandText vars s).toList = ps.flatMap fun p =>
        match p.name? with
        | none => p.raw
        | some name => ((vars name).map String.toList).getD p.raw) ∧
    (∀ (vars : Variables) (v : Value), (v.expand vars).blank = v.blank ∧
      (v.expand vars).texts = v.texts.map (expandText vars) ∧
      ∀ w : Value, w.blank = v.blank → w.texts = v.texts.map (expandText vars) → w = v.expand vars) ∧
    (∀ v : Value, v.expand (fun _ => none) = v) ∧
    (∀ (vars other : Variables) (v : Value), (∀ name ∈ v.references, vars name = other name) →
      v.expand vars = v.expand other) ∧
    ∀ (files : FileTree) (path : Path) (vars other : Variables),
      (∀ name ∈ Config.references files path, vars name = other name) →
      Config.load files vars path = Config.load files other path := by
  refine ⟨fun s => ⟨pieces s.toList, fun qs => isSegmentation_iff, fun vars => ?_⟩, fun vars v => ?_,
    Value.expand_none, fun vars other v => Value.expand_congr, fun files path vars other => Config.load_congr⟩
  · have hpiece : ∀ p : Piece, p.expanded vars = match p.name? with
        | none => p.raw
        | some name => ((vars name).map String.toList).getD p.raw := by
      intro p
      unfold Piece.expanded
      cases hname : p.name? with
      | none => rfl
      | some name =>
        simp only [Option.bind_some]
        cases vars name <;> rfl
    rw [toList_expandText]
    exact List.flatMap_congr fun p _ => hpiece p
  · exact ⟨Value.blank_expand vars v, Value.texts_expand vars v, fun w => Value.eq_expand⟩

/-- A dollar sign before a reference stays, a name between braces may hold a dollar sign and an
opening brace, an empty value counts, and what is put in is not read again. -/
example : expandText (fun name => if name = "A" then some "$B" else if name = "B" then some "" else none)
    "$$A|$\x7ba$\x7bb\x7d|$B|$\x7bA" = "$$B|$\x7ba$\x7bb\x7d||$\x7bA" := by
  decide +kernel

end ToolSites
