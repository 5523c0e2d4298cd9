import ToolSites.Console.Markup
import ToolSites.Proofs.Results
/-!
# Texts that markup leaves alone

A text is `Plain` if nothing in it means anything: it has no tag, no backslash in front of a
bracket, no control character that is left out, and no code of a pictograph. Such a text stands
for itself (`parse_of_plain`), and where codes are not replaced no other does (`plain_of_parse`):
every tag and every such backslash makes the text shorter, and nothing makes it longer. A text
may lose more than its tags. If its first tag closes one, it cannot be read at all
(`parse_of_opensWithClose`).
-/

namespace ToolSites.Console.Markup

variable {emoji : Bool} {cs : List Char}

/-! ## Tags -/

/-- What may stand between the brackets of a tag. -/
structure Content (content : List Char) : Prop where
  starts : ∃ c, content.head? = some c ∧ startsTag c = true
  unbracketed : ∀ c ∈ content, (c != '[' && c != ']') = true

/-- There is a tag in the text. -/
def HoldsTag (cs : List Char) : Prop :=
  ∃ before content after, cs = before ++ '[' :: content ++ ']' :: after ∧ Content content

theorem content?_eq_some {content after : List Char} :
    content? cs = some (content, after) ↔ cs = content ++ ']' :: after ∧ Content content := by
  let inside (c : Char) : Bool := c != '[' && c != ']'
  have hstarts : ∀ c, startsTag c = true → inside c = true := by
    intro c hc
    rw [Bool.and_eq_true, bne_iff_ne, bne_iff_ne]
    constructor <;> rintro rfl <;> revert hc <;> decide
  constructor
  · intro h
    unfold content? at h
    split at h
    · next hhead =>
      split at h
      · next rest hrest =>
        simp only [Option.some.injEq, Prod.mk.injEq] at h
        obtain ⟨rfl, rfl⟩ := h
        refine ⟨by rw [← hrest, List.takeWhile_append_dropWhile], ?_,
          fun c hc => List.all_eq_true.1 List.all_takeWhile c hc⟩
        cases cs with
        | nil => cases hhead
        | cons c rest =>
          have hc : startsTag c = true := hhead
          exact ⟨c, by rw [List.takeWhile_cons_of_pos (hstarts c hc)]; rfl, hc⟩
      · cases h
    · cases h
  · rintro ⟨rfl, ⟨c, hhead, hc⟩, hinside⟩
    have hhead' : ((content ++ ']' :: after).head?.map startsTag).getD false = true := by
      rw [List.head?_append, hhead]
      exact hc
    unfold content?
    rw [if_pos hhead', List.dropWhile_append_of_pos hinside, List.takeWhile_append_of_pos hinside]
    simp

/-- The text that a tag and what is around it make up. -/
def Tag.whole (tag : Tag) : List Char :=
  tag.before ++ List.replicate tag.slashes '\\' ++ '[' :: tag.content ++ ']' :: tag.after

theorem Tag.whole_behind (c : Char) (tag : Tag) : (tag.behind c).whole = c :: tag.whole := by
  unfold behind
  split
  · next h =>
    simp only [Bool.and_eq_true, decide_eq_true_eq, List.isEmpty_iff] at h
    simp [whole, h.1, h.2, List.replicate_succ]
  · rfl

theorem Tag.content_behind (c : Char) (tag : Tag) : (tag.behind c).content = tag.content := by
  unfold behind
  split <;> rfl

/-- The first tag and what is around it make up the text. -/
theorem Tag.first?_eq_some {tag : Tag} (h : Tag.first? cs = some tag) :
    tag.whole = cs ∧ Content tag.content := by
  induction cs generalizing tag with
  | nil => cases h
  | cons c rest ih =>
    unfold first? at h
    split at h
    · next content after hcontent =>
      cases h
      split at hcontent
      · next hc =>
        obtain ⟨rfl, hk⟩ := content?_eq_some.1 hcontent
        exact ⟨by simp [whole, hc], hk⟩
      · cases hcontent
    · obtain ⟨tag, htag, rfl⟩ := Option.map_eq_some_iff.1 h
      obtain ⟨hwhole, hk⟩ := ih htag
      exact ⟨by rw [whole_behind, hwhole], by rw [content_behind]; exact hk⟩

theorem Tag.first?_eq_none : Tag.first? cs = none ↔ ¬ HoldsTag cs := by
  constructor
  · rintro hnone ⟨before, content, after, rfl, hk⟩
    induction before with
    | nil =>
      have hcontent := content?_eq_some.2 ⟨(rfl : content ++ ']' :: after = _), hk⟩
      simp [first?, hcontent] at hnone
    | cons c before ih =>
      refine ih ?_
      rw [List.cons_append, List.cons_append, first?] at hnone
      split at hnone
      · cases hnone
      · exact Option.map_eq_none_iff.1 hnone
  · intro hnot
    refine Option.eq_none_iff_forall_not_mem.2 fun tag htag => hnot ?_
    obtain ⟨hwhole, hk⟩ := first?_eq_some htag
    exact ⟨_, _, _, hwhole.symm, hk⟩

theorem HoldsTag.first? (h : HoldsTag cs) : ∃ tag, Tag.first? cs = some tag ∧ tag.whole = cs := by
  obtain ⟨tag, htag⟩ := Option.ne_none_iff_exists'.1 (mt Tag.first?_eq_none.1 (not_not_intro h))
  exact ⟨tag, htag, (Tag.first?_eq_some htag).1⟩

/-! ## Backslashes -/

theorem unescaped_sublist (cs : List Char) : List.Sublist (unescaped cs) cs := by
  induction cs with
  | nil => exact .slnil
  | cons c rest ih =>
    unfold unescaped
    split
    · exact ih.cons c
    · exact ih.cons_cons c

/-- A text stays as it is if no backslash is in front of a bracket, and else gets shorter. -/
theorem unescaped_eq_self : unescaped cs = cs ↔ ¬ ['\\', '['] <:+: cs := by
  induction cs with
  | nil => simp [unescaped]
  | cons c rest ih =>
    have hfirst : ['\\', '['] <+: c :: rest ↔ c = '\\' ∧ rest.head? = some '[' := by
      rw [List.cons_prefix_cons, eq_comm]
      cases rest <;> simp [eq_comm]
    rw [List.infix_cons_iff, not_or, hfirst, ← ih, unescaped]
    split
    · next h =>
      simp only [Bool.and_eq_true, decide_eq_true_eq] at h
      refine iff_of_false (fun he => ?_) fun hnot => hnot.1 h
      have hle := (unescaped_sublist rest).length_le
      rw [he, List.length_cons] at hle
      omega
    · next h =>
      simp only [Bool.and_eq_true, decide_eq_true_eq] at h
      simp [h]

/-! ## Pieces -/

/-- What a piece adds to the text. -/
def Piece.written : Piece → List Char
  | .text cs => cs
  | .tag _ _ => []

theorem piecesFrom_of_tagless (h : ¬ HoldsTag cs) (fuel position : Nat) :
    piecesFrom fuel position cs = [.text (unescaped cs)] := by
  cases fuel with
  | zero => rfl
  | succ fuel => rw [piecesFrom, Tag.first?_eq_none.2 h]

/-- What is written is no longer than the text, and shorter if a tag is read. -/
theorem length_written (fuel position : Nat) (cs : List Char) :
    ((piecesFrom fuel position cs).flatMap Piece.written).length ≤ cs.length ∧
      (HoldsTag cs → 0 < fuel →
        ((piecesFrom fuel position cs).flatMap Piece.written).length < cs.length) := by
  induction fuel generalizing position cs with
  | zero => simpa [piecesFrom, Piece.written] using (unescaped_sublist cs).length_le
  | succ fuel ih =>
    by_cases hholds : HoldsTag cs
    · obtain ⟨tag, htag, rfl⟩ := hholds.first?
      have hbefore := (unescaped_sublist tag.before).length_le
      have hafter := (ih (position + tag.before.length + tag.slashes + tag.content.length + 2) tag.after).1
      have hlt : ((piecesFrom (fuel + 1) position tag.whole).flatMap Piece.written).length < tag.whole.length := by
        rw [piecesFrom, htag]
        by_cases hodd : tag.slashes % 2 = 1
        all_goals
          simp only [hodd, if_true, if_false, List.flatMap_cons, List.length_append, Piece.written, Tag.whole,
            List.length_cons, List.length_nil, List.length_replicate]
          omega
      exact ⟨Nat.le_of_lt hlt, fun _ _ => hlt⟩
    · rw [piecesFrom_of_tagless hholds]
      exact ⟨by simpa [Piece.written] using (unescaped_sublist cs).length_le, fun h => absurd h hholds⟩

/-- Nothing is written that is not in the text. -/
theorem mem_of_mem_written {fuel position : Nat} {piece : Piece} (hp : piece ∈ piecesFrom fuel position cs)
    {c : Char} (hc : c ∈ piece.written) : c ∈ cs := by
  induction fuel generalizing position cs with
  | zero =>
    obtain rfl := List.mem_singleton.1 hp
    exact (unescaped_sublist cs).subset hc
  | succ fuel ih =>
    by_cases hholds : HoldsTag cs
    · obtain ⟨tag, htag, rfl⟩ := hholds.first?
      rw [piecesFrom, htag] at hp
      simp only [List.mem_cons] at hp
      rcases hp with rfl | rfl | rfl | hp
      · have hbefore : c ∈ tag.before := (unescaped_sublist tag.before).subset hc
        simp [Tag.whole, hbefore]
      · obtain ⟨hhalf, rfl⟩ := List.mem_replicate.1 hc
        have hslashes : tag.slashes ≠ 0 := fun h => hhalf (by rw [h])
        simp [Tag.whole, List.mem_replicate, hslashes]
      · split at hc
        · have hbracketed : c ∈ '[' :: tag.content ++ [']'] := hc
          simp only [List.cons_append, List.mem_cons, List.mem_append, List.not_mem_nil, or_false] at hbracketed
          rcases hbracketed with rfl | hcontent | rfl
          · simp [Tag.whole]
          · simp [Tag.whole, hcontent]
          · simp [Tag.whole]
        · cases hc
      · have hafter : c ∈ tag.after := ih hp
        simp [Tag.whole, hafter]
    · rw [piecesFrom_of_tagless hholds] at hp
      obtain rfl := List.mem_singleton.1 hp
      exact (unescaped_sublist cs).subset hc

/-! ## Texts -/

/-- What a piece adds to the text that is shown. -/
def Piece.shown (emoji : Bool) (piece : Piece) : List Char :=
  withoutMoves (if emoji then Emoji.replace piece.written else piece.written)

namespace Styled

variable {s left : Styled}

theorem text_tag [Host] {content : List Char} {position : Nat} (h : s.tag content position = .ok left) :
    left.text = s.text := by
  unfold tag at h
  simp only at h
  split at h
  · split at h
    · split at h
      · cases h
      · obtain ⟨-, -, rfl⟩ := map_eq_ok.1 h
        rfl
    · obtain ⟨name, -, h⟩ := bind_eq_ok.1 h
      split at h
      · cases h
      · obtain ⟨-, -, rfl⟩ := map_eq_ok.1 h
        rfl
  · obtain ⟨name, -, h⟩ := bind_eq_ok.1 h
    cases h
    rfl

theorem text_add [Host] {piece : Piece} (h : s.add emoji piece = .ok left) :
    left.text = s.text ++ piece.shown emoji := by
  cases piece with
  | text cs => cases h; rfl
  | tag content position =>
    rw [text_tag h]
    cases emoji <;> simp [Piece.shown, Piece.written, withoutMoves, Emoji.replace, Emoji.replaceAfter]

theorem text_foldlM_add [Host] {pieces : List Piece} (h : pieces.foldlM (add emoji) s = .ok left) :
    left.text = s.text ++ pieces.flatMap (Piece.shown emoji) := by
  induction pieces generalizing s with
  | nil => cases h; simp
  | cons piece rest ih =>
    rw [List.foldlM_cons] at h
    obtain ⟨next, hnext, h⟩ := bind_eq_ok.1 h
    rw [ih h, text_add hnext, List.flatMap_cons, List.append_assoc]

theorem text_foldl_close (tags : List OpenTag) (s : Styled) : (tags.foldl close s).text = s.text := by
  induction tags generalizing s with
  | nil => rfl
  | cons tag rest ih => exact ih (s.close tag)

/-- A text that can be read is what its pieces show. -/
theorem text_parse [Host] (h : parse emoji cs = .ok s) : s.text = (pieces cs).flatMap (Piece.shown emoji) := by
  obtain ⟨left, hleft, h⟩ := bind_eq_ok.1 h
  cases h
  rw [text_foldl_close, text_foldlM_add hleft]
  rfl

end Styled

/-! ## Plain texts -/

/-- Nothing in the text means anything to markup. -/
structure Plain (emoji : Bool) (cs : List Char) : Prop where
  tagless : ¬ HoldsTag cs
  unescaped : ¬ ['\\', '['] <:+: cs
  unmoved : ∀ c ∈ cs, movesCursor c = false
  codeless : emoji = true → Emoji.replace cs = cs

theorem withoutMoves_eq_self : withoutMoves cs = cs ↔ ∀ c ∈ cs, movesCursor c = false := by
  simp [withoutMoves, List.filter_eq_self]

/-- A plain text stands for itself, and has no styles. -/
theorem parse_of_plain [Host] (h : Plain emoji cs) : Styled.parse emoji cs = .ok { text := cs } := by
  have hpieces : pieces cs = [.text cs] := by
    rw [pieces, piecesFrom_of_tagless h.tagless, unescaped_eq_self.2 h.unescaped]
  have hreplaced : (if emoji then Emoji.replace cs else cs) = cs := by
    cases emoji with
    | false => rfl
    | true => exact h.codeless rfl
  have hadded : Styled.add emoji {} (.text cs) = .ok { text := cs } := by
    rw [Styled.add, hreplaced, withoutMoves_eq_self.2 h.unmoved]
    rfl
  rw [Styled.parse, hpieces, List.foldlM_cons, hadded]
  rfl

/-- Without pictographs only a plain text stands for itself. -/
theorem plain_of_parse [Host] {s : Styled} (h : Styled.parse false cs = .ok s) (hself : s.text = cs) :
    Plain false cs := by
  let written := (pieces cs).flatMap Piece.written
  have hshown : withoutMoves written = cs := by
    rw [← hself, Styled.text_parse h]
    simp only [written, withoutMoves, List.filter_flatMap]
    rfl
  obtain ⟨hle, hlt⟩ := length_written cs.length 0 cs
  have hkept : (withoutMoves written).length ≤ written.length := List.length_filter_le _ _
  have hcs : written.length = cs.length := Nat.le_antisymm hle (hshown ▸ hkept)
  have htagless : ¬ HoldsTag cs := by
    intro hholds
    have hpos : 0 < cs.length := by
      obtain ⟨before, content, after, rfl, -⟩ := hholds
      rw [List.length_append, List.length_cons]
      omega
    exact absurd hcs (Nat.ne_of_lt (hlt hholds hpos))
  have hunescaped : written = unescaped cs := by
    simp [written, pieces, piecesFrom_of_tagless htagless, Piece.written]
  have hwritten : unescaped cs = cs :=
    (unescaped_sublist cs).eq_of_length_le (Nat.le_of_eq (by rw [← hunescaped, hcs]))
  refine ⟨htagless, unescaped_eq_self.1 hwritten, withoutMoves_eq_self.1 ?_, nofun⟩
  rw [hunescaped, hwritten] at hshown
  exact hshown

/-! ## Codes of pictographs -/

theorem replace_of_colonless (h : ':' ∉ cs) : Emoji.replace cs = cs := by
  unfold Emoji.replace
  induction cs with
  | nil => rfl
  | cons c rest ih =>
    obtain ⟨hc, hrest⟩ := not_or.1 (mt List.mem_cons.2 h)
    simp only [Emoji.replaceAfter, if_neg (Ne.symm hc), ih hrest]

/-- Where there is no colon, it does not matter whether codes are replaced. -/
theorem parse_of_colonless [Host] (h : ':' ∉ cs) : Styled.parse emoji cs = Styled.parse false cs := by
  have hadd : ∀ piece ∈ pieces cs, ∀ s : Styled, s.add emoji piece = s.add false piece := by
    intro piece hp s
    cases piece with
    | tag content position => rfl
    | text written =>
      have hwritten : ':' ∉ written := fun hc => h (mem_of_mem_written hp hc)
      simp only [Styled.add, replace_of_colonless hwritten, ite_self]
  rw [Styled.parse, Styled.parse, foldlM_congr hadd]

/-! ## Letters in front -/

/-- A letter that means nothing to markup may stand in front. -/
theorem plain_cons {c : Char} (hbracket : c ≠ '[') (hslash : c ≠ '\\') (hcolon : c ≠ ':')
    (hmove : movesCursor c = false) : Plain emoji (c :: cs) ↔ Plain emoji cs := by
  have htag : HoldsTag (c :: cs) ↔ HoldsTag cs := by
    rw [← not_iff_not, ← Tag.first?_eq_none, ← Tag.first?_eq_none, Tag.first?, if_neg hbracket,
      Option.map_eq_none_iff]
  have hescape : ['\\', '['] <:+: c :: cs ↔ ['\\', '['] <:+: cs := by
    rw [← not_iff_not, ← unescaped_eq_self, ← unescaped_eq_self, unescaped, if_neg (by simp [hslash]),
      List.cons_eq_cons, and_iff_right rfl]
  have hcodes : Emoji.replace (c :: cs) = c :: Emoji.replace cs := by
    simp [Emoji.replace, Emoji.replaceAfter, hcolon]
  constructor
  · rintro ⟨htagless, hunescaped, hunmoved, hcodeless⟩
    exact ⟨mt htag.2 htagless, mt hescape.2 hunescaped, fun d hd => hunmoved d (.tail _ hd),
      fun he => List.cons_inj_right c |>.1 (hcodes ▸ hcodeless he)⟩
  · rintro ⟨htagless, hunescaped, hunmoved, hcodeless⟩
    exact ⟨mt htag.1 htagless, mt hescape.1 hunescaped, List.forall_mem_cons.2 ⟨hmove, hunmoved⟩,
      fun he => by rw [hcodes, hcodeless he]⟩

/-- Letters that mean nothing to markup and stay on the line. -/
def Neutral (cs : List Char) : Prop :=
  ∀ c ∈ cs, c ≠ '[' ∧ c ≠ '\\' ∧ c ≠ ':' ∧ movesCursor c = false ∧ c ≠ '\n' ∧ c ≠ '\t'

instance (cs : List Char) : Decidable (Neutral cs) := List.decidableBAll _ _

theorem plain_append {before : List Char} (h : Neutral before) :
    Plain emoji (before ++ cs) ↔ Plain emoji cs := by
  induction before with
  | nil => exact .rfl
  | cons c before ih =>
    obtain ⟨hbracket, hslash, hcolon, hmove, -⟩ := h c (.head _)
    rw [List.cons_append, plain_cons hbracket hslash hcolon hmove, ih fun c hc => h c (.tail _ hc)]

theorem plain_of_neutral (h : Neutral cs) : Plain emoji cs := by
  rw [← List.append_nil cs, plain_append h]
  exact ⟨Tag.first?_eq_none.1 rfl, by simp, nofun, fun _ => rfl⟩

/-! ## Reading -/

/-- What is read; nothing if the text is at fault. -/
def styled [Host] (emoji : Bool) (text : String) : Styled :=
  (Styled.parse emoji text.toList).toOption.getD {}

/-- The text that a marked-up text stands for. -/
def reading [Host] (emoji : Bool) (text : String) : List Char := (styled emoji text).text

/-- The text can be read, and so can the styles that show. -/
def Readable [Host] (emoji dropped : Bool) (text : String) : Prop :=
  ∃ s, Styled.parse emoji text.toList = .ok s ∧ s.checked dropped = .ok ()

theorem styled_of_parse [Host] {text : String} {s : Styled} (h : Styled.parse emoji text.toList = .ok s) :
    styled emoji text = s := by
  rw [styled, h]
  rfl

theorem reading_of_plain [Host] {text : String} (h : Plain emoji text.toList) :
    reading emoji text = text.toList := by
  rw [reading, styled_of_parse (parse_of_plain h)]

theorem readable_of_plain [Host] {text : String} (h : Plain emoji text.toList) (dropped : Bool) :
    Readable emoji dropped text := by
  refine ⟨_, parse_of_plain h, ?_⟩
  rw [Styled.checked, List.filter_nil, List.mergeSort_nil]
  rfl

/-- Where there are no codes to be replaced, the plain texts are those that stand for themselves. -/
theorem reading_eq_self [Host] {text : String} (h : emoji = false ∨ ':' ∉ text.toList) :
    reading emoji text = text.toList ↔ Plain emoji text.toList := by
  refine ⟨fun hself => ?_, reading_of_plain⟩
  have hcodes : emoji = true → ':' ∉ text.toList := fun he => h.resolve_left (by rw [he]; exact nofun)
  have hparse : Styled.parse emoji text.toList = Styled.parse false text.toList := by
    cases emoji with
    | false => rfl
    | true => exact parse_of_colonless (hcodes rfl)
  cases hread : Styled.parse false text.toList with
  | ok s =>
    rw [reading, styled_of_parse (hparse.trans hread)] at hself
    have hplain := plain_of_parse hread hself
    exact { hplain with codeless := fun he => replace_of_colonless (hcodes he) }
  | error fault =>
    -- nothing stands for it, but the empty text can be read
    rw [reading, styled, hparse, hread] at hself
    rw [← hself] at hread
    cases hread

/-! ## Texts that cannot be read -/

/-- The first tag of the text closes one, and nothing makes it plain. -/
def OpensWithClose (cs : List Char) : Prop :=
  ∃ before content after, cs = before ++ '[' :: '/' :: content ++ ']' :: after ∧
    (∀ c ∈ before, c ≠ '[' ∧ c ≠ '\\') ∧ ∀ c ∈ content, c ≠ '[' ∧ c ≠ ']'

theorem OpensWithClose.append {before : List Char} (h : OpensWithClose cs) (hbefore : Neutral before) :
    OpensWithClose (before ++ cs) := by
  obtain ⟨first, content, after, rfl, hfirst, hcontent⟩ := h
  refine ⟨before ++ first, content, after, by simp, fun c hc => ?_, hcontent⟩
  rcases List.mem_append.1 hc with hc | hc
  · exact ⟨(hbefore c hc).1, (hbefore c hc).2.1⟩
  · exact hfirst c hc

theorem first?_of_before {before : List Char} (h : ∀ c ∈ before, c ≠ '[' ∧ c ≠ '\\')
    {content after : List Char} (hk : Content content) :
    Tag.first? (before ++ '[' :: content ++ ']' :: after) = some ⟨before, 0, content, after⟩ := by
  induction before with
  | nil =>
    have hcontent := content?_eq_some.2 ⟨(rfl : content ++ ']' :: after = _), hk⟩
    simp [Tag.first?, hcontent]
  | cons c before ih =>
    obtain ⟨hbracket, hslash⟩ := h c (.head _)
    rw [List.cons_append, List.cons_append, Tag.first?, if_neg hbracket,
      ih fun c hc => h c (.tail _ hc)]
    simp [Tag.behind, hslash]

theorem pieces_of_before {before : List Char} (h : ∀ c ∈ before, c ≠ '[' ∧ c ≠ '\\')
    {content : List Char} (hk : Content content) (after : List Char) :
    ∃ rest, pieces (before ++ '[' :: content ++ ']' :: after) =
      .text (unescaped before) :: .text [] :: .tag content before.length :: rest := by
  have hlength : ∃ fuel, (before ++ '[' :: content ++ ']' :: after).length = fuel + 1 :=
    Nat.exists_eq_succ_of_ne_zero (by simp)
  obtain ⟨fuel, hfuel⟩ := hlength
  refine ⟨piecesFrom fuel (before.length + content.length + 2) after, ?_⟩
  rw [pieces, hfuel, piecesFrom, first?_of_before h hk]
  simp

/-- There is nothing that a first tag could close. -/
theorem tag_closing_error [Host] {s : Styled} (hopened : s.opened = []) (content : List Char) (position : Nat) :
    ∃ fault, s.tag ('/' :: content) position = .error fault := by
  have hparts : ∃ name rest, Text.parts '=' ('/' :: content) = ('/' :: name) :: rest := by
    rw [Text.parts, if_neg (by decide)]
    split
    · exact ⟨_, _, rfl⟩
    · exact ⟨_, _, rfl⟩
  obtain ⟨name, rest, hparts⟩ := hparts
  unfold Styled.tag
  rw [hparts, hopened]
  dsimp only
  split
  · next name _ =>
    split
    · exact ⟨_, rfl⟩
    · cases Style.normalName name with
      | error fault => exact ⟨fault, rfl⟩
      | ok name => exact ⟨_, rfl⟩
  · next hopening => exact absurd rfl (hopening name)

/-- Such a text is at fault, whatever follows the tag. -/
theorem parse_of_opensWithClose [Host] (h : OpensWithClose cs) : ∃ fault, Styled.parse emoji cs = .error fault := by
  obtain ⟨before, content, after, rfl, hbefore, hcontent⟩ := h
  have hk : Content ('/' :: content) := by
    refine ⟨⟨'/', rfl, by decide⟩, fun c hc => ?_⟩
    rw [Bool.and_eq_true, bne_iff_ne, bne_iff_ne]
    rcases List.mem_cons.1 hc with rfl | hc
    · decide
    · exact hcontent c hc
  obtain ⟨rest, hpieces⟩ := pieces_of_before hbefore hk after
  -- what stands in front of the tag opens none
  have hadd : ∀ (s : Styled) (cs : List Char), ∃ left, s.add emoji (.text cs) = .ok left ∧
      left.opened = s.opened := fun s cs => ⟨_, rfl, rfl⟩
  obtain ⟨first, hfirst, hopened⟩ := hadd {} (unescaped before)
  obtain ⟨second, hsecond, hstill⟩ := hadd first []
  obtain ⟨fault, hfault⟩ := tag_closing_error (hstill.trans hopened) content before.length
  refine ⟨fault, bind_of_error ?_⟩
  rw [hpieces, List.foldlM_cons, bind_of_ok hfirst, List.foldlM_cons, bind_of_ok hsecond, List.foldlM_cons]
  exact bind_of_error hfault

theorem not_readable_of_opensWithClose [Host] {text : String} (h : OpensWithClose text.toList) (dropped : Bool) :
    ¬ Readable emoji dropped text := by
  rintro ⟨s, hs, -⟩
  obtain ⟨fault, hfault⟩ : ∃ fault, Styled.parse emoji text.toList = .error fault := parse_of_opensWithClose h
  rw [hs] at hfault
  cases hfault

end ToolSites.Console.Markup
