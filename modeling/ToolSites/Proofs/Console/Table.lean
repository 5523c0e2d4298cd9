import ToolSites.Console.Table
import ToolSites.Proofs.Console.Markup
/-!
# What a table shows

A table whose rows are as long as its header is shown exactly if all its texts can be read
(`shown_eq_ok`), and then it is laid out row by row from what they read as. If its texts are
plain they are laid out as they are (`laidOut_of_plain`), and if moreover each of them is one line,
each row is one line too (`laidOut_of_oneLine`).
-/

namespace ToolSites.Console.Table

open Markup (Neutral Plain Styled readable_of_plain reading reading_of_plain styled styled_of_parse)

variable {emoji : Bool} {t : Table}

/-! ## Rows and columns -/

/-- Each row has a cell for each column. -/
def Rectangular (t : Table) : Prop := ∀ row ∈ t.rows, row.length = t.columns.length

/-- The rows, and the headers as the first of them. -/
def allRows (t : Table) : List (List String) := t.columns :: t.rows

theorem length_of_mem_allRows (h : t.Rectangular) {row : List String} (hr : row ∈ t.allRows) :
    row.length = t.columns.length := by
  rcases List.mem_cons.1 hr with rfl | hr
  · rfl
  · exact h row hr

theorem byColumn_eq (t : Table) : t.byColumn =
    (List.range t.columns.length).map fun i => t.allRows.map fun row => row[i]?.getD "" := by
  refine List.ext_getElem (by simp [byColumn]) fun i hi _ => ?_
  have hi : i < t.columns.length := by simpa [byColumn] using hi
  simp [byColumn, allRows, hi]

theorem range_getD (row : List String) :
    ((List.range row.length).map fun i => row[i]?.getD "") = row := by
  refine List.ext_getElem (by simp) fun i _ hi => ?_
  simp [hi]

/-- The columns turn back into the rows. -/
theorem transpose_byColumn (h : t.Rectangular) : transpose (t.rows.length + 1) t.byColumn = t.allRows := by
  refine List.ext_getElem (by simp [transpose, allRows]) fun i _ hi => ?_
  have hrow : t.allRows[i].length = t.columns.length := length_of_mem_allRows h (List.getElem_mem hi)
  have hcell : ∀ j : Nat, (t.allRows.map fun row => row[j]?.getD "")[i]? = some (t.allRows[i][j]?.getD "") := by
    intro j
    rw [List.getElem?_map, List.getElem?_eq_getElem hi]
    rfl
  simp only [transpose, List.getElem_map, List.getElem_range, byColumn_eq, List.filterMap_map,
    Function.comp_def, hcell]
  rw [List.filterMap_eq_map', ← hrow, range_getD]

theorem transpose_map {α β : Type} (f : α → β) (rows : Nat) (columns : List (List α)) :
    transpose rows (columns.map (List.map f)) = (transpose rows columns).map (List.map f) := by
  simp [transpose, List.filterMap_map, List.map_filterMap, Function.comp_def]

/-- The cells of the columns are those of the rows. -/
theorem forall_byColumn (h : t.Rectangular) {P : String → Prop} :
    (∀ column ∈ t.byColumn, ∀ text ∈ column, P text) ↔ ∀ row ∈ t.allRows, ∀ text ∈ row, P text := by
  rw [byColumn_eq]
  simp only [List.forall_mem_map, List.mem_range]
  constructor
  · intro hall row hr text ht
    obtain ⟨i, hi, rfl⟩ := List.getElem_of_mem ht
    have hcell := hall i (length_of_mem_allRows h hr ▸ hi) row hr
    rwa [List.getElem?_eq_getElem hi] at hcell
  · intro hall i hi row hr
    have hi' : i < row.length := length_of_mem_allRows h hr ▸ hi
    rw [List.getElem?_eq_getElem hi']
    exact hall row hr _ (List.getElem_mem hi')

/-! ## Layout -/

/-- The widths of the columns, where `cut` gives the lines of a text. -/
def widths (t : Table) (cut : String → List String) : List Nat :=
  t.byColumn.map fun column => ((column.flatMap cut).map lineWidth).foldl max 0

/-- The rule below the headers. -/
def rule (widths : List Nat) : String :=
  " " ++ .ofList (List.replicate (widths.foldl (· + · + 2) 0 - 2) '─')

/-- The table row by row, where `cut` gives the lines of a text. -/
def laidOut (t : Table) (cut : String → List String) : String :=
  "\n".intercalate (cut t.title ++ [""] ++ rowLines (t.widths cut) (t.columns.map cut) ++
    [rule (t.widths cut)] ++ t.rows.flatMap (fun row => rowLines (t.widths cut) (row.map cut)) ++ ["", ""])

/-- The lines of what a text reads as. -/
def readLines [Host] (emoji : Bool) (text : String) : List String := shownLines (reading emoji text)

/-- The texts of the table can be read. -/
structure Readable [Host] (emoji : Bool) (t : Table) : Prop where
  title : Markup.Readable emoji true t.title
  cells : ∀ row ∈ t.allRows, ∀ text ∈ row, Markup.Readable emoji false text

/-- Where no text is at fault it matters only that the styles are not. -/
theorem shown_of_parses [Host] {out : String} (h : t.Rectangular)
    (htitle : Styled.parse emoji t.title.toList = .ok (styled emoji t.title))
    (hcells : ∀ row ∈ t.allRows, ∀ text ∈ row, Styled.parse emoji text.toList = .ok (styled emoji text)) :
    t.shown emoji = .ok out ↔ (styled emoji t.title).checked true = .ok () ∧
      (∀ row ∈ t.allRows, ∀ text ∈ row, (styled emoji text).checked false = .ok ()) ∧
      t.laidOut (readLines emoji) = out := by
  have hcolumns : (t.byColumn.mapM fun column => column.mapM fun cell => Styled.parse emoji cell.toList) =
      .ok (t.byColumn.map (List.map (styled emoji))) :=
    mapM_eq_ok fun column hc => mapM_eq_ok fun text ht => (forall_byColumn h).2 hcells column hc text ht
  rw [shown, bind_of_ok hcolumns, bind_of_ok htitle]
  dsimp only
  rw [transpose_map, transpose_byColumn h]
  simp only [then_eq_ok, forM_eq_ok, List.forall_mem_map]
  refine and_congr_right fun _ => and_congr_right fun _ => ?_
  show Except.ok _ = Except.ok out ↔ _
  rw [Except.ok.injEq]
  simp only [laidOut, widths, rule, allRows, List.map_map, List.map_cons, Function.comp_def, List.flatMap_def,
    List.append_assoc]
  exact .rfl

/-- A table is shown exactly if it can be read, as what its texts read as. -/
theorem shown_eq_ok [Host] {out : String} (h : t.Rectangular) :
    t.shown emoji = .ok out ↔ t.Readable emoji ∧ t.laidOut (readLines emoji) = out := by
  have hstyled : ∀ {text : String}, (∃ s, Styled.parse emoji text.toList = .ok s) →
      Styled.parse emoji text.toList = .ok (styled emoji text) := by
    rintro text ⟨s, hs⟩
    rw [hs, styled_of_parse hs]
  constructor
  · intro hshown
    obtain ⟨columns, hcolumns, hrest⟩ := bind_eq_ok.1 hshown
    obtain ⟨title, htitle, -⟩ := bind_eq_ok.1 hrest
    have hcells : ∀ row ∈ t.allRows, ∀ text ∈ row, ∃ s, Styled.parse emoji text.toList = .ok s := by
      refine (forall_byColumn h).1 fun column hc text ht => ?_
      obtain ⟨cells, -, hcells⟩ := forall₂_mem (mapM_forall₂ hcolumns) hc
      obtain ⟨s, -, hs⟩ := forall₂_mem (mapM_forall₂ hcells) ht
      exact ⟨s, hs⟩
    have htitle := hstyled ⟨title, htitle⟩
    have hcells := fun row hr text ht => hstyled (hcells row hr text ht)
    obtain ⟨hstyle, hstyles, hout⟩ := (shown_of_parses h htitle hcells).1 hshown
    refine ⟨⟨⟨_, htitle, hstyle⟩, fun row hr text ht => ?_⟩, hout⟩
    exact ⟨_, hcells row hr text ht, hstyles row hr text ht⟩
  · rintro ⟨⟨⟨title, htitle, hstyle⟩, hcells⟩, hout⟩
    refine (shown_of_parses h (hstyled ⟨title, htitle⟩) fun row hr text ht => ?_).2 ⟨?_, ?_, hout⟩
    · obtain ⟨s, hs, -⟩ := hcells row hr text ht
      exact hstyled ⟨s, hs⟩
    · rw [styled_of_parse htitle]
      exact hstyle
    · intro row hr text ht
      obtain ⟨s, hs, hstyle⟩ := hcells row hr text ht
      rw [styled_of_parse hs]
      exact hstyle

/-! ## Plain tables -/

theorem Readable.of_plain [Host] (htitle : Plain emoji t.title.toList)
    (hcells : ∀ row ∈ t.allRows, ∀ text ∈ row, Plain emoji text.toList) : t.Readable emoji :=
  ⟨readable_of_plain htitle true, fun row hr text ht => readable_of_plain (hcells row hr text ht) false⟩

/-- How a table is laid out depends on the lines of its texts only. -/
theorem laidOut_congr (h : t.Rectangular) {cut cut' : String → List String} (htitle : cut t.title = cut' t.title)
    (hcells : ∀ row ∈ t.allRows, ∀ text ∈ row, cut text = cut' text) : t.laidOut cut = t.laidOut cut' := by
  have hwidths : t.widths cut = t.widths cut' := by
    refine List.map_congr_left fun column hc => ?_
    rw [List.flatMap_def, List.map_congr_left fun text ht => (forall_byColumn h).2 hcells column hc text ht,
      ← List.flatMap_def]
  have hrow : ∀ row ∈ t.allRows, row.map cut = row.map cut' := fun row hr => List.map_congr_left (hcells row hr)
  have hrows : t.rows.map (fun row => rowLines (t.widths cut') (row.map cut)) =
      t.rows.map fun row => rowLines (t.widths cut') (row.map cut') :=
    List.map_congr_left fun row hr => by rw [hrow row (.tail _ hr)]
  rw [laidOut, laidOut, htitle, hwidths, hrow t.columns (.head _), List.flatMap_def, hrows, ← List.flatMap_def]

/-- Plain texts are laid out as they are. -/
theorem laidOut_of_plain [Host] (h : t.Rectangular) (htitle : Plain emoji t.title.toList)
    (hcells : ∀ row ∈ t.allRows, ∀ text ∈ row, Plain emoji text.toList) :
    t.laidOut (readLines emoji) = t.laidOut fun text => shownLines text.toList := by
  refine laidOut_congr h ?_ fun row hr text ht => ?_
  · rw [readLines, reading_of_plain htitle]
  · rw [readLines, reading_of_plain (hcells row hr text ht)]

/-! ## Texts of one line -/

/-- The text has no line ends, and no tabs to be replaced. -/
def OneLine (text : String) : Prop := '\n' ∉ text.toList ∧ '\t' ∉ text.toList

theorem OneLine.of_neutral {text : String} (h : Neutral text.toList) : OneLine text :=
  ⟨fun hc => (h _ hc).2.2.2.2.1 rfl, fun hc => (h _ hc).2.2.2.2.2 rfl⟩

theorem OneLine.append {text lead : String} (h : OneLine text) (hlead : Neutral lead.toList) :
    OneLine (lead ++ text) := by
  have hfirst := of_neutral hlead
  rw [OneLine, String.toList_append, List.mem_append, List.mem_append]
  exact ⟨not_or.2 ⟨hfirst.1, h.1⟩, not_or.2 ⟨hfirst.2, h.2⟩⟩

theorem parts_of_not_mem {mark : Char} {cs : List Char} (h : mark ∉ cs) : Text.parts mark cs = [cs] := by
  induction cs with
  | nil => rfl
  | cons c rest ih =>
    obtain ⟨hne, hrest⟩ := not_or.1 (mt List.mem_cons.2 h)
    rw [Text.parts, if_neg (Ne.symm hne), ih hrest]

theorem shownLines_of_oneLine {text : String} (hplain : Plain emoji text.toList) (h : OneLine text) :
    shownLines text.toList = [text] := by
  rw [shownLines, Markup.withoutMoves_eq_self.2 hplain.unmoved, parts_of_not_mem h.1, List.map_singleton,
    expandTabs, parts_of_not_mem h.2, spaced, String.ofList_toList]

/-- A row whose texts are one line each. -/
def line (widths : List Nat) (row : List String) : String :=
  " " ++ "  ".intercalate ((row.zip widths).map fun (text, width) => padded width text)

theorem rowLines_of_oneLine {row : List String} (hne : row ≠ []) (widths : List Nat) :
    rowLines widths (row.map fun text => [text]) = [line widths row] := by
  have hfold : ∀ rest : List String, ((rest.map fun text => [text]).map List.length).foldl max 1 = 1 := by
    intro rest
    induction rest with
    | nil => rfl
    | cons _ rest ih => exact ih
  have hheight : (((row.map fun text => [text]).map List.length).foldl max 0) = 1 := by
    cases row with
    | nil => exact absurd rfl hne
    | cons text rest => exact hfold rest
  rw [rowLines, hheight]
  simp only [List.zip_map_left, List.map_map]
  rfl

/-- The table with each row on one line. -/
def verbatim (t : Table) : String :=
  let widths := t.widths fun text => [text]
  "\n".intercalate ([t.title, "", line widths t.columns, rule widths] ++ t.rows.map (line widths) ++ ["", ""])

theorem laidOut_singletons (h : t.Rectangular) (hne : t.columns ≠ []) :
    (t.laidOut fun text => [text]) = t.verbatim := by
  let widths := t.widths fun text => [text]
  have hrows : t.rows.flatMap (fun row => rowLines widths (row.map fun text => [text])) =
      t.rows.map (line widths) := by
    have hrow : ∀ row ∈ t.rows, row ≠ [] := by
      rintro row hr rfl
      exact hne (List.length_eq_zero_iff.1 (h [] hr).symm)
    rw [List.flatMap_def, List.map_congr_left fun row hr => rowLines_of_oneLine (hrow row hr) widths,
      ← List.flatMap_def]
    exact List.map_eq_flatMap.symm
  rw [laidOut, hrows, rowLines_of_oneLine hne]
  rfl

/-- A table of plain texts of one line each is shown with each row on one line. -/
theorem laidOut_of_oneLine (h : t.Rectangular) (hne : t.columns ≠ [])
    (htitle : Plain emoji t.title.toList ∧ OneLine t.title)
    (hcells : ∀ row ∈ t.allRows, ∀ text ∈ row, Plain emoji text.toList ∧ OneLine text) :
    (t.laidOut fun text => shownLines text.toList) = t.verbatim := by
  rw [← laidOut_singletons h hne]
  refine laidOut_congr h (shownLines_of_oneLine htitle.1 htitle.2) fun row hr text ht => ?_
  obtain ⟨hplain, hline⟩ := hcells row hr text ht
  exact shownLines_of_oneLine hplain hline

end ToolSites.Console.Table
