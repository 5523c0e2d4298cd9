import ToolSites.Proofs.CommandLine.Effects
import ToolSites.Proofs.Console.Table
import ToolSites.Proofs.Environment.Arrangement
/-!
# What the listing commands show

The tables of `list` and `installations` hold the keys and homes as they were configured or
stored, in order, but what is printed is what these texts read as: `listings_shown`. Plain texts
are printed as they are. Other texts lose their tags, and where one cannot be read the run ends
and says nothing. What is printed goes to an output that need not take it; then the run ends, too
(`Says`).
-/

namespace ToolSites

open Console (Table)

/-! ## What the tables hold -/

namespace Environment

variable {files : FileTree} {vars : Variables} {path : Path} {env : Environment} {name : String} {node : Node}

/-- The keys and homes of a node: what is stored for it, or else what is configured. A node that
cannot carry a set has none. -/
def locationsOf (config : Config) (stored : NodeSets) (node : Node) : List (String × String) :=
  if node.kind.carriesOverrides then ((pairsAt stored node.name).or (inlinePairs config node.name)).getD []
  else []

/-- The cells show the location: its key and its home, and then its type and its status. -/
def ShowsLocation (location : String × String) (cells : List String) : Prop :=
  ∃ type status, cells = [location.1, location.2, type, status]

/-- The cells show the installation: its key, the type that is registered for it, its home, and
the home that it has on the node. -/
def ShowsInstallation (env : Environment) (node : String) (spec : InstallationSpec) (cells : List String) : Prop :=
  ∃ type home, env.types.get spec.typeId = .ok type ∧
    env.resolve node (Key.textOf spec.typeId spec.name) = .ok home ∧
      cells = [Key.textOf spec.typeId spec.name, type.displayName, spec.home, home]

/-- The rows of a node hold its keys and homes. -/
theorem describe_reflects {config : Config} {inlined stored : NodeSets}
    (hr : Reflects env inlined stored) (hinlined : pairsAt inlined name = inlinePairs config name)
    (hnode : env.nodes.get name = .ok node) : ∃ rows, env.describe name = .ok rows ∧
      rows.map (fun row => (row.key, row.home)) = locationsOf config stored node := by
  have hfind := NodeRegistry.get_eq_ok.1 hnode
  have hname := env.nodes.named hfind
  have hcarries : carries env.nodes name = node.kind.carriesOverrides := by rw [carries, hfind]
  have hpairs := hr.attached name
  rw [hcarries, hinlined] at hpairs
  refine ⟨((env.nodes.overridesFor node).map fun set => set.rows env.types).getD [], ?_, ?_⟩
  · rw [describe, hnode]
    rfl
  have hset : pairsAt env.nodes.overrides name = (env.nodes.overridesFor node).map OverrideSet.pairs := by
    rw [pairsAt, ← hname]
    rfl
  rw [hset] at hpairs
  have hlocations : locationsOf config stored node =
      ((env.nodes.overridesFor node).map OverrideSet.pairs).getD [] := by
    rw [locationsOf, hname, hpairs]
    split <;> rfl
  rw [hlocations]
  cases env.nodes.overridesFor node with
  | none => rfl
  | some set => exact List.map_map

theorem shows_cells (row : OverrideSet.Row) : ShowsLocation (row.key, row.home) row.cells := by
  unfold OverrideSet.Row.cells
  split
  · exact ⟨_, _, rfl⟩
  · exact ⟨_, _, rfl⟩

theorem shows_locations (rows : List OverrideSet.Row) :
    List.Forall₂ ShowsLocation (rows.map fun row => (row.key, row.home)) (rows.map OverrideSet.Row.cells) := by
  rw [List.forall₂_map_left_iff, List.forall₂_map_right_iff, List.forall₂_same]
  exact fun row _ => shows_cells row

theorem shows_installations {config : Config} {inlined : NodeSets}
    (p : Parts config env.types env.installations inlined) (hv : config.Valid)
    (hnode : env.nodes.get name = .ok node) : List.Forall₂ (ShowsInstallation env name) config.installations
      (env.installations.entries.map fun e =>
        [e.1, e.2.type.displayName, e.2.home] ++ [resolveHome env.nodes env.types node e.2]) := by
  rw [List.forall₂_map_right_iff]
  obtain ⟨hlength, hentries⟩ := List.forall₂_iff_zip.1 (p.installs hv)
  refine List.forall₂_iff_zip.2 ⟨hlength, fun {spec e} he => ?_⟩
  obtain ⟨hkey, type, htype, hi⟩ := hentries he
  obtain ⟨same, hsame, hfind⟩ := p.find?_installation hv (List.of_mem_zip he).1
  cases htype.symm.trans hsame
  refine ⟨type, resolveHome env.nodes env.types node e.2, htype, ?_, ?_⟩
  · rw [resolve, subject_eq_ok.2 ⟨NodeRegistry.get_eq_ok.1 hnode, hfind⟩, hi]
    rfl
  · rw [hkey, hi]
    rfl

end Environment

namespace CommandLine

open Environment
open Console.Markup (Neutral OpensWithClose Plain reading)

variable {o : Options} {env : Environment} {files : FileTree} {vars : Variables} {name : String}
  {table : Table} {after : List String} {result : Result}

/-! ## Tables that are printed -/

/-- The title ends in the name, and what else is the same in every run is neutral. -/
structure About (table : Table) (name : String) : Prop where
  title : ∃ lead : String, Neutral lead.toList ∧ table.title = lead ++ name
  headers : ∀ header ∈ table.columns, Neutral header.toList
  columns_ne : table.columns ≠ []
  rectangular : table.Rectangular

/-- What a run comes to that has only these texts to print: it ends well if the output takes them all, and
else with the first that it does not take. -/
structure Says [Host] (texts : List String) (result : Result) : Prop where
  exit_eq_zero : result.exit = 0 ↔ ∀ text ∈ texts, Host.prints text = true
  taken : (∀ text ∈ texts, Host.prints text = true) →
    result.output = String.join texts ∧ result.failure = none
  refused : (∃ text ∈ texts, Host.prints text = false) →
    result.exit = 1 ∧ result.output = String.join (texts.takeWhile Host.prints) ∧
      result.failure = some .unprinted

/-- What a run comes to that prints a table about a node, and then some other texts. It gets to printing
exactly if the table can be read, and then prints it as what its texts read as. What comes of the name of the
node and of the cells follows from that: plain ones are printed as they are, and one whose first tag closes a
tag cannot be read. -/
structure Lists [Host] (o : Options) (files : FileTree) (name : String) (table : Table) (after : List String)
    (result : Result) : Prop where
  exit_eq_zero : result.exit = 0 ↔ table.Readable o.emoji ∧
    ∀ text ∈ table.laidOut (Table.readLines o.emoji) :: after, Host.prints text = true
  readable : table.Readable o.emoji → Says (table.laidOut (Table.readLines o.emoji) :: after) result
  unreadable : ¬ table.Readable o.emoji →
    result.exit = 1 ∧ result.output = "" ∧ ∃ fault, result.failure = some (.markup fault)
  plain : (∀ text ∈ name :: table.rows.flatten, Plain o.emoji text.toList) →
    Says ((table.laidOut fun text => Console.shownLines text.toList) :: after) result
  verbatim : (∀ text ∈ name :: table.rows.flatten, Plain o.emoji text.toList ∧ Table.OneLine text) →
    Says (table.verbatim :: after) result
  closing : (∃ text ∈ name :: table.rows.flatten, OpensWithClose text.toList) →
    result.exit = 1 ∧ result.output = ""
  files : result.files = files

/-- What holds of all texts of the run, of neutral texts, and behind them, holds of the whole table. -/
theorem About.forall (h : About table name) {P : String → Prop}
    (hneutral : ∀ text, Neutral text.toList → P text)
    (happend : ∀ lead text, Neutral lead.toList → P text → P (lead ++ text))
    (hall : ∀ text ∈ name :: table.rows.flatten, P text) :
    P table.title ∧ ∀ row ∈ table.allRows, ∀ text ∈ row, P text := by
  obtain ⟨lead, hlead, htitle⟩ := h.title
  obtain ⟨hname, hcells⟩ := List.forall_mem_cons.1 hall
  refine ⟨htitle ▸ happend lead name hlead hname, fun row hr text ht => ?_⟩
  rcases List.mem_cons.1 hr with rfl | hr
  · exact hneutral text (h.headers text ht)
  · exact hcells text (List.mem_flatten.2 ⟨row, hr, ht⟩)

theorem About.plain (h : About table name) {emoji : Bool}
    (hplain : ∀ text ∈ name :: table.rows.flatten, Plain emoji text.toList) :
    Plain emoji table.title.toList ∧ ∀ row ∈ table.allRows, ∀ text ∈ row, Plain emoji text.toList :=
  h.forall (P := fun text => Plain emoji text.toList) (fun _ => Console.Markup.plain_of_neutral)
    (fun _ _ hlead htext => by rwa [String.toList_append, Console.Markup.plain_append hlead]) hplain

theorem About.oneLine (h : About table name)
    (hlines : ∀ text ∈ name :: table.rows.flatten, Table.OneLine text) :
    Table.OneLine table.title ∧ ∀ row ∈ table.allRows, ∀ text ∈ row, Table.OneLine text :=
  h.forall (fun _ => .of_neutral) (fun _ _ hlead htext => htext.append hlead) hlines

theorem About.not_readable [Host] (h : About table name) {emoji : Bool}
    (hcloses : ∃ text ∈ name :: table.rows.flatten, OpensWithClose text.toList) : ¬ table.Readable emoji := by
  rintro ⟨htitle, hcells⟩
  obtain ⟨text, ht, hcloses⟩ := hcloses
  rcases List.mem_cons.1 ht with rfl | ht
  · obtain ⟨lead, hlead, he⟩ := h.title
    refine Console.Markup.not_readable_of_opensWithClose ?_ true htitle
    rw [he, String.toList_append]
    exact hcloses.append hlead
  · obtain ⟨row, hr, ht⟩ := List.mem_flatten.1 ht
    exact Console.Markup.not_readable_of_opensWithClose hcloses false (hcells row (.tail _ hr) text ht)

theorem says_of_printing [Host] (files : FileTree) (texts : List String) (events : List Event) (shown : String) :
    let outcome := printing 0 files texts events
    Says texts ⟨outcome.exit, outcome.output, shown, outcome.failure, outcome.files⟩ := by
  unfold printing
  by_cases hall : ∀ text ∈ texts, Host.prints text = true
  · rw [if_pos (List.all_eq_true.2 hall)]
    refine ⟨iff_of_true rfl hall, fun _ => ⟨rfl, rfl⟩, ?_⟩
    rintro ⟨text, ht, hrefused⟩
    exact absurd (hall text ht) (Bool.eq_false_iff.1 hrefused)
  · rw [if_neg (mt List.all_eq_true.1 hall)]
    exact ⟨iff_of_false Nat.one_ne_zero hall, fun h => absurd h hall, fun _ => ⟨rfl, rfl, rfl⟩⟩

theorem printTable_of_readable [Host] (h : table.Rectangular) (hr : table.Readable o.emoji) (files : FileTree)
    (after : List String) (events : List Event) : printTable o files table after events =
      printing 0 files (table.laidOut (Table.readLines o.emoji) :: after) events := by
  rw [printTable, (Table.shown_eq_ok h).2 ⟨hr, rfl⟩]

theorem printTable_of_not_readable [Host] (h : table.Rectangular) (hr : ¬ table.Readable o.emoji)
    (files : FileTree) (after : List String) (events : List Event) :
    ∃ fault, printTable o files table after events = ⟨1, "", events, some (.markup fault), files⟩ := by
  cases hshown : table.shown o.emoji with
  | ok out => exact absurd ((Table.shown_eq_ok h).1 hshown).1 hr
  | error fault => exact ⟨fault, by rw [printTable, hshown]⟩

/-- A table that can be read is printed as what its texts read as, whatever they are. -/
theorem lists_of_readable [Host] (h : About table name) (hr : table.Readable o.emoji)
    (hprinted : Says (table.laidOut (Table.readLines o.emoji) :: after) result) (hfiles : result.files = files) :
    Lists o files name table after result where
  exit_eq_zero := hprinted.exit_eq_zero.trans (and_iff_right hr).symm
  readable _ := hprinted
  unreadable hnot := absurd hr hnot
  plain hplain := by
    obtain ⟨htitle, hcells⟩ := h.plain hplain
    rwa [← Table.laidOut_of_plain h.rectangular htitle hcells]
  verbatim hall := by
    obtain ⟨htitle, hcells⟩ := h.plain fun text ht => (hall text ht).1
    obtain ⟨hline, hlines⟩ := h.oneLine fun text ht => (hall text ht).2
    rwa [← Table.laidOut_of_oneLine h.rectangular h.columns_ne ⟨htitle, hline⟩ fun row hr text ht =>
      ⟨hcells row hr text ht, hlines row hr text ht⟩, ← Table.laidOut_of_plain h.rectangular htitle hcells]
  closing hcloses := absurd hr (h.not_readable hcloses)
  files := hfiles

/-- What a run comes to that prints a table. -/
theorem lists_of_printTable [Host] {args : List String} {i : Invocation} {events : List Event}
    (h : About table name) (hargs : parse args = .ok i)
    (hrun : i.run files vars = printTable i.options files table after events) :
    Lists i.options files name table after (run args files vars) := by
  rw [run_eq_of_parse hargs, hrun]
  by_cases hr : table.Readable i.options.emoji
  · rw [printTable_of_readable h.rectangular hr]
    exact lists_of_readable h hr (says_of_printing ..) (files_printing ..)
  · have hplain : ¬ ∀ text ∈ name :: table.rows.flatten, Plain i.options.emoji text.toList := fun hplain =>
      hr (.of_plain (h.plain hplain).1 (h.plain hplain).2)
    obtain ⟨fault, hfault⟩ := printTable_of_not_readable h.rectangular hr files after events
    rw [hfault]
    exact ⟨iff_of_false Nat.one_ne_zero fun h => hr h.1, fun h => absurd h hr, fun _ => ⟨rfl, rfl, fault, rfl⟩,
      fun htexts => absurd htexts hplain, fun htexts => absurd (fun text ht => (htexts text ht).1) hplain,
      fun _ => ⟨rfl, rfl⟩, rfl⟩

/-! ## The two tables -/

theorem about_overridesTable (name : String) (rows : List OverrideSet.Row) :
    About (overridesTable name rows) name where
  title := ⟨"Tool Locations on ", by decide +kernel, rfl⟩
  headers := by
    show ∀ header ∈ ["Key", "Home", "Type", "Status"], Neutral header.toList
    decide +kernel
  columns_ne := List.cons_ne_nil _ _
  rectangular := by
    refine List.forall_mem_map.2 fun row _ => ?_
    unfold OverrideSet.Row.cells
    split <;> rfl

theorem about_installationsTable (env : Environment) (node : Node) :
    About (env.installationsTable (some node)) node.name where
  title := ⟨"Installations on ", by decide +kernel, rfl⟩
  headers := by
    show ∀ header ∈ ["Key", "Type", "Default Home", "Effective Home"], Neutral header.toList
    decide +kernel
  columns_ne := List.cons_ne_nil _ _
  rectangular := List.forall_mem_map.2 fun _ _ => rfl

/-- What is said of the stale entries below the table. -/
def staleWarnings (o : Options) (rows : List OverrideSet.Row) : List String :=
  rows.filterMap fun row =>
    match row.type with
    | .ok _ => none
    | .error e => some (report o .warn (row.key ++ ": " ++ e.message))

theorem perform_list [Host] {rows : List OverrideSet.Row} (hrows : env.describe name = .ok rows) (hne : rows ≠ [])
    (events : List Event) : perform o env files events (.list name) =
      printTable o files (overridesTable name rows) (staleWarnings o rows) events := by
  cases rows with
  | nil => exact absurd rfl hne
  | cons row rest => simp only [perform, hrows]; rfl

theorem perform_list_nil [Host] (hrows : env.describe name = .ok []) (events : List Event) :
    perform o env files events (.list name) =
      done files (report o .info ("No tool locations configured for " ++ name ++ ".")) events := by
  simp only [perform, hrows]

theorem perform_installations [Host] {node : Node} (hnode : env.nodes.get name = .ok node) (events : List Event) :
    perform o env files events (.installations (some name)) =
      printTable o files (env.installationsTable (some node)) []
        (events ++ env.installationsTableEvents (some node)) := by
  have hfound : (some name).mapM env.nodes.get = .ok (some node) := by
    rw [Option.mapM_some, hnode]
    rfl
  simp only [perform, hfound]

end CommandLine

end ToolSites
