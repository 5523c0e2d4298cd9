import Mathlib.Data.List.Permutation
import ToolSites.Proofs.Json.Distinct
import ToolSites.Proofs.Store.RoundTrip
/-!
# Which documents are stores

`IsStore` is the shape of a store: a table of version one whose nodes, if it has any, are lists
of entries, each with a key that has a separator and with a home. A document is listed exactly if
it has this shape (`ofDocument_defined`, `ofDocument_eq_ok`), and then each node has what its
entries spell, one listing for each and in order. What else a table holds is never looked at: a
document can be stripped of it (`bare`), and what it lists is the same (`ofDocument_bare`).
`fetch_documented` says all this of files, whatever the machine refuses.
-/
open ToolSites.Text

namespace ToolSites

namespace Store

open Json (Document)

/-! ## Shapes -/

/-- Whether the value is equal to one. So is the truth value that stands for one. -/
def EqualsOne (v : Document) : Prop :=
  v = .boolean true ∨ v = .integer 1 ∨ v = .real Binary64.one

/-- The item is an entry with this key and this home. -/
def Lists (item : Document) (key home : Spelling) : Prop :=
  ∃ fields, item = .table fields ∧ Entries.find? (.of "key") fields = some (.text key) ∧
    Entries.find? (.of "home") fields = some (.text home)

/-- A list of entries whose keys have separators. -/
def IsSet (v : Document) : Prop :=
  ∃ items, v = .array items ∧ ∀ item ∈ items, ∃ key home, Lists item key home ∧ .char '@' ∈ key

/-- A table of sets. -/
def IsNodes (v : Document) : Prop := ∃ fields, v = .table fields ∧ ∀ f ∈ fields, IsSet f.2

/-- A table whose version, if it has one, is one, and whose nodes, if it has any, are sets. -/
def IsStore (v : Document) : Prop :=
  ∃ fields, v = .table fields ∧
    (∀ version, Entries.find? (.of "version") fields = some version → EqualsOne version) ∧
    ∀ nodes, Entries.find? (.of "nodes") fields = some nodes → IsNodes nodes

/-- The nodes of a document. -/
def nodeFields : Document → List (Spelling × Document)
  | .table fields =>
    match Entries.find? (.of "nodes") fields with
    | some (.table nodes) => nodes
    | _ => []
  | _ => []

/-- The listing has the home of the item, and the key, split at its first separator: none is in
the first half. -/
def Gives (item : Document) (l : Listing) : Prop :=
  ∃ key, Lists item key l.home ∧ .char '@' ∉ l.typeId ∧ key = l.typeId ++ .char '@' :: l.name

/-- The node has one listing for each item of its set, in the same order. -/
def GivesSet (field : Spelling × Document) (e : Spelling × List Listing) : Prop :=
  e.1 = field.1 ∧ ∃ items, field.2 = .array items ∧ List.Forall₂ Gives items e.2

/-! ## Entries -/

theorem isOne_iff {v : Document} : v.isOne = true ↔ EqualsOne v := by
  unfold EqualsOne Document.isOne
  cases v <;> simp

theorem entryOfDocument_eq_ok {node : Spelling} {item : Document} {pair : Spelling × Spelling} :
    entryOfDocument node item = .ok pair ↔ Lists item pair.1 pair.2 := by
  obtain ⟨key, home⟩ := pair
  unfold entryOfDocument Lists
  cases item with
  | table fields =>
    simp only [Document.table.injEq, exists_eq_left']
    split
    · next k h hk hh =>
      rw [hk, hh]
      simp
    · next hother =>
      refine iff_of_false (fun h => nomatch h) ?_
      rintro ⟨hk, hh⟩
      exact hother key home hk hh
  | _ => simp

theorem Lists.unique {item : Document} {key home key' home' : Spelling} (h : Lists item key home)
    (h' : Lists item key' home') : key' = key ∧ home' = home := by
  obtain ⟨fields, rfl, hkey, hhome⟩ := h
  obtain ⟨_, ⟨⟩, hkey', hhome'⟩ := h'
  rw [hkey] at hkey'
  rw [hhome] at hhome'
  cases hkey'
  cases hhome'
  exact ⟨rfl, rfl⟩

theorem listing_eq_ok {pair : Spelling × Spelling} {l : Listing} : listing pair = .ok l ↔
    .char '@' ∉ l.typeId ∧ pair = (l.typeId ++ .char '@' :: l.name, l.home) := by
  obtain ⟨key, home⟩ := pair
  unfold listing
  constructor
  · intro h
    split at h
    · cases h
    · next hd =>
      cases h
      exact ⟨not_mem_takeWhile _ key, congrArg (·, home) (append_of_dropWhile hd)⟩
  · rintro ⟨hfree, ⟨⟩⟩
    simp only [dropWhile_append_separator hfree, takeWhile_append_separator hfree]

/-- A key with a separator can be split. -/
theorem listing_defined {key : Spelling} (h : .char '@' ∈ key) (home : Spelling) :
    ∃ l, listing (key, home) = .ok l := by
  unfold listing
  split
  · next hd =>
    have hwhole := List.takeWhile_append_dropWhile (p := (· != Symbol.char '@')) (l := key)
    rw [hd, List.append_nil] at hwhole
    rw [← hwhole] at h
    exact absurd h (not_mem_takeWhile (.char '@') key)
  · exact ⟨_, rfl⟩

/-! ## Sets -/

/-- The listings of a set are those of the items, in order. -/
theorem setOfDocument_eq_ok {node : Spelling} {v : Document} {set : List Listing}
    (h : setOfDocument node v = .ok set) : ∃ items, v = .array items ∧ List.Forall₂ Gives items set := by
  cases v with
  | array items =>
    obtain ⟨pairs, hpairs, hset⟩ := bind_eq_ok.1 h
    refine ⟨items, rfl, forall₂_trans (mapM_forall₂ hpairs) (mapM_forall₂ hset) ?_⟩
    intro item pair l hitem hl
    obtain ⟨hfree, rfl⟩ := listing_eq_ok.1 hl
    exact ⟨_, entryOfDocument_eq_ok.1 hitem, hfree, rfl⟩
  | _ => cases h

theorem isSet_of_gives {items : List Document} {set : List Listing} (h : List.Forall₂ Gives items set) :
    IsSet (.array items) := by
  refine ⟨items, rfl, fun item hi => ?_⟩
  obtain ⟨l, -, key, hlists, -, rfl⟩ := forall₂_mem h hi
  exact ⟨_, l.home, hlists, by simp⟩

theorem setOfDocument_defined {v : Document} (h : IsSet v) (node : Spelling) :
    ∃ set, setOfDocument node v = .ok set := by
  obtain ⟨items, rfl, hitems⟩ := h
  obtain ⟨pairs, hpairs⟩ : ∃ pairs, items.mapM (entryOfDocument node) = .ok pairs := by
    refine mapM_defined fun item hi => ?_
    obtain ⟨key, home, hlists, -⟩ := hitems item hi
    exact ⟨(key, home), entryOfDocument_eq_ok.2 hlists⟩
  obtain ⟨set, hset⟩ : ∃ set, pairs.mapM listing = .ok set := by
    refine mapM_defined fun pair hp => ?_
    obtain ⟨item, hi, hpair⟩ := mem_of_mapM hpairs hp
    obtain ⟨key, home, hlists, hseparator⟩ := hitems item hi
    obtain ⟨rfl, -⟩ := hlists.unique (entryOfDocument_eq_ok.1 hpair)
    exact listing_defined hseparator pair.2
  exact ⟨set, bind_eq_ok.2 ⟨pairs, hpairs, hset⟩⟩

/-! ## Documents -/

theorem nodesOfDocument_eq_ok {v : Document} {listed : Listings} (h : nodesOfDocument v = .ok listed) :
    ∃ fields, v = .table fields ∧ List.Forall₂ GivesSet fields listed := by
  cases v with
  | table fields =>
    refine ⟨fields, rfl, (mapM_forall₂ h).imp fun field e he => ?_⟩
    obtain ⟨set, hset, rfl⟩ := map_eq_ok.1 he
    exact ⟨rfl, setOfDocument_eq_ok hset⟩
  | _ => cases h

theorem nodesOfDocument_defined {v : Document} (h : IsNodes v) :
    ∃ listed, nodesOfDocument v = .ok listed := by
  obtain ⟨fields, rfl, hfields⟩ := h
  refine mapM_defined fun field hf => ?_
  obtain ⟨set, hset⟩ := setOfDocument_defined (hfields field hf) field.1
  exact ⟨(field.1, set), map_eq_ok.2 ⟨set, hset, rfl⟩⟩

theorem isNodes_of_gives {fields : List (Spelling × Document)} {listed : Listings}
    (h : List.Forall₂ GivesSet fields listed) : IsNodes (.table fields) := by
  refine ⟨fields, rfl, fun field hf => ?_⟩
  obtain ⟨e, -, -, items, hitems, hgives⟩ := forall₂_mem h hf
  exact hitems ▸ isSet_of_gives hgives

theorem names_of_gives {fields : List (Spelling × Document)} {listed : Listings}
    (h : List.Forall₂ GivesSet fields listed) : Entries.names listed = Entries.names fields :=
  names_of_forall₂ h fun _ _ hgives => hgives.1

/-- A document that lists something is a store, and what is listed are its nodes, in order. -/
theorem ofDocument_eq_ok {v : Document} {listed : Listings} (h : ofDocument v = .ok listed) :
    IsStore v ∧ List.Forall₂ GivesSet (nodeFields v) listed := by
  cases v with
  | table fields =>
    unfold ofDocument at h
    dsimp only at h
    split at h
    · next hone =>
      have hversion : ∀ version, Entries.find? (.of "version") fields = some version →
          EqualsOne version := by
        intro version hv
        rw [hv] at hone
        exact isOne_iff.1 hone
      cases hn : Entries.find? (.of "nodes") fields with
      | none =>
        rw [hn] at h
        cases h
        refine ⟨⟨fields, rfl, hversion, fun nodes hs => ?_⟩, ?_⟩
        · rw [hn] at hs
          cases hs
        · rw [nodeFields, hn]
          exact .nil
      | some nodes =>
        rw [hn] at h
        obtain ⟨nodes, rfl, hgives⟩ := nodesOfDocument_eq_ok h
        refine ⟨⟨fields, rfl, hversion, fun found hs => ?_⟩, ?_⟩
        · rw [hn] at hs
          cases hs
          exact isNodes_of_gives hgives
        · rw [nodeFields, hn]
          exact hgives
    · cases h
  | _ => cases h

/-- Every store lists something. -/
theorem ofDocument_defined {v : Document} (h : IsStore v) : ∃ listed, ofDocument v = .ok listed := by
  obtain ⟨fields, rfl, hversion, hnodes⟩ := h
  have hone : ((Entries.find? (.of "version") fields).getD (.integer 1)).isOne = true := by
    cases hv : Entries.find? (.of "version") fields with
    | none => rfl
    | some version => exact isOne_iff.2 (hversion version hv)
  unfold ofDocument
  dsimp only
  rw [if_pos hone]
  cases hn : Entries.find? (.of "nodes") fields with
  | none => exact ⟨[], rfl⟩
  | some nodes => exact nodesOfDocument_defined (hnodes nodes hn)

/-- The nodes of a document that was read have different names. -/
theorem nodup_nodeFields {v : Document} (h : v.Distinct) : (Entries.names (nodeFields v)).Nodup := by
  cases h with
  | @table fields _ hfields =>
    unfold nodeFields
    dsimp only
    split
    · next nodes hn =>
      cases hfields _ (Entries.mem_of_find? hn) with
      | table hnodup _ => exact hnodup
    · exact List.nodup_nil
  | _ => exact List.nodup_nil

/-! ## What else a document holds -/

/-- The item without all but its key and its home. -/
def bareEntry : Document → Document
  | .table fields => .table (fields.filter fun f => f.1 == .of "key" || f.1 == .of "home")
  | v => v

/-- The set with bare entries. -/
def bareSet : Document → Document
  | .array items => .array (items.map bareEntry)
  | v => v

/-- The nodes with bare sets. -/
def bareNodes : Document → Document
  | .table fields => .table (fields.map fun f => (f.1, bareSet f.2))
  | v => v

/-- The document without all but its version and its nodes, which are bare. -/
def bare : Document → Document
  | .table fields =>
    .table ((fields.filter fun f => f.1 == .of "version" || f.1 == .of "nodes").map fun f =>
      (f.1, if f.1 = .of "nodes" then bareNodes f.2 else f.2))
  | v => v

theorem entryOfDocument_bare (node : Spelling) (item : Document) :
    entryOfDocument node (bareEntry item) = entryOfDocument node item := by
  cases item with
  | table fields =>
    unfold bareEntry entryOfDocument
    dsimp only
    have hfilter := Entries.find?_filter (fun n : Spelling => n == .of "key" || n == .of "home") fields
    rw [hfilter, hfilter, if_pos (by decide), if_pos (by decide)]
  | _ => rfl

theorem setOfDocument_bare (node : Spelling) (v : Document) :
    setOfDocument node (bareSet v) = setOfDocument node v := by
  cases v with
  | array items =>
    have hentry : entryOfDocument node ∘ bareEntry = entryOfDocument node :=
      funext (entryOfDocument_bare node)
    rw [bareSet, setOfDocument, List.mapM_map, hentry]
    rfl
  | _ => rfl

theorem nodesOfDocument_bare (v : Document) : nodesOfDocument (bareNodes v) = nodesOfDocument v := by
  cases v with
  | table fields =>
    rw [bareNodes, nodesOfDocument, List.mapM_map]
    simp only [Function.comp_def, setOfDocument_bare]
    rfl
  | _ => rfl

/-- Whatever else a document holds plays no part. -/
theorem ofDocument_bare (v : Document) : ofDocument (bare v) = ofDocument v := by
  cases v with
  | table fields =>
    let kept : List (Spelling × Document) := (fields.filter fun f => f.1 == .of "version" || f.1 == .of "nodes").map
      fun f => (f.1, if f.1 = .of "nodes" then bareNodes f.2 else f.2)
    have hfind : ∀ name, Entries.find? name kept =
        (if name == .of "version" || name == .of "nodes" then Entries.find? name fields else none).map
          fun v => if name = .of "nodes" then bareNodes v else v := by
      intro name
      rw [Entries.find?_map fun (name : Spelling) v => if name = .of "nodes" then bareNodes v else v,
        Entries.find?_filter fun n : Spelling => n == .of "version" || n == .of "nodes"]
    have hversion : Entries.find? (.of "version") kept = Entries.find? (.of "version") fields := by
      rw [hfind, if_pos (by decide)]
      exact Option.map_id_apply
    have hnodes : Entries.find? (.of "nodes") kept = (Entries.find? (.of "nodes") fields).map bareNodes := by
      rw [hfind, if_pos (by decide)]
      rfl
    show ofDocument (.table kept) = _
    unfold ofDocument
    dsimp only
    rw [hversion, hnodes]
    cases Entries.find? (.of "nodes") fields with
    | none => rfl
    | some nodes => rw [Option.map_some, Option.getD_some, Option.getD_some, nodesOfDocument_bare]
  | _ => rfl

/-! ## Sets -/

theorem location?_eq_some {l : Listing} {location : Location} (h : l.location? = some location) :
    Listing.ofLocation location = l ∧ Location.unresolved location.key location.home = location := by
  simp only [Listing.location?, Option.bind_eq_bind, Option.pure_def, Option.bind_eq_some_iff,
    Option.some.injEq, Spelling.text?_eq_some] at h
  obtain ⟨typeId, htype, name, hname, key, hkey, home, hhome, rfl⟩ := h
  obtain ⟨rfl, rfl⟩ := Key.of?_eq_some.1 hkey
  obtain ⟨_, _, _⟩ := l
  cases htype
  cases hname
  cases hhome
  exact ⟨rfl, rfl⟩

theorem setOfListings_eq_some {e : Spelling × List Listing} {set : String × OverrideSet}
    (h : setOfListings e = some set) :
    (.of set.1, set.2.locations.map .ofLocation) = e ∧ set.2.unresolved = set.2 := by
  simp only [setOfListings, Option.bind_eq_bind, Option.pure_def, Option.bind_eq_some_iff,
    Option.some.injEq, Spelling.text?_eq_some] at h
  obtain ⟨name, hname, locations, hlocations, rfl⟩ := h
  refine ⟨Prod.ext hname.symm (map_of_mapM_eq_some hlocations fun _ _ h => (location?_eq_some h).1), ?_⟩
  rw [OverrideSet.unresolved, OverrideSet.mk.injEq]
  conv_rhs => rw [← List.map_id locations]
  refine List.map_congr_left fun location hl => ?_
  obtain ⟨l, -, hlocation⟩ := forall₂_mem (mapM_eq_some.1 hlocations).flip hl
  exact (location?_eq_some hlocation).2

/-- The sets of what is listed list it, and carry no types. -/
theorem sets?_eq_some {found : Listings} {sets : NodeSets} (hnodup : (Entries.names found).Nodup) :
    sets? found = some sets ↔ listed sets = found ∧ sets.map OverrideSet.unresolved = sets := by
  constructor
  · intro h
    obtain ⟨entries, hentries, rfl⟩ := Option.map_eq_some_iff.1 h
    have hback : entries.map (fun e => (Spelling.of e.1, e.2.locations.map Listing.ofLocation)) = found :=
      map_of_mapM_eq_some hentries fun _ _ h => (setOfListings_eq_some h).1
    have hnames : (Entries.names entries).Nodup := by
      have hspelled : ((Entries.names entries).map Spelling.of).Nodup := by
        rw [← hback, Entries.names, List.map_map] at hnodup
        rwa [Entries.names, List.map_map]
      exact (List.pairwise_map.1 hspelled).imp fun hne he => hne (congrArg _ he)
    refine ⟨?_, NameMap.ext ?_⟩
    · rw [listed, NameMap.entries_ofList hnames, hback]
    · simp only [NameMap.map, NameMap.entries_ofList hnames]
      conv_rhs => rw [← List.map_id entries]
      refine List.map_congr_left fun e he => ?_
      obtain ⟨found, -, hset⟩ := forall₂_mem (mapM_eq_some.1 hentries).flip he
      exact Prod.ext rfl (setOfListings_eq_some hset).2
  · rintro ⟨rfl, hsame⟩
    rw [sets?_listed, hsame]

/-! ## Files -/

section File

variable [Host] {files : FileTree} {path : Path} {bytes : List UInt8} {text : List Char} {v : Document}

/-- What a file with a value lists is what the value lists as a document. -/
theorem fetch_of_value (hfile : files.isFile path = .ok true) (hread : files.read path = .ok bytes)
    (htext : Utf8.decode bytes = .ok text) (hvalue : Json.read (unifyNewlines text) = .ok v) :
    fetch files path = (ofDocument v).mapError (.store path) := by
  rw [fetch_of_text hfile hread htext, ofText, hvalue]

/-- Sets are loaded if they are what is listed. -/
theorem load_eq_ok (hnodup : ∀ found, fetch files path = .ok found → (Entries.names found).Nodup)
    {sets : NodeSets} : load files path = .ok sets ↔
      fetch files path = .ok (listed sets) ∧ sets.map OverrideSet.unresolved = sets := by
  constructor
  · intro h
    obtain ⟨found, hfound, h⟩ := bind_eq_ok.1 h
    split at h
    · next hsets =>
      cases h
      obtain ⟨rfl, hsame⟩ := (sets?_eq_some (hnodup found hfound)).1 hsets
      exact ⟨hfound, hsame⟩
    · cases h
  · rintro ⟨h, hsame⟩
    exact load_of_fetch h ((sets?_listed sets).trans (congrArg some hsame))

/-- A file whose bytes are the text of a value `v` is listed exactly if `v` is a store, and if it is
none, that is the error. What is listed are the nodes of `v`, in order and no others, each with the
keys and homes that its entries spell, in order and no others, where a key is split at its first
separator. What else `v` holds plays no part: a file whose value differs from `v` in that alone lists
the same. The file loads as the sets that are listed. -/
theorem fetch_documented (hfile : files.isFile path = .ok true) (hread : files.read path = .ok bytes)
    (htext : Utf8.decode bytes = .ok text) (hvalue : Json.read (unifyNewlines text) = .ok v) :
    ((∃ listed, fetch files path = .ok listed) ↔ IsStore v) ∧
    (¬ IsStore v → ∃ problem, fetch files path = .error (.store path problem) ∧
      load files path = .error (.store path problem)) ∧
    (∀ listed, fetch files path = .ok listed → Entries.names listed = Entries.names (nodeFields v) ∧
      (Entries.names listed).Nodup ∧ List.Forall₂ GivesSet (nodeFields v) listed) ∧
    (∀ (other : FileTree) (found : List UInt8) (more : List Char) (w : Document),
      other.isFile path = .ok true → other.read path = .ok found → Utf8.decode found = .ok more →
      Json.read (unifyNewlines more) = .ok w → bare w = bare v → fetch other path = fetch files path) ∧
    ∀ sets, load files path = .ok sets ↔
      fetch files path = .ok (listed sets) ∧ sets.map OverrideSet.unresolved = sets := by
  have hfetch := fetch_of_value hfile hread htext hvalue
  have hdistinct : v.Distinct := Json.read_distinct hvalue
  have hiff : (∃ listed, fetch files path = .ok listed) ↔ IsStore v := by
    rw [hfetch]
    constructor
    · rintro ⟨listed, h⟩
      exact (ofDocument_eq_ok (mapError_eq_ok.1 h)).1
    · intro h
      obtain ⟨listed, hlisted⟩ := ofDocument_defined h
      exact ⟨listed, mapError_eq_ok.2 hlisted⟩
  have hnames : ∀ listed, fetch files path = .ok listed → Entries.names listed = Entries.names (nodeFields v) ∧
      (Entries.names listed).Nodup ∧ List.Forall₂ GivesSet (nodeFields v) listed := by
    intro listed h
    rw [hfetch] at h
    have hgives := (ofDocument_eq_ok (mapError_eq_ok.1 h)).2
    have hnames := names_of_gives hgives
    exact ⟨hnames, hnames ▸ nodup_nodeFields hdistinct, hgives⟩
  refine ⟨hiff, fun hnot => ?_, hnames, fun other found more w hf hr ht hw hbare => ?_, fun sets => ?_⟩
  · cases hof : ofDocument v with
    | ok listed => exact absurd (hiff.1 ⟨listed, by rw [hfetch, hof, mapError_ok]⟩) hnot
    | error problem =>
      have herror : fetch files path = .error (.store path problem) := by rw [hfetch, hof, mapError_error]
      exact ⟨problem, herror, by rw [load, herror]; rfl⟩
  · rw [fetch_of_value hf hr ht hw, hfetch, ← ofDocument_bare w, hbare, ofDocument_bare]
  · exact load_eq_ok fun found h => (hnames found h).2.1

end File

/-- A store with members that play no part, with a truth value for its version, with a key that
has two separators and one that has nothing else, and with a node that has no entries. The name of
a node and a home are halves of pairs, so that what is listed is no text. -/
theorem fetch_documented_halves :
    let entries : List Document := [
      .table [(.of "home", .text [.half 0xdc00]), (.of "y", .array []), (.of "key", .text (.of "T@a@b"))],
      .table [(.of "key", .text (.of "@")), (.of "home", .text [])]]
    let text : List Char := ("\x7b\"version\": true, \"x\": null, \"nodes\": \x7b\"\\ud800\": [" ++
      "\x7b\"home\": \"\\udc00\", \"y\": [], \"key\": \"T@a@b\"\x7d, \x7b\"key\": \"@\", \"home\": \"\"\x7d" ++
      "], \"m\": []\x7d\x7d").toList
    let v : Document := .table [(.of "version", .boolean true), (.of "x", .null),
      (.of "nodes", .table [([.half 0xd800], .array entries), (.of "m", .array [])])]
    let files : FileTree := ⟨[], [(["s"], .file (Utf8.encode text))]⟩
    let path : Path := .parse "/s"
    files.isFile path = .ok true ∧ files.read path = .ok (Utf8.encode text) ∧
      Utf8.decode (Utf8.encode text) = .ok text ∧ Json.read (unifyNewlines text) = .ok v ∧
      ∃ listed set, fetch files path = .ok listed ∧
        Entries.names listed = [[.half 0xd800], Spelling.of "m"] ∧ ([.half 0xd800], set) ∈ listed ∧
        List.Forall₂ Gives entries set ∧ ∀ sets, load files path ≠ .ok sets := by
  intro entries text v files path
  have hvalue : Json.read (unifyNewlines text) = .ok v := by
    subst v text entries
    cbv
  have hread : files.read path = .ok (Utf8.encode text) := toOption_eq_some.1 (by decide +kernel)
  have hfile : files.isFile path = .ok true := FileTree.isFile_of_read hread
  have htext : Utf8.decode (Utf8.encode text) = .ok text := Utf8.decode_eq_ok.2 rfl
  have hentries : IsSet (.array entries) := by
    refine ⟨entries, rfl, List.forall_mem_cons.2 ⟨?_, List.forall_mem_singleton.2 ?_⟩⟩
    · exact ⟨.of "T@a@b", [.half 0xdc00], ⟨_, rfl, rfl, rfl⟩, by decide⟩
    · exact ⟨.of "@", [], ⟨_, rfl, rfl, rfl⟩, by decide⟩
  have hstore : IsStore v := by
    refine ⟨_, rfl, fun version h => ?_, fun nodes h => ?_⟩
    · exact .inl (Option.some.inj h).symm
    · obtain rfl := Option.some.inj h
      exact ⟨_, rfl, List.forall_mem_cons.2 ⟨hentries, List.forall_mem_singleton.2
        ⟨[], rfl, List.forall_mem_nil _⟩⟩⟩
  obtain ⟨hiff, -, hgives, -, hloads⟩ := fetch_documented hfile hread htext hvalue
  obtain ⟨found, hfound⟩ := hiff.2 hstore
  obtain ⟨hnames, -, hlisted⟩ := hgives found hfound
  obtain ⟨⟨name, set⟩, he, rfl, items, hitems, hset⟩ := forall₂_mem hlisted (List.mem_cons_self ..)
  cases hitems
  refine ⟨hfile, hread, htext, hvalue, found, set, hfound, hnames, he, hset, fun sets hsets => ?_⟩
  -- the name of the first node is that of no set
  obtain ⟨hlists, -⟩ := (hloads sets).1 hsets
  cases hfound.symm.trans hlists
  obtain ⟨e, -, hname⟩ := List.mem_map.1 he
  have hhalf : Spelling.text? [.half 0xd800] = some e.1 := Spelling.text?_eq_some.2 (congrArg Prod.fst hname).symm
  cases hhalf

end Store

end ToolSites
