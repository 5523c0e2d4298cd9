import ToolSites.Proofs.Json.RoundTrip
import ToolSites.Proofs.OverrideSet
import ToolSites.Proofs.Files.Again
import ToolSites.Proofs.Text.Utf8
import ToolSites.Store
/-!
# Sets read back from the store

`load_save`: after sets were stored at a path, loading finds the same nodes in the
same order, each with the same keys and homes. What is not stored is the type that a
location carries, so each set comes back `unresolved`. The text of a store is plain
ASCII, so neither its encoding nor its line ends stand in the way. What was loaded can be
stored again, and the store is then the same, byte for byte (`save_load_save`).
-/
open ToolSites.Text

namespace ToolSites.Store

open Json (Document)

/-! ## Documents -/

theorem document_writable (sets : NodeSets) : (document sets).Writable := by
  have hentry : ∀ pair, (entryDocument pair).Writable := fun pair =>
    ⟨by simp [Entries.names, Spelling.of_inj], ⟨_, rfl⟩, ⟨_, rfl⟩, ⟨_, rfl⟩, ⟨_, rfl⟩, trivial⟩
  have hone : (Document.integer 1).Writable := by
    show (Nat.toDigits 10 1).length ≤ maxDigits
    decide
  have hnames : (sets.names.map Spelling.of).Nodup :=
    List.Pairwise.map Spelling.of (fun _ _ hne he => hne (Spelling.of_inj.1 he)) sets.nodup
  refine ⟨by simp [Entries.names, Spelling.of_inj], ⟨_, rfl⟩, hone, ⟨_, rfl⟩, ⟨?_, ?_⟩, trivial⟩
  · simpa [NameMap.names, Entries.names, Function.comp_def] using hnames
  · rw [Document.fieldsWritable_iff]
    intro field hf
    obtain ⟨e, -, rfl⟩ := List.mem_map.1 hf
    refine ⟨⟨_, rfl⟩, Document.itemsWritable_iff.2 fun item hi => ?_⟩
    obtain ⟨pair, -, rfl⟩ := List.mem_map.1 hi
    exact hentry pair

/-! ## Listings -/

/-- A location as it is listed. -/
def Listing.ofLocation (l : Location) : Listing := ⟨.of l.typeId, .of l.name, .of l.home⟩

/-- Sets as they are listed. -/
def listed (sets : NodeSets) : Listings :=
  sets.entries.map fun e => (.of e.1, e.2.locations.map Listing.ofLocation)

/-- The key of a location is split where its type ends. -/
theorem listing_of (l : Location) : listing (.of l.key.text, .of l.home) = .ok (.ofLocation l) := by
  have htext : Spelling.of l.key.text = Spelling.of l.typeId ++ .char '@' :: Spelling.of l.name := by
    rw [Spelling.of, l.key.toList_text, List.map_append]
    rfl
  have hkey : '@' ∉ l.typeId.toList := l.key.separator_free
  have hfree : Symbol.char '@' ∉ Spelling.of l.typeId := by simpa [Spelling.of] using hkey
  have hdrop := dropWhile_append_separator hfree (Spelling.of l.name)
  have htake := takeWhile_append_separator hfree (Spelling.of l.name)
  rw [← htext] at hdrop htake
  simp only [listing, hdrop, htake, Listing.ofLocation]

theorem setOfDocument_document (node : Spelling) (s : OverrideSet) :
    setOfDocument node (.array (s.pairs.map entryDocument)) = .ok (s.locations.map .ofLocation) := by
  have hentry : ∀ pair ∈ s.pairs, entryOfDocument node (entryDocument pair) = .ok (.of pair.1, .of pair.2) := by
    intro pair _
    simp [entryOfDocument, entryDocument, Entries.find?, Spelling.of_inj]
  have hentries : (s.pairs.map entryDocument).mapM (entryOfDocument node) =
      .ok (s.pairs.map fun pair => (.of pair.1, .of pair.2)) := by
    rw [List.mapM_map]
    exact mapM_eq_ok hentry
  have hlistings : (s.pairs.map fun pair => (Spelling.of pair.1, Spelling.of pair.2)).mapM listing =
      .ok (s.locations.map .ofLocation) := by
    rw [OverrideSet.pairs, List.map_map, List.mapM_map]
    exact mapM_eq_ok fun l _ => listing_of l
  rw [setOfDocument, hentries]
  exact hlistings

/-- The document of some sets lists these sets. -/
theorem ofDocument_document (sets : NodeSets) : ofDocument (document sets) = .ok (listed sets) := by
  have hnodes : nodesOfDocument (.table (sets.entries.map fun e =>
      (.of e.1, .array (e.2.pairs.map entryDocument)))) = .ok (listed sets) := by
    rw [nodesOfDocument, List.mapM_map]
    refine mapM_eq_ok fun e _ => ?_
    simp only [Function.comp, setOfDocument_document, Except.map]
  rw [← hnodes]
  simp [ofDocument, document, Entries.find?, Spelling.of_inj, Document.isOne]

/-- What is listed of sets are these sets, without the types that they carry. -/
theorem sets?_listed (sets : NodeSets) : sets? (listed sets) = some (sets.map OverrideSet.unresolved) := by
  have hlocation : ∀ l : Location, (Listing.ofLocation l).location? = some (.unresolved l.key l.home) := by
    intro l
    have hkey : Key.of? l.typeId l.name = some l.key := dif_neg l.key.separator_free
    simp only [Listing.location?, Listing.ofLocation, Spelling.text?_of, hkey, Option.bind_eq_bind,
      Option.bind_some, Option.pure_def]
  have hset : ∀ s : OverrideSet, (s.locations.map Listing.ofLocation).mapM Listing.location? =
      some s.unresolved.locations := by
    intro s
    rw [List.mapM_map]
    exact mapM_eq_some.2 (List.forall₂_map_right_iff.2 (List.forall₂_same.2 fun l _ => hlocation l))
  have hentries : (listed sets).mapM setOfListings = some (sets.map OverrideSet.unresolved).entries := by
    rw [listed, List.mapM_map]
    refine mapM_eq_some.2 (List.forall₂_map_right_iff.2 (List.forall₂_same.2 fun e _ => ?_))
    simp only [Function.comp, setOfListings, Spelling.text?_of, hset, Option.bind_eq_bind,
      Option.bind_some, Option.pure_def]
  rw [sets?, hentries]
  exact congrArg some (NameMap.ext (NameMap.entries_ofList (sets.map _).nodup))

/-! ## Text -/

theorem text_plain (sets : NodeSets) : ∀ c ∈ text sets, Json.IsPlain c := by
  intro c hc
  rcases List.mem_append.1 hc with hc | hc
  · exact Json.write_plain (document_writable sets) c hc
  · exact .inl (List.mem_singleton.1 hc)

theorem unifyNewlines_eq_self {cs : List Char} (h : '\r' ∉ cs) : unifyNewlines cs = cs := by
  fun_induction unifyNewlines cs with
  | case1 rest ih => exact absurd (.head _) h
  | case2 c rest _ ih =>
    simp only [List.mem_cons, not_or] at h
    rw [if_neg (Ne.symm h.1), ih h.2]
  | case3 => rfl

/-- The text of some sets lists these sets. -/
theorem ofText_text (path : Path) (sets : NodeSets) : ofText path (text sets) = .ok (listed sets) := by
  have hr : '\r' ∉ text sets := by
    intro h
    rcases text_plain sets _ h with h | h <;> revert h <;> decide
  rw [ofText, unifyNewlines_eq_self hr, text, Json.read_write_line (document_writable sets)]
  simp only [ofDocument_document, mapError_ok]

/-! ## Bytes -/

theorem encodeChar_ascii {c : Char} (h : c.toNat < 0x80) : Utf8.encodeChar c = [.ofNat c.toNat] := by
  rw [Utf8.encodeChar]
  exact if_pos h

theorem toNat_ascii {c : Char} (h : c.toNat < 0x80) : (UInt8.ofNat c.toNat).toNat = c.toNat := by
  rw [UInt8.toNat_ofNat', Nat.mod_eq_of_lt (by omega)]

theorem text_ascii (sets : NodeSets) : ∀ c ∈ text sets, c.toNat < 0x80 := by
  intro c hc
  rcases text_plain sets c hc with rfl | ⟨-, h⟩
  · decide
  · exact Nat.lt_of_le_of_lt h (by decide)

/-- The bytes of a store are ASCII. -/
theorem bytes_ascii (sets : NodeSets) : ∀ byte ∈ Utf8.encode (text sets), byte.toNat < 0x80 := by
  intro byte hb
  obtain ⟨c, hc, hb⟩ := List.mem_flatMap.1 hb
  have hascii := text_ascii sets c hc
  rw [encodeChar_ascii hascii, List.mem_singleton] at hb
  rw [hb, toNat_ascii hascii]
  exact hascii

/-! ## Files -/

/-- What is left of storing is what is left of replacing the file. -/
theorem files_of_save {files left : FileTree} {path : Path} {sets : NodeSets} {result : Except Error Unit}
    (h : save files path sets = (result, left)) :
    (files.replace path (Utf8.encode (text sets))).2 = left :=
  congrArg Prod.snd h

theorem replace_of_save {files done : FileTree} {path : Path} {sets : NodeSets}
    (h : save files path sets = (.ok (), done)) :
    files.replace path (Utf8.encode (text sets)) = (.ok (), done) := by
  unfold save at h
  rcases hs : files.replace path (Utf8.encode (text sets)) with ⟨_ | _, left⟩
  · rw [hs] at h; cases h
  · rw [hs] at h; cases h; rfl

/-- A store that could not be written leaves the directories that were made for it, and the file beside
it if that is refused to be removed. -/
theorem left_of_save_error [Host] {files left : FileTree} {path : Path} {sets : NodeSets} {e : Error}
    (h : save files path sets = (.error e, left)) :
    left = files.prepared path ∨ ∃ temporary, files.LeftBeside left path temporary := by
  unfold save at h
  rcases hr : files.replace path (Utf8.encode (text sets)) with ⟨_ | _, done⟩
  · rw [hr] at h; cases h; exact FileTree.left_of_replace_error hr
  · rw [hr] at h; cases h

/-- Where nothing is refused, a store that could not be written leaves nothing else. -/
theorem eq_of_save_error {files left : FileTree} {path : Path} {sets : NodeSets} {e : Error}
    (h : save files path sets = (.error e, left)) : left = files.prepared path := by
  rcases left_of_save_error h with hleft | ⟨temporary, -, hrefused, -⟩
  · exact hleft
  · exact absurd rfl hrefused

/-- A store that could not be written changes no file. -/
theorem save_error {files left : FileTree} {path : Path} {sets : NodeSets} {e : Error}
    (h : save files path sets = (.error e, left)) : files.Extends left :=
  eq_of_save_error h ▸ files.prepared_extends path

/-- What is loaded depends on the file at the path alone. -/
theorem load_congr [Host] {files other : FileTree} {path : Path} (hfile : files.isFile path = other.isFile path)
    (hread : files.read path = other.read path) : load files path = load other path := by
  rw [load, load, fetch, fetch, fetch?, fetch?, hfile, hread]

/-- A file lists what its text says. -/
theorem fetch_of_text [Host] {files : FileTree} {path : Path} {bytes : List UInt8} {text : List Char}
    (hfile : files.isFile path = .ok true) (hread : files.read path = .ok bytes)
    (htext : Utf8.decode bytes = .ok text) : fetch files path = ofText path text := by
  unfold fetch fetch?
  simp only [hfile, hread, htext, mapError_ok, bind, Except.bind, pure, Except.pure, if_true]
  cases ofText path text <;> rfl

/-- What is listed loads as the sets that it spells. -/
theorem load_of_fetch [Host] {files : FileTree} {path : Path} {listed : Listings} {sets : NodeSets}
    (h : fetch files path = .ok listed) (hsets : sets? listed = some sets) : load files path = .ok sets := by
  rw [load, h]
  simp only [Except.bind, hsets]

/-- A file with the text of sets loads as these sets. -/
theorem load_written {files : FileTree} {path : Path} {sets : NodeSets}
    (hread : files.read path = .ok (Utf8.encode (text sets))) :
    load files path = .ok (sets.map OverrideSet.unresolved) :=
  load_of_fetch ((fetch_of_text (FileTree.isFile_of_read hread) hread (Utf8.decode_eq_ok.2 rfl)).trans
    (ofText_text path sets)) (sets?_listed sets)

/-- What was stored is loaded. -/
theorem load_save {files done : FileTree} {path : Path} {sets : NodeSets}
    (h : save files path sets = (.ok (), done)) :
    load done path = .ok (sets.map OverrideSet.unresolved) :=
  load_written (FileTree.read_replace (replace_of_save h))

/-! ## Storing again -/

/-- What is written depends on the keys and homes alone. -/
theorem text_congr {sets other : NodeSets}
    (h : sets.map OverrideSet.pairs = other.map OverrideSet.pairs) : text sets = text other := by
  have hentries := congrArg (fun listed : NameMap (List (String × String)) =>
    listed.entries.map fun e => (Spelling.of e.1, Document.array (e.2.map entryDocument))) h
  simp only [NameMap.map, List.map_map, Function.comp_def] at hentries
  rw [text, document, hentries, text, document]

theorem pairs_map_unresolved (sets : NodeSets) :
    (sets.map OverrideSet.unresolved).map OverrideSet.pairs = sets.map OverrideSet.pairs := by
  apply NameMap.ext
  simp [NameMap.map, OverrideSet.pairs_unresolved]

/-- What was lost in the store, the types that locations carry, is not written. -/
theorem text_unresolved (sets : NodeSets) : text (sets.map OverrideSet.unresolved) = text sets :=
  text_congr (pairs_map_unresolved sets)

theorem save_of_replace {files done : FileTree} {path : Path} {sets : NodeSets}
    (h : files.replace path (Utf8.encode (text sets)) = (.ok (), done)) :
    save files path sets = (.ok (), done) := by
  rw [save, h]
  rfl

/-- Sets that were stored at a path are written in ASCII and load from there: the nodes are
the same in the same order, each with the keys and homes that it had, in their order. What
was loaded can be stored at the path again, which writes the same bytes and changes nothing
else. -/
theorem save_load_save {files done : FileTree} {path : Path} {sets : NodeSets}
    (h : save files path sets = (.ok (), done)) :
    ∃ bytes loaded, done.read path = .ok bytes ∧ (∀ byte ∈ bytes, byte.toNat < 0x80) ∧
      load done path = .ok loaded ∧ loaded.map OverrideSet.pairs = sets.map OverrideSet.pairs ∧
      ∃ again, save done path loaded = (.ok (), again) ∧ again.read path = .ok bytes ∧
        ∀ place, again.find? place = done.find? place := by
  have hreplace := replace_of_save h
  have hread := FileTree.read_replace hreplace
  obtain ⟨target, again, hl, hagain, hfind⟩ :=
    FileTree.replace_again hreplace (Utf8.encode (text sets))
  obtain ⟨target', -, hl', hfile⟩ := FileTree.locate_replace hreplace
  cases hl.symm.trans hl'
  refine ⟨_, _, hread, bytes_ascii sets, load_save h, pairs_map_unresolved sets, again, ?_,
    FileTree.read_replace hagain, fun place => ?_⟩
  · exact save_of_replace (by rw [text_unresolved, hagain])
  · rw [hfind]
    split
    · next hp => rw [hp, hfile]
    · rfl

/-- The node with the empty name has a key twice, once in a location that carries its type; the
other set is empty. Keys, homes and names have characters that are escaped in the store. -/
theorem save_load_save_escaped :
    let key : Key := ⟨"T\u0001", "a@\\\"", by decide⟩
    let sets : NodeSets := .ofList [
      ("", ⟨[.unresolved key "/h\r\n", .resolved (.foreign "T\u0001" "t") "a@\\\"" "" (by decide)]⟩),
      ("😀\"", ⟨[]⟩)]
    let path : Path := .parse "/new/s"
    ∃ done loaded, save ⟨[], []⟩ path sets = (.ok (), done) ∧ load done path = .ok loaded ∧
      loaded.names = ["", "😀\""] ∧ (loaded.find? "").map OverrideSet.pairs =
        some [("T\u0001@a@\\\"", "/h\r\n"), ("T\u0001@a@\\\"", "")] := by
  intro key sets path
  obtain ⟨done, hdone⟩ : ∃ done, save ⟨[], []⟩ path sets = (.ok (), done) :=
    ⟨_, Prod.ext (toOption_eq_some.1 (by decide +kernel)) rfl⟩
  obtain ⟨bytes, loaded, -, -, hload, hpairs, -⟩ := save_load_save hdone
  refine ⟨done, loaded, hdone, hload, ?_, ?_⟩
  · rw [← NameMap.names_map loaded OverrideSet.pairs, hpairs]
    decide
  · rw [← NameMap.find?_map, hpairs]
    decide

end ToolSites.Store
