import ToolSites.Proofs.CommandLine.Effects
import ToolSites.Proofs.Json.Stopping
import ToolSites.Proofs.Text.Utf8
/-!
# What is said of a broken store

Of a store that can be read it is told what it lists or what is wrong with it, and the command line
reports the latter. All else is `Unforeseen`, and a run ends where it arises: bytes that are not text, an
integer that is too long to be read, and an array or table that lies too deep. `read_store` says that
these are all exceptions, and exactly when each is met.
-/
open ToolSites.Text

namespace ToolSites.Store

variable {files : FileTree} {path : Path} {bytes : List UInt8} {text : List Char} {e : Error}

/-- It is told what the store lists, or what is wrong with it. -/
def Foreseen (path : Path) (fetched : Except Error Listings) : Prop :=
  (∃ listed, fetched = .ok listed) ∨ ∃ problem, fetched = .error (.store path problem)

theorem not_foreseen (hother : ∀ problem, e ≠ .store path problem) : ¬ Foreseen path (.error e) := by
  rintro (⟨_, h⟩ | ⟨problem, h⟩)
  · cases h
  · cases h
    exact hother problem rfl

/-- Why a store of these bytes lists nothing, while no problem of it is told. -/
inductive Unforeseen [Host] (bytes : List UInt8) : Error → Prop
  | undecodable {fault} : Utf8.decode bytes = .error fault → Unforeseen bytes (.undecodable fault)
  | integer {found digits} : Utf8.decode bytes = .ok found →
      Json.Stops (unifyNewlines found) (.tooManyDigits digits) → Unforeseen bytes (.tooManyDigits digits)
  | nesting {found} : Utf8.decode bytes = .ok found → Json.Stops (unifyNewlines found) .tooDeep →
      Unforeseen bytes .tooDeep

theorem Unforeseen.ne_store [Host] (h : Unforeseen bytes e) (problem : StoreProblem) :
    e ≠ .store path problem := by
  cases h <;> exact nofun

theorem Unforeseen.not_reported [Host] (h : Unforeseen bytes e) : e.isReported = false := by
  cases h <;> rfl

/-- A text is foreseen, or reading it stops. -/
theorem ofText_cases [Host] (path : Path) (htext : Utf8.decode bytes = .ok text) :
    Foreseen path (ofText path text) ∨ ∃ e, Unforeseen bytes e := by
  cases hread : Json.read (unifyNewlines text) with
  | ok v =>
    left
    rw [ofText, hread]
    dsimp only
    cases ofDocument v with
    | ok listed => exact .inl ⟨listed, rfl⟩
    | error problem => exact .inr ⟨problem, rfl⟩
  | error stop =>
    cases stop with
    | malformed problem place =>
      left
      rw [ofText, hread]
      exact .inr ⟨_, rfl⟩
    | tooManyDigits digits => exact .inr ⟨_, .integer htext (Json.read_eq_tooManyDigits.1 hread)⟩
    | tooDeep => exact .inr ⟨_, .nesting htext (Json.read_eq_tooDeep.1 hread)⟩

section File

variable [Host] (hfile : files.isFile path = .ok true) (hread : files.read path = .ok bytes)
include hfile hread

/-- A file whose bytes are not text is not looked at further. -/
theorem fetch_of_undecodable {fault : Utf8.Fault} (hbytes : Utf8.decode bytes = .error fault) :
    fetch files path = .error (.undecodable fault) := by
  unfold fetch fetch?
  simp only [hfile, hread, hbytes, mapError_ok, mapError_error, bind, Except.bind, if_true]
  rfl

theorem Unforeseen.fetch_eq (h : Unforeseen bytes e) : fetch files path = .error e := by
  cases h with
  | undecodable hbytes => exact fetch_of_undecodable hfile hread hbytes
  | integer htext hstops =>
    rw [fetch_of_text hfile hread htext, ofText, Json.read_eq_tooManyDigits.2 hstops]
  | nesting htext hstops => rw [fetch_of_text hfile hread htext, ofText, Json.read_eq_tooDeep.2 hstops]

theorem fetch_cases : Foreseen path (fetch files path) ∨ ∃ e, Unforeseen bytes e := by
  cases hbytes : Utf8.decode bytes with
  | error fault => exact .inr ⟨_, .undecodable hbytes⟩
  | ok text =>
    rw [fetch_of_text hfile hread hbytes]
    exact ofText_cases path hbytes

/-- What is unforeseen is told, and it is no problem of the store. -/
theorem unforeseen_iff : Unforeseen bytes e ↔
    fetch files path = .error e ∧ ∀ problem, e ≠ .store path problem := by
  constructor
  · intro h
    exact ⟨h.fetch_eq hfile hread, h.ne_store⟩
  · rintro ⟨hfetch, hother⟩
    rcases fetch_cases hfile hread with hforeseen | ⟨found, hunforeseen⟩
    · exact absurd (hfetch ▸ hforeseen) (not_foreseen hother)
    · have hfound := hunforeseen.fetch_eq hfile hread
      rw [hfetch] at hfound
      cases hfound
      exact hunforeseen

/-- It is told what the store lists, or what is wrong with it, unless something is unforeseen. -/
theorem foreseen_iff : Foreseen path (fetch files path) ↔ ∀ e, ¬ Unforeseen bytes e := by
  constructor
  · intro h e hunforeseen
    rw [hunforeseen.fetch_eq hfile hread] at h
    exact not_foreseen hunforeseen.ne_store h
  · intro h
    rcases fetch_cases hfile hread with hforeseen | ⟨e, hunforeseen⟩
    · exact hforeseen
    · exact absurd hunforeseen (h e)

end File

end ToolSites.Store

namespace ToolSites.CommandLine

open Environment Store

variable {files : FileTree} {path : Path}

/-- What a run comes to that ends with an error: the error is reported, if it is one that is foreseen, and if
the output takes it. -/
def EndsWith [Host] (o : Options) (files : FileTree) (e : Error) (result : Result) : Prop :=
  result.exit = 1 ∧ result.files = files ∧
    if e.isReported then
      if Host.prints (report o .fail e.message) then
        result.failure = none ∧ result.output = report o .fail e.message
      else result.failure = some .unprinted ∧ result.output = ""
    else result.failure = some e ∧ result.output = ""

theorem endsWith_failed [Host] {o : Options} {events : List Event} {e : Error} {result : Result}
    (hexit : result.exit = (failed o files events e).exit) (hfiles : result.files = (failed o files events e).files)
    (hfailure : result.failure = (failed o files events e).failure)
    (houtput : result.output = (failed o files events e).output) : EndsWith o files e result := by
  unfold EndsWith
  rw [hexit, hfiles, hfailure, houtput]
  unfold failed printing
  cases e.isReported with
  | false => exact ⟨rfl, rfl, rfl, rfl⟩
  | true =>
    simp only [List.all_cons, List.all_nil, Bool.and_true, if_true]
    cases hprints : Host.prints (report o .fail e.message) with
    | true => exact ⟨rfl, rfl, rfl, by simp [String.join]⟩
    | false => exact ⟨rfl, rfl, rfl, by simp [hprints, String.join]⟩

/-- A run whose store lists nothing ends with that. -/
theorem run_of_fetch_error [Host] (args : List String) (i : Invocation) (vars : Variables) (config : Config)
    (base : Path) (e : Error) (hargs : parse args = .ok i)
    (hconfig : Config.load files vars i.options.config = .ok config)
    (hbase : baseOf files i.options.config = .ok base) (hstore : config.storeFrom base = some path)
    (hfetch : Store.fetch files path = .error e) : EndsWith i.options files e (run args files vars) := by
  have hload : Store.load files path = .error e := by
    rw [Store.load, hfetch]
    rfl
  have hof : ofConfig files config base = .error e := by
    unfold ofConfig storedSets
    dsimp only
    rw [hstore]
    dsimp only
    rw [hload]
    rfl
  have henv : Environment.load files vars i.options.config = .error e := by
    unfold Environment.load
    rw [hconfig, hbase]
    exact hof
  have hrun : i.run files vars =
      failed i.options files (Environment.loadEvents files vars i.options.config) e := by
    unfold Invocation.run
    dsimp only
    rw [henv]
  rw [run_eq_of_parse hargs, hrun]
  exact endsWith_failed rfl rfl rfl rfl

/-- It is told what a store lists that can be read, or what is wrong with it, exactly if nothing is unforeseen.
What is unforeseen is told as what it is, and not as what is wrong with the store: bytes that are not text, or
in a text an integer at which reading stops, or an array or table that lies too deep. For the integer the text
must have a run of that many digits, and for the depth brackets as deep. When the store of a command's
configuration lists nothing for any of these reasons, the run ends with exit code 1 and changes no file.
What is wrong with the store is reported, and what is unforeseen ends the run without a report. -/
theorem read_store [Host] {bytes : List UInt8} (hfile : files.isFile path = .ok true)
    (hread : files.read path = .ok bytes) :
    (Foreseen path (Store.fetch files path) ↔ ∀ e, ¬ Unforeseen bytes e) ∧
    (∀ e, Unforeseen bytes e ↔ Store.fetch files path = .error e ∧ ∀ problem, e ≠ .store path problem) ∧
    ((∃ fault, Unforeseen bytes (.undecodable fault)) ↔ ∀ text, bytes ≠ Utf8.encode text) ∧
    (∀ text digits, Json.Stops text (.tooManyDigits digits) → Json.HasLongRun text digits) ∧
    (∀ text, Json.Stops text .tooDeep → ∃ depth < text.countP Json.isOpening, Host.opens depth = false) ∧
    (∀ problem, (Error.store path problem).isReported = true) ∧
    (∀ e, Unforeseen bytes e → e.isReported = false) ∧
    ∀ args i vars config base e, parse args = .ok i →
      Config.load files vars i.options.config = .ok config → baseOf files i.options.config = .ok base →
      config.storeFrom base = some path → Store.fetch files path = .error e →
      EndsWith i.options files e (run args files vars) := by
  refine ⟨foreseen_iff hfile hread, fun e => unforeseen_iff hfile hread, ⟨?_, fun h => ?_⟩,
    fun _ _ => Json.Stops.hasLongRun, fun _ => Json.Stops.deep, fun _ => rfl,
    fun e => Unforeseen.not_reported, run_of_fetch_error⟩
  · rintro ⟨fault, hunforeseen⟩
    cases hunforeseen with
    | undecodable hbytes => exact Utf8.decode_eq_error.1 ⟨fault, hbytes⟩
  · obtain ⟨fault, hbytes⟩ := Utf8.decode_eq_error.2 h
    exact ⟨fault, .undecodable hbytes⟩

/-- A store of one byte that starts no character: nothing is told about it, and a run of `check` ends with
that error. -/
theorem read_store_undecodable :
    let files : FileTree := ⟨[], [(["c"], .file (Utf8.encode "store='s'\n".toList)), (["s"], .file [0xFF])]⟩
    let path : Path := .parse "/s"
    let result := run ["-c", "/c", "check"] files fun _ => none
    files.isFile path = .ok true ∧ files.read path = .ok [0xFF] ∧ ¬ Foreseen path (Store.fetch files path) ∧
      result.exit = 1 ∧ result.output = "" ∧ ∃ fault, result.failure = some (.undecodable fault) := by
  intro files path result
  have hread : files.read path = .ok [0xFF] := toOption_eq_some.1 (by decide +kernel)
  have hfile : files.isFile path = .ok true := FileTree.isFile_of_read hread
  have hnone : ∀ text, [0xFF] ≠ Utf8.encode text := by
    intro text he
    have hfails : (Utf8.decode [0xFF]).toOption = none := by decide +kernel
    rw [Utf8.decode_eq_ok.2 he] at hfails
    cases hfails
  have hargs : parse ["-c", "/c", "check"] = .ok ⟨{ config := .parse "/c" }, .check⟩ :=
    toOption_eq_some.1 (by decide +kernel)
  have hconfig : Config.load files (fun _ => none) (.parse "/c") = .ok ⟨some (.parse "s"), .empty, [], .empty⟩ :=
    toOption_eq_some.1 (by decide +kernel)
  have hbase : baseOf files (.parse "/c") = .ok ⟨.slash, []⟩ := toOption_eq_some.1 (by decide +kernel)
  obtain ⟨hforeseen, htold, hundecodable, -, -, -, hreported, hrun⟩ := read_store hfile hread
  obtain ⟨fault, hunforeseen⟩ := hundecodable.2 hnone
  obtain ⟨hexit, -, hsaid⟩ := hrun _ _ _ _ _ _ hargs hconfig hbase rfl ((htold _).1 hunforeseen).1
  rw [hreported _ hunforeseen, if_neg Bool.false_ne_true] at hsaid
  exact ⟨hfile, hread, fun h => hforeseen.1 h _ hunforeseen, hexit, hsaid.2, fault, hsaid.1⟩

end ToolSites.CommandLine
