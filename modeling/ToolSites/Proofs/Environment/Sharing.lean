import Mathlib.Logic.Function.Basic
import ToolSites.Proofs.Environment.Reload
import ToolSites.Proofs.Files.Beside
/-!
# Environments that share a store

Any number of environments of one configuration take turns at one store. `System.Step` is
the smallest turn that others can see: an environment is loaded; or a call attaches its set,
makes the directory of the store, creates a file beside it, writes that bit by bit and
renames it, or gives up at some point. A call that nobody interrupts is a run of such steps:
`System.Reachable.publish`.
-/

namespace ToolSites.Environment

/-! ## Turns -/

/-- How far a call has come that is to write the store. -/
inductive Phase
  /-- No call is under way. -/
  | idle
  /-- The set is attached. -/
  | attached
  /-- The directory of the store is there. -/
  | prepared
  /-- The store is being written at this place, from which it will be renamed. -/
  | writing (place : Place)

/-- An environment and the call that it is in. -/
structure Client where
  env : Environment
  phase : Phase

/-- Environments, by number, that share their files. -/
structure System where
  files : FileTree
  clients : Nat → Option Client
  /-- The sets that were passed to calls so far, each with the name of the node. -/
  passed : List (String × OverrideSet)

namespace System

/-- The system after a turn of the client with the number. -/
def turn (s : System) (i : Nat) (files : FileTree) (env : Environment) (phase : Phase) : System :=
  { s with files, clients := Function.update s.clients i (some ⟨env, phase⟩) }

/-- The system when a set is passed to a call. -/
def pass (s : System) (node : String) (set : OverrideSet) : System :=
  { s with passed := (node, set) :: s.passed }

/-- One turn. -/
inductive Step (config : Config) (base : Path) : System → System → Prop
  /-- An environment is loaded. -/
  | load {s : System} {i : Nat} {env : Environment} : s.clients i = none →
      ofConfig s.files config base = .ok env → Step config base s (s.turn i s.files env .idle)
  /-- A call is refused. -/
  | refuse {s : System} {i : Nat} {env : Environment} {node : String} {set : OverrideSet} {e : Error} :
      s.clients i = some ⟨env, .idle⟩ → env.attach node set = .error e →
      Step config base s (s.pass node set)
  /-- A call attaches its set. -/
  | attach {s : System} {i : Nat} {env after : Environment} {node : String} {set : OverrideSet} :
      s.clients i = some ⟨env, .idle⟩ → env.attach node set = .ok after →
      Step config base s ((s.pass node set).turn i s.files after .attached)
  /-- The directory of the store is made. -/
  | prepare {s : System} {i : Nat} {env : Environment} {path : Path} {left : FileTree} :
      s.clients i = some ⟨env, .attached⟩ → env.storePath = some path →
      s.files.makeDirectories path.parent = (.ok (), left) → Step config base s (s.turn i left env .prepared)
  /-- It cannot be made. -/
  | block {s : System} {i : Nat} {env : Environment} {path : Path} {left : FileTree} {fault : FileFault} :
      s.clients i = some ⟨env, .attached⟩ → env.storePath = some path →
      s.files.makeDirectories path.parent = (.error fault, left) →
      Step config base s (s.turn i left env .idle)
  /-- An empty file is made beside the store. -/
  | create {s : System} {i : Nat} {env : Environment} {path : Path} {place : Place} :
      s.clients i = some ⟨env, .prepared⟩ → env.storePath = some path →
      s.files.temporaryPlace path = .ok place →
      Step config base s (s.turn i (s.files.put place (.file [])) env (.writing place))
  /-- The file comes to hold some more of the text. -/
  | write {s : System} {i : Nat} {env : Environment} {place : Place} {bytes : List UInt8} :
      s.clients i = some ⟨env, .writing place⟩ →
      bytes <+: Text.Utf8.encode (Store.text env.toStore) →
      Step config base s (s.turn i (s.files.put place (.file bytes)) env (.writing place))
  /-- The file is complete, and takes the place of the store. -/
  | rename {s : System} {i : Nat} {env : Environment} {path : Path} {place : Place} {left : FileTree} :
      s.clients i = some ⟨env, .writing place⟩ → env.storePath = some path →
      s.files.find? place = some (.file (Text.Utf8.encode (Store.text env.toStore))) →
      s.files.rename place path = .ok left → Step config base s (s.turn i left env .idle)
  /-- A call fails before it has a file. -/
  | fail {s : System} {i : Nat} {env : Environment} {phase : Phase} :
      s.clients i = some ⟨env, phase⟩ → phase = .attached ∨ phase = .prepared →
      Step config base s (s.turn i s.files env .idle)
  /-- A call fails and takes its file away. -/
  | abandon {s : System} {i : Nat} {env : Environment} {place : Place} :
      s.clients i = some ⟨env, .writing place⟩ →
      Step config base s (s.turn i (s.files.erase place) env .idle)

/-- The systems that come of the files, where nobody has loaded them yet. -/
inductive Reachable (config : Config) (base : Path) (files : FileTree) : System → Prop
  | start : Reachable config base files ⟨files, fun _ => none, []⟩
  | step {s s' : System} : Reachable config base files s → Step config base s s' →
      Reachable config base files s'

end System

/-! ## Whole calls -/

namespace System

variable {config : Config} {base : Path} {files left : FileTree} {s : System} {i : Nat}
  {env after : Environment} {node : String} {set : OverrideSet} {result : Except Error Unit}

theorem turn_self {phase : Phase} (h : s.clients i = some ⟨env, phase⟩) : s.turn i s.files env phase = s := by
  rw [turn, ← h, Function.update_eq_self]

theorem turn_turn {files found : FileTree} {phase last : Phase} :
    (s.turn i found env phase).turn i files after last = s.turn i files after last := by
  rw [turn, turn, turn, Function.update_idem]

theorem clients_turn {phase : Phase} : (s.turn i files env phase).clients i = some ⟨env, phase⟩ :=
  Function.update_self ..

theorem clients_turn_of_ne {phase : Phase} {j : Nat} (h : j ≠ i) :
    (s.turn i files env phase).clients j = s.clients j :=
  Function.update_of_ne h ..

/-- The end of a call that has attached its set, in one go. -/
theorem Reachable.save {path : Path} (h : Reachable config base files s)
    (hi : s.clients i = some ⟨env, .attached⟩) (hp : env.storePath = some path)
    (hsave : Store.save s.files path env.toStore = (result, left)) :
    Reachable config base files (s.turn i left env .idle) := by
  let bytes := Text.Utf8.encode (Store.text env.toStore)
  have hleft : (s.files.replace path bytes).2 = left := Store.files_of_save hsave
  unfold FileTree.replace at hleft
  rcases hmake : s.files.makeDirectories path.parent with ⟨fault | _, made⟩
  · rw [hmake] at hleft
    cases hleft
    exact h.step (.block hi hp hmake)
  · rw [hmake] at hleft
    have hprepared := h.step (.prepare hi hp hmake)
    dsimp only at hleft
    cases htemporary : made.temporaryPlace path with
    | error fault =>
      rw [htemporary] at hleft
      cases hleft
      have hfailed := hprepared.step (.fail clients_turn (.inr rfl))
      rwa [turn_turn] at hfailed
    | ok place =>
      rw [htemporary] at hleft
      -- the file is made empty, and then holds all of the text at once
      have hcreated := hprepared.step (.create clients_turn hp htemporary)
      have hfilled := hcreated.step (.write clients_turn (List.prefix_refl bytes))
      rw [turn_turn, turn_turn] at hfilled
      have hfiles : ((made.put place (.file [])).put place (.file bytes)) = made.put place (.file bytes) :=
        made.put_put place _ _
      change Reachable config base files
        (s.turn i ((made.put place (.file [])).put place (.file bytes)) env (.writing place)) at hfilled
      rw [hfiles] at hfilled
      have hcomplete : (made.put place (.file bytes)).find? place = some (.file bytes) := by
        rw [FileTree.find?_put _ (FileTree.temporaryPlace_free htemporary).1, if_pos rfl]
      dsimp only at hleft
      rw [FileTree.fill_obliging] at hleft
      dsimp only at hleft
      cases hrename : (made.put place (.file bytes)).rename place path with
      | ok done =>
        rw [hrename] at hleft
        cases hleft
        have hrenamed := hfilled.step (.rename clients_turn hp hcomplete hrename)
        rwa [turn_turn] at hrenamed
      | error fault =>
        rw [hrename] at hleft
        cases hleft
        have habandoned := hfilled.step (.abandon clients_turn)
        rwa [turn_turn] at habandoned

/-- A whole call, with nothing in between, is a run of steps. -/
theorem Reachable.publish (h : Reachable config base files s) (hi : s.clients i = some ⟨env, .idle⟩)
    (hpublish : env.publish s.files node set = (result, after, left)) :
    Reachable config base files ((s.pass node set).turn i left after .idle) := by
  have hattach := attach_eq env node set
  rcases publish_cases hpublish with ⟨hc, -, rfl, rfl⟩ | ⟨hc, rfl, -, -, rfl⟩ | ⟨hc, rfl, path, hp, hsave⟩
  · rw [hc] at hattach
    have hsame := turn_self (s := s.pass node set) hi
    change Reachable config base files ((s.pass node set).turn i (s.pass node set).files after .idle)
    rw [hsame]
    exact h.step (.refuse hi hattach)
  · rw [hc, if_pos rfl] at hattach
    have hdone := (h.step (.attach hi hattach)).step (.fail clients_turn (.inl rfl))
    rwa [turn_turn] at hdone
  · rw [hc, if_pos rfl] at hattach
    have hdone := (h.step (.attach hi hattach)).save clients_turn hp hsave
    rwa [turn_turn] at hdone

end System

end ToolSites.Environment
