import ToolSites.Files.Fault
import ToolSites.Value
/-!
# The machine that a run happens on

What a run comes to depends on its arguments, files and variables, and on the machine:
whether it grants what is asked of its files, takes what is printed, and has room for
all that is nested. A `Host` says so, operation by operation. Nothing is assumed of
it. Where none is named it is the `obliging` one, which refuses nothing.
-/

namespace ToolSites

/-- What is asked of the machine at a place. -/
inductive FileAct
  /-- To see what stands there. -/
  | look
  | read
  | makeDirectory
  /-- To open a new file. -/
  | create
  /-- To give a file this place, in place of what stands there. -/
  | rename
  | remove
  deriving DecidableEq, Repr

/-- What a machine grants and refuses. -/
class Host where
  /-- Why an operation is refused, if it is. -/
  refuses : FileAct → Place → Option Refusal
  /-- What is written of a new file before no more is taken, if that happens, and why. -/
  stops : Place → List UInt8 → Option (List UInt8 × Refusal)
  /-- Whether the encoding of paths and of the names of variables has all characters of a text. -/
  encodes : String → Bool
  /-- Whether the output takes a text. Of one that it does not take, nothing shows. -/
  prints : String → Bool
  /-- Whether a JSON text may open one more array or table inside of so many. -/
  opens : Nat → Bool
  /-- Whether there is stack for the value at the start of a TOML text, inside of so many
  arrays and inline tables, as long as it is no more than what the values in it need. -/
  follows : Nat → List Char → Bool
  /-- Whether there is stack for the expansion of a value inside of so many arrays and tables,
  as long as it is no more than what the values in it need. -/
  reaches : Nat → Value → Bool
  /-- Whether there is a character of this name. -/
  namesCharacter : String → Bool

namespace Host

/-- The machine that refuses nothing. -/
instance obliging : Host where
  refuses _ _ := none
  stops _ _ := none
  encodes _ := true
  prints _ := true
  opens _ := true
  follows _ _ := true
  reaches _ _ := true
  namesCharacter _ := true

/-- Asks for an operation. -/
def ask [Host] (act : FileAct) (place : Place) : Except FileFault Unit :=
  match Host.refuses act place with
  | some refusal => .error (.refused refusal)
  | none => .ok ()

theorem ask_eq_ok [Host] {act : FileAct} {place : Place} :
    ask act place = .ok () ↔ Host.refuses act place = none := by
  unfold ask
  cases Host.refuses act place <;> simp

/-- What is done once the machine has granted it. -/
theorem map_ask_eq_ok [Host] {α : Type} {act : FileAct} {place : Place} {a b : α} :
    (ask act place).map (fun _ => a) = .ok b ↔ Host.refuses act place = none ∧ b = a := by
  rw [← ask_eq_ok]
  cases ask act place <;> simp [Except.map, eq_comm]

@[simp]
theorem ask_obliging (act : FileAct) (place : Place) : ask act place = .ok () := rfl

@[simp]
theorem encodes_obliging (text : String) : encodes text = true := rfl

end Host

end ToolSites
