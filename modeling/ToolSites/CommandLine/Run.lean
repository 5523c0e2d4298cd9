import ToolSites.CommandLine.Arguments
import ToolSites.Problems
import ToolSites.Tables
/-!
# Running a command

A run loads the environment, does what the command asks for, and says so. It ends
with zero if all went well and with one if not. Errors that the program foresees
are reported as part of its output; any other error ends the run where it
arises. So does an output that does not take what is printed, and then what was
done before stays done: a set is stored before the run says so.
-/

namespace ToolSites.CommandLine

/-! ## What a run leaves behind -/

/-- The end of a run. -/
structure Outcome where
  /-- The exit code. -/
  exit : Nat
  /-- What was printed. -/
  output : String
  events : List Event
  /-- The error that ended the run, if it was not reported. -/
  failure : Option Error
  files : FileTree

/-- The end of a run that prints some texts one after the other, and ends with `exit`
if the output takes them all. The first that it does not take ends the run. -/
def printing [Host] (exit : Nat) (files : FileTree) (texts : List String) (events : List Event) :
    Outcome :=
  if texts.all Host.prints then ⟨exit, String.join texts, events, none, files⟩
  else ⟨1, String.join (texts.takeWhile Host.prints), events, some .unprinted, files⟩

/-- A run that went well. -/
def done [Host] (files : FileTree) (output : String) (events : List Event) : Outcome :=
  printing 0 files [output] events

/-- An output that takes everything shows it all. -/
@[simp]
theorem printing_obliging (exit : Nat) (files : FileTree) (texts : List String)
    (events : List Event) :
    printing exit files texts events = ⟨exit, String.join texts, events, none, files⟩ :=
  if_pos (List.all_eq_true.2 fun _ _ => rfl)

@[simp]
theorem done_obliging (files : FileTree) (output : String) (events : List Event) :
    done files output events = ⟨0, output, events, none, files⟩ := by
  simp [done, String.join]

/-! ## Saying so -/

/-- What a message is. -/
inductive Tone
  | info
  | ok
  | warn
  | fail
  deriving DecidableEq, Repr

/-- The sign before a message. -/
def Tone.sign : Tone → String
  | .info => "ℹ️ "
  | .ok => "✅ "
  | .warn => "⚠️ "
  | .fail => "❌ "

/-- A message as it is printed. -/
def report (o : Options) (tone : Tone) (message : String) : String :=
  Console.shown (if o.emoji then tone.sign ++ message else message)

/-- The line above the problems. -/
def heading (o : Options) (title : String) : String :=
  if o.color then
    let rest := Console.width - (title.length + 2)
    .ofList (List.replicate (rest / 2) '─') ++ " " ++ title ++ " " ++
      .ofList (List.replicate (rest - rest / 2) '─')
  else "--- " ++ title ++ " ---"

/-- The end of a run with an error. -/
def failed [Host] (o : Options) (files : FileTree) (events : List Event) (e : Error) : Outcome :=
  if e.isReported then printing 1 files [report o .fail e.message] events
  else ⟨1, "", events, some e, files⟩

/-- A table as it is printed, and what is printed after it. -/
def printTable [Host] (o : Options) (files : FileTree) (table : Console.Table)
    (after : List String) (events : List Event) : Outcome :=
  match table.shown o.emoji with
  | .ok text => printing 0 files (text :: after) events
  | .error fault => ⟨1, "", events, some (.markup fault), files⟩

/-! ## Editing -/

/-- The set of a node that is to be edited. -/
def editedSet (env : Environment) (node : String) : Except Error (Option OverrideSet) :=
  (env.nodes.get node).map env.nodes.overridesFor

/-- The set of a node with the location in it. -/
def setWith (env : Environment) (node key home : String) : Except Error OverrideSet := do
  let location ← (Location.ofKey key home).mapError .malformedKey
  let current ← editedSet env node
  return (current.getD ⟨[]⟩).insert location

/-- The set of a node without the key; nothing if the key is not in it. -/
def setWithout (env : Environment) (node key : String) : Except Error (Option OverrideSet) :=
  (editedSet env node).map fun current =>
    current.bind fun set => if set.keys.contains key then some (set.erase key) else none

/-- Publishes a set and says that it is done. -/
def publishing [Host] (o : Options) (env : Environment) (files : FileTree) (events : List Event)
    (node : String) (set : OverrideSet) (message : String) : Outcome :=
  let events := events ++ env.publishEvents files node set
  match env.publish files node set with
  | (.ok (), _, files) => done files (report o .ok message) events
  | (.error e, _, files) => failed o files events e

/-! ## Commands -/

/-- Does what the command asks for. -/
def perform [Host] (o : Options) (env : Environment) (files : FileTree) (events : List Event)
    (command : Command) : Outcome :=
  match command with
  | .resolve node key =>
    match env.resolve node key with
    | .ok home => done files (Console.plain home ++ "\n") (events ++ env.resolveEvents node key)
    | .error e => failed o files events e
  | .installations node =>
    match node.mapM env.nodes.get with
    | .ok target =>
      printTable o files (env.installationsTable target) []
        (events ++ env.installationsTableEvents target)
    | .error e => failed o files events e
  | .check =>
    match env.problems with
    | [] => done files (report o .ok "All tool locations resolve.") events
    | problems =>
      let reports := problems.map fun p => report o .warn p.message
      printing 1 files ("\n" :: (heading o "Tool location problems" ++ "\n") :: reports) events
  | .list node =>
    match env.describe node with
    | .ok [] =>
      done files (report o .info ("No tool locations configured for " ++ node ++ ".")) events
    | .ok rows =>
      let warnings := rows.filterMap fun row =>
        match row.type with
        | .ok _ => none
        | .error e => some (report o .warn (row.key ++ ": " ++ e.message))
      printTable o files (overridesTable node rows) warnings events
    | .error e => failed o files events e
  | .set node key home =>
    match setWith env node key home with
    | .ok set =>
      publishing o env files events node set
        (key ++ " on " ++ node ++ " now resolves to " ++ home)
    | .error e => failed o files events e
  | .unset node key =>
    match setWithout env node key with
    | .ok (some set) =>
      publishing o env files events node set ("Removed " ++ key ++ " from " ++ node)
    | .ok none =>
      done files (report o .warn ("No tool location for " ++ key ++ " on " ++ node ++ "."))
        events
    | .error e => failed o files events e
  | .clear node =>
    publishing o env files events node ⟨[]⟩ ("Cleared tool locations on " ++ node)

/-- Whether the command changes the store. -/
def Command.edits : Command → Bool
  | .set .. | .unset .. | .clear _ => true
  | _ => false

/-- Runs an invocation. A command that edits needs a store. -/
def Invocation.run [Host] (i : Invocation) (files : FileTree) (vars : Variables) : Outcome :=
  let events := Environment.loadEvents files vars i.options.config
  match Environment.load files vars i.options.config with
  | .error e => failed i.options files events e
  | .ok env =>
    if i.command.edits && env.storePath.isNone then failed i.options files events .noStore
    else perform i.options env files events i.command

/-! ## The log -/

/-- What the log shows of an event: everything, or the bare warning. -/
def logLine (verbose : Bool) (event : Event) : Option String :=
  if verbose then
    some (event.level.text ++ " " ++ event.source ++ ": " ++ event.message ++ "\n")
  else if event.level = .warning then some (event.message ++ "\n")
  else none

/-- What is written to the log. -/
def log (verbose : Bool) (events : List Event) : String :=
  String.join (events.filterMap (logLine verbose))

/-! ## The program -/

/-- What a program run gives. -/
structure Result where
  exit : Nat
  output : String
  /-- What was written to the log. -/
  log : String
  failure : Option Error
  files : FileTree

/-- What is said to those who ask for help. -/
def helpText : String :=
  "Usage: toolhome [OPTIONS] COMMAND [ARGS]...\n\n" ++
  "Resolve node-specific tool installation homes.\n\n" ++
  "Options:\n" ++
  "  -c, --config PATH          Controller configuration file.\n" ++
  "  -v, --verbose              Enable debug logging.\n" ++
  "  --emoji / --no-emoji       Toggle emoji in CLI output.\n" ++
  "  --color / --no-color       Toggle colour in CLI output.\n" ++
  "  --help                     Show this message and exit.\n\n" ++
  "Commands:\n" ++
  "  resolve NODE KEY           Print the home directory an installation has on a node.\n" ++
  "  installations [-n NAME]    List declared tool installations.\n" ++
  "  check                      Report stale or misplaced tool locations.\n" ++
  "  overrides list NODE        List the tool locations configured for a node.\n" ++
  "  overrides set NODE KEY HOME\n" ++
  "                             Set the home of an installation on a node.\n" ++
  "  overrides unset NODE KEY   Remove the tool location of an installation from a node.\n" ++
  "  overrides clear NODE       Remove every tool location from a node.\n"

/-- Runs the program with the arguments. -/
def run [Host] (args : List String) (files : FileTree) (vars : Variables) : Result :=
  match parse args with
  | .error .help =>
    if Host.prints helpText then ⟨0, helpText, "", none, files⟩
    else ⟨1, "", "", some .unprinted, files⟩
  | .error .usage => ⟨2, "", "", none, files⟩
  | .ok invocation =>
    let outcome := invocation.run files vars
    ⟨outcome.exit, outcome.output, log invocation.options.verbose outcome.events,
      outcome.failure, outcome.files⟩

end ToolSites.CommandLine
