import ToolSites.Path
/-!
# Arguments of the command line

Options come before the command or, where a command has options of its own,
anywhere after it. A long option takes its value from behind an equals sign or
from the next argument; short options may share an argument, and the last of
them takes its value from the rest of it. Two dashes end the options. Of an
option given twice the last counts.
-/

namespace ToolSites.CommandLine

/-! ## Options -/

/-- What an option sets. -/
inductive Setting
  | config
  | verbose
  | emoji
  | noEmoji
  | color
  | noColor
  | node
  | help
  deriving DecidableEq, Repr

/-- Whether the option has a value. -/
def Setting.takesValue : Setting → Bool
  | .config | .node => true
  | _ => false

/-- The options that may be given, by name. -/
abbrev Known := List (String × Setting)

/-- The options of every command. -/
def globalOptions : Known :=
  [("--config", .config), ("-c", .config), ("--verbose", .verbose), ("-v", .verbose),
    ("--emoji", .emoji), ("--no-emoji", .noEmoji), ("--color", .color),
    ("--no-color", .noColor), ("--help", .help)]

/-- The options of a command without options of its own. -/
def noOptions : Known := [("--help", .help)]

/-- The options of the list of installations. -/
def installationsOptions : Known := [("--node", .node), ("-n", .node), ("--help", .help)]

/-- An option that was given, with its value if it has one. -/
abbrev Use := Setting × String

/-- What one argument with options gives. -/
inductive Given
  | complete (uses : List Use)
  /-- The value of the last option is the next argument. -/
  | awaiting (uses : List Use) (setting : Setting)

/-- Short options that share an argument. -/
def shortOptions (known : Known) : List Char → Option Given
  | [] => some (.complete [])
  | c :: rest =>
    match known.lookup (.ofList ['-', c]) with
    | none => none
    | some setting =>
      if setting.takesValue then
        if rest = [] then some (.awaiting [] setting)
        else some (.complete [(setting, .ofList rest)])
      else
        (shortOptions known rest).map fun
          | .complete uses => .complete ((setting, "") :: uses)
          | .awaiting uses last => .awaiting ((setting, "") :: uses) last

/-- A long option. -/
def longOption (known : Known) (arg : List Char) : Option Given :=
  let value? := match arg.dropWhile (· != '=') with
    | _ :: value => some (String.ofList value)
    | [] => none
  match known.lookup (.ofList (arg.takeWhile (· != '='))), value? with
  | none, _ => none
  | some setting, some value =>
    if setting.takesValue then some (.complete [(setting, value)]) else none
  | some setting, none =>
    if setting.takesValue then some (.awaiting [] setting) else some (.complete [(setting, "")])

/-- What an argument gives if it starts with a dash and is more than that. -/
def optionArgument (known : Known) (arg : String) : Option (Option Given) :=
  match arg.toList with
  | '-' :: '-' :: name => some (longOption known ('-' :: '-' :: name))
  | '-' :: c :: name => some (shortOptions known (c :: name))
  | _ => none

/-- The options and the other arguments. Unless options may be `anywhere`, the
first other argument ends them. Nothing comes out if an option is not known or
its value is missing or out of place. -/
def scan (known : Known) (anywhere : Bool) : List String → Option (List Use × List String)
  | [] => some ([], [])
  | arg :: rest =>
    if arg = "--" then some ([], rest)
    else
      match optionArgument known arg with
      | none =>
        if anywhere then
          (scan known anywhere rest).map fun (uses, others) => (uses, arg :: others)
        else some ([], arg :: rest)
      | some none => none
      | some (some (.complete uses)) =>
        (scan known anywhere rest).map fun (more, others) => (uses ++ more, others)
      | some (some (.awaiting uses setting)) =>
        match rest with
        | [] => none
        | value :: after =>
          (scan known anywhere after).map fun (more, others) =>
            (uses ++ (setting, value) :: more, others)

/-! ## Commands -/

/-- What is to be done. -/
inductive Command
  | resolve (node key : String)
  | installations (node : Option String)
  | check
  | list (node : String)
  | set (node key home : String)
  | unset (node key : String)
  | clear (node : String)
  deriving DecidableEq, Repr

/-- How it is to be done and shown. -/
structure Options where
  config : Path := Path.parse "toolhome.toml"
  emoji : Bool := true
  color : Bool := true
  verbose : Bool := false
  deriving DecidableEq, Repr

/-- The options with one of them set. -/
def Options.apply (o : Options) : Use → Options
  | (.config, value) => { o with config := Path.parse value }
  | (.verbose, _) => { o with verbose := true }
  | (.emoji, _) => { o with emoji := true }
  | (.noEmoji, _) => { o with emoji := false }
  | (.color, _) => { o with color := true }
  | (.noColor, _) => { o with color := false }
  | (.node, _) | (.help, _) => o

/-- A command with its options. -/
structure Invocation where
  options : Options
  command : Command
  deriving DecidableEq, Repr

/-- Why there is no command to run. -/
inductive Refusal
  /-- Help was asked for. -/
  | help
  /-- The arguments make no sense. -/
  | usage
  deriving DecidableEq, Repr

/-- Scans arguments, and finds out whether help is asked for. -/
def scanned (known : Known) (anywhere : Bool) (args : List String) :
    Except Refusal (List Use × List String) :=
  match scan known anywhere args with
  | none => .error .usage
  | some (uses, others) =>
    if uses.any fun use => use.1 = .help then .error .help else .ok (uses, others)

/-- The command made of the arguments after it, if their number is right. -/
def command (args : List String) (known : Known)
    (make : List Use → List String → Option Command) : Except Refusal Command :=
  (scanned known true args).bind fun (uses, others) =>
    match make uses others with
    | some command => .ok command
    | none => .error .usage

/-- The last value of an option. -/
def lastValue (setting : Setting) (uses : List Use) : Option String :=
  ((uses.filter fun use => use.1 = setting).getLast?).map Prod.snd

/-- The commands on the overrides of a node. -/
def overridesCommand (args : List String) : Except Refusal Command :=
  if args = [] then .error .usage
  else
    (scanned noOptions false args).bind fun
      | (_, "list" :: rest) => command rest noOptions fun
        | _, [node] => some (.list node)
        | _, _ => none
      | (_, "set" :: rest) => command rest noOptions fun
        | _, [node, key, home] => some (.set node key home)
        | _, _ => none
      | (_, "unset" :: rest) => command rest noOptions fun
        | _, [node, key] => some (.unset node key)
        | _, _ => none
      | (_, "clear" :: rest) => command rest noOptions fun
        | _, [node] => some (.clear node)
        | _, _ => none
      | _ => .error .usage

/-- The command and what follows it. -/
def anyCommand : List String → Except Refusal Command
  | "resolve" :: rest => command rest noOptions fun
    | _, [node, key] => some (.resolve node key)
    | _, _ => none
  | "installations" :: rest => command rest installationsOptions fun
    | uses, [] => some (.installations (lastValue .node uses))
    | _, _ => none
  | "check" :: rest => command rest noOptions fun
    | _, [] => some .check
    | _, _ => none
  | "overrides" :: rest => overridesCommand rest
  | _ => .error .usage

/-- Whether a path holds a character that no path can have. -/
def isImpossiblePath (path : String) : Bool := path.toList.contains '\x00'

/-- The invocation that the arguments ask for. -/
def parse (args : List String) : Except Refusal Invocation :=
  if args = [] then .error .usage
  else
    (scanned globalOptions false args).bind fun (uses, rest) =>
      if (lastValue .config uses).any isImpossiblePath then .error .usage
      else (anyCommand rest).map fun command => ⟨uses.foldl Options.apply {}, command⟩

end ToolSites.CommandLine
