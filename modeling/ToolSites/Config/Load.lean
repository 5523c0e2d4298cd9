import ToolSites.Config.Schema
import ToolSites.Expansion
import ToolSites.Files.Tree
import ToolSites.Toml.Reader
/-!
# Loading a configuration

The file is decoded, read as a TOML document, expanded, and checked, in this
order. What is wrong with it is reported together with its path. What is not
reported so is an integer that is too long, and what the machine lacks: an
encoding of the path or of the name of a variable, or the stack for what lies
too deep.
-/

namespace ToolSites

/-- The fault of a document as an error. -/
def ExpansionFault.error : ExpansionFault → Error
  | .tooDeep => .tooDeep
  | .unencodable name => .unencodable name

/-- The configuration that the text holds; `path` is where it was found. -/
def Config.ofText [Host] (path : Path) (vars : Variables) (text : List Char) :
    Except Error Config :=
  match Toml.read text with
  | .error .malformed => .error (.config path .malformed)
  | .error (.tooManyDigits digits) => .error (.tooManyDigits digits)
  | .error .tooDeep => .error .tooDeep
  | .ok fields =>
    match (Value.table fields).fault? 0 with
    | some fault => .error fault.error
    | none =>
      (Config.ofDocument (Value.expand vars (.table fields))).mapError fun issues =>
        .config path (.invalid issues)

/-- The configuration at the path. -/
def Config.load [Host] (files : FileTree) (vars : Variables) (path : Path) :
    Except Error Config :=
  match files.read path with
  | .error .missing => .error (.config path .missing)
  | .error .nullByte => .error (.file .nullByte)
  | .error .unencodable => .error (.unencodable path.text)
  | .error fault => .error (.config path (.unreadable fault))
  | .ok bytes =>
    match Text.Utf8.decode bytes with
    | .error _ => .error (.config path .malformed)
    | .ok text => Config.ofText path vars text

/-- The names of the variables on which the configuration at the path depends. -/
def Config.references [Host] (files : FileTree) (path : Path) : List String :=
  match (files.read path).map Text.Utf8.decode with
  | .ok (.ok text) =>
    match Toml.read text with
    | .ok fields => (Value.table fields).references
    | .error _ => []
  | _ => []

end ToolSites
