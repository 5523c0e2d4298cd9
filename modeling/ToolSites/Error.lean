import ToolSites.Files.Fault
import ToolSites.Json.Reader
import ToolSites.Literal.Fault
import ToolSites.Node
import ToolSites.Text.Utf8
import ToolSites.Tool.Key
/-!
# Errors

All reasons for which an operation fails, with the data that its message needs.
`Error.message` is the one place where they are put into words.
-/

namespace ToolSites

/-! ## Problems of a document -/

/-- What is wrong with a stored document. -/
inductive StoreProblem
  | malformed (problem : Json.Problem) (place : Json.Place)
  | notTable
  | version (found : Json.Document)
  | nodes
  | notList (node : Spelling)
  | entryNotTable (node : Spelling)
  | entryFields (node : Spelling)
  /-- A key without a separator. -/
  | malformedKey (key : Spelling)

/-- One step towards a part of a document. -/
inductive Step
  | field (name : String)
  | item (index : Nat)
  deriving DecidableEq, Repr

/-- What a part of a configuration should have been. -/
inductive Complaint
  | missing
  | unknownField
  | notText
  | notTable
  | notList
  /-- A table that describes a `thing`. -/
  | notDescription (thing : String)
  | notKind
  | notPath
  | malformedKey (fault : KeyFault)
  | unusableTypeId (identifier : String)
  | undeclaredType (installation typeId : String)
  | duplicateInstallation (typeId name : String)
  deriving DecidableEq, Repr

/-- A part of a configuration that is not as it should be. -/
structure Issue where
  /-- The steps that lead to it. -/
  location : List Step
  complaint : Complaint
  deriving DecidableEq, Repr

/-- What is wrong with a configuration. -/
inductive ConfigProblem
  | missing
  | unreadable (fault : FileFault)
  | malformed
  | invalid (issues : List Issue)

/-! ## Markup -/

/-- What is wrong with a tag. -/
inductive MarkupFault
  /-- A closing tag that names no open tag. -/
  | unmatched (tag : String) (position : Nat)
  /-- A tag that closes whatever is open, where nothing is. -/
  | nothingOpen (position : Nat)
  /-- A color with a number that has no digits. -/
  | emptyNumber
  /-- A color with a number that is too long. -/
  | tooManyDigits (digits : Nat)
  /-- Arguments of a handler that write no value, and the text of the handler. -/
  | handler (arguments text : String) (fault : Literal.Fault)
  deriving DecidableEq, Repr

/-- The fault in words. -/
def MarkupFault.message : MarkupFault → String
  | .unmatched tag position =>
    "closing tag '[" ++ tag ++ "]' at position " ++ toString position ++
      " doesn't match any open tag"
  | .nothingOpen position =>
    "closing tag '[/]' at position " ++ toString position ++ " has nothing to close"
  | .handler arguments text fault =>
    "error parsing " ++
      (if fault.isFormal then Text.quoted arguments ++ " in " else "") ++ Text.quoted text ++
        "; " ++ fault.message
  | .emptyNumber => "invalid literal for int() with base 10: ''"
  | .tooManyDigits digits => Text.tooManyDigitsMessage digits

/-! ## All errors -/

/-- Why an operation fails. -/
inductive Error
  | emptyTypeId
  | separatorInTypeId (typeId : String)
  | typeRegistered (typeId : String)
  | unknownKind (word : String)
  | malformedKey (fault : KeyFault)
  | unknownType (typeId : String)
  | unknownNode (name : String)
  | unknownInstallation (key : String)
  | noLocations
  | cannotCarry (node : Node)
  | noStore
  | config (path : Path) (problem : ConfigProblem)
  | store (path : Path) (problem : StoreProblem)
  | tooManyDigits (digits : Nat)
  /-- More is nested than the machine has room for. -/
  | tooDeep
  | undecodable (fault : Text.Utf8.Fault)
  /-- A path or the name of a variable that the encoding of the machine does not have. -/
  | unencodable (text : String)
  /-- A string of the store with half of a pair: a `String` cannot hold it. -/
  | unpaired
  | file (fault : FileFault)
  | markup (fault : MarkupFault)
  /-- The output did not take what was printed. -/
  | unprinted

/-! ## Errors in words -/

namespace Complaint

/-- The kind of complaint. -/
def kind : Complaint → String
  | .missing => "missing"
  | .unknownField => "extra_forbidden"
  | .notText => "string_type"
  | .notTable => "dict_type"
  | .notList => "tuple_type"
  | .notDescription _ => "model_type"
  | .notKind => "enum"
  | .notPath => "path_type"
  | .malformedKey _ | .unusableTypeId _ | .undeclaredType .. | .duplicateInstallation .. =>
    "value_error"

/-- The complaint in words. -/
def message : Complaint → String
  | .missing => "Field required"
  | .unknownField => "Extra inputs are not permitted"
  | .notText => "Input should be a valid string"
  | .notTable => "Input should be a valid dictionary"
  | .notList => "Input should be a valid tuple"
  | .notDescription thing => "Input should be a valid dictionary or instance of " ++ thing
  | .notKind => "Input should be 'controller' or 'agent'"
  | .notPath => "Input is not a valid path for <class 'pathlib.Path'>"
  | .malformedKey fault => "Value error, " ++ fault.message
  | .unusableTypeId identifier =>
    "Value error, tool type identifier " ++ Text.quoted identifier ++
      " must be non-empty and free of " ++ quotedSeparator
  | .undeclaredType installation typeId =>
    "Value error, installation " ++ Text.quoted installation ++
      " references undeclared tool type " ++ Text.quoted typeId
  | .duplicateInstallation typeId name =>
    "Value error, duplicate installation " ++ typeId ++ "@" ++ name

end Complaint

/-- The step as it stands in the text of a location. -/
def Step.text : Step → String
  | .field name => name
  | .item index => toString index

/-- The issue on a line of its own. -/
def Issue.message (issue : Issue) : String :=
  ".".intercalate (issue.location.map Step.text) ++ ": " ++ issue.complaint.message

/-- What is wrong with the configuration at the path. -/
def ConfigProblem.message (path : Path) : ConfigProblem → String
  | .missing => "configuration file " ++ path.text ++ " does not exist"
  | .unreadable fault =>
    "configuration file " ++ path.text ++ " cannot be read: " ++ fault.message path
  | .malformed => "configuration file " ++ path.text ++ " is not valid TOML"
  | .invalid issues =>
    "\n".intercalate (("invalid configuration in " ++ path.text ++ ":") ::
      issues.map Issue.message)

/-- What is wrong with the store at the path. -/
def StoreProblem.message (path : Path) : StoreProblem → String
  | .malformed problem place =>
    "tool location store " ++ path.text ++ " is not valid JSON: " ++
      (Json.ReadError.malformed problem place).message
  | .notTable => "tool location store " ++ path.text ++ " must contain an object"
  | .version found =>
    "tool location store " ++ path.text ++ " has unsupported version " ++ found.shown
  | .nodes => "tool location store " ++ path.text ++ " has a malformed 'nodes' section"
  | .notList node =>
    path.text ++ ": overrides for node " ++ node.quoted ++ " must be a list"
  | .entryNotTable node =>
    path.text ++ ": override entry for node " ++ node.quoted ++ " must be an object"
  | .entryFields node =>
    path.text ++ ": override entry for node " ++ node.quoted ++
      " needs string 'key' and 'home'"
  | .malformedKey key => path.text ++ ": " ++ malformedKeyMessage key.quoted

namespace Error

/-- The error in words. An operation on files says where only if its caller does. -/
def message : Error → String
  | .emptyTypeId => "tool type identifier must not be empty"
  | .separatorInTypeId typeId =>
    "tool type identifier " ++ Text.quoted typeId ++ " must not contain " ++ quotedSeparator
  | .typeRegistered typeId => "tool type '" ++ typeId ++ "' already registered"
  | .unknownKind word => Text.quoted word ++ " is not a valid NodeKind"
  | .malformedKey fault => fault.message
  | .unknownType typeId => "unknown tool type " ++ Text.quoted typeId
  | .unknownNode name => "unknown node " ++ Text.quoted name
  | .unknownInstallation key => "unknown tool installation " ++ Text.quoted key
  | .noLocations => "tool location overrides require a collection of locations"
  | .cannotCarry node =>
    node.kind.text ++ " node " ++ Text.quoted node.name ++ " cannot carry tool location overrides"
  | .noStore => "no 'store' configured; tool locations cannot be edited"
  | .config path problem => problem.message path
  | .store path problem => problem.message path
  | .tooManyDigits digits => Text.tooManyDigitsMessage digits
  | .tooDeep => "maximum recursion depth exceeded"
  | .undecodable fault => fault.message
  | .unencodable text => "cannot encode " ++ Text.quoted text
  | .unpaired => "the store holds half of a surrogate pair"
  | .file fault => fault.reason
  | .markup fault => fault.message
  | .unprinted => "cannot write to the output"

/-- Whether the command line reports the error and ends with a failure. All others
end the program where they arise. -/
def isReported : Error → Bool
  | .malformedKey _ | .unknownType _ | .unknownNode _ | .unknownInstallation _
  | .noLocations | .cannotCarry _ | .noStore | .config .. | .store .. => true
  | .emptyTypeId | .separatorInTypeId _ | .typeRegistered _ | .unknownKind _
  | .tooManyDigits _ | .tooDeep | .undecodable _ | .unencodable _ | .unpaired | .file _
  | .markup _ | .unprinted => false

end Error

end ToolSites
