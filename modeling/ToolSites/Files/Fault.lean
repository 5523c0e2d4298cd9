import ToolSites.Path
import ToolSites.Text.Quoted
/-!
# Faults of files

Why an operation on files fails: for what stands at the places that it is about, or
because the machine refuses it.
-/

namespace ToolSites

/-- The names that lead to a file or directory. -/
abbrev Place := List String

/-- Why the machine refuses an operation that the files would allow: the number of the
fault, and what is wrong. -/
structure Refusal where
  number : Nat
  reason : String
  deriving DecidableEq, Repr

/-- Why an operation on files fails. -/
inductive FileFault
  | missing
  | notDirectory
  | isDirectory
  | occupied
  | nameTooLong
  | busy
  | nullByte
  /-- A path with characters that the encoding of the machine does not have. -/
  | unencodable
  | refused (refusal : Refusal)
  deriving DecidableEq, Repr

namespace FileFault

/-- The number under which the operating system knows the fault. -/
def number : FileFault → Nat
  | .missing => 2
  | .busy => 16
  | .occupied => 17
  | .notDirectory => 20
  | .isDirectory => 21
  | .nullByte | .unencodable => 22
  | .nameTooLong => 36
  | .refused refusal => refusal.number

/-- What is wrong. -/
def reason : FileFault → String
  | .missing => "No such file or directory"
  | .busy => "Device or resource busy"
  | .occupied => "File exists"
  | .notDirectory => "Not a directory"
  | .isDirectory => "Is a directory"
  | .nullByte => "embedded null byte"
  | .unencodable => "the path cannot be encoded"
  | .nameTooLong => "File name too long"
  | .refused refusal => refusal.reason

/-- The fault in words, with the path at which it was met. -/
def message (fault : FileFault) (path : Path) : String :=
  match fault with
  | .nullByte | .unencodable => fault.reason
  | _ => "[Errno " ++ toString fault.number ++ "] " ++ fault.reason ++ ": " ++
    Text.quoted path.text

end FileFault

end ToolSites
