import ToolSites.Files.Tree
/-!
# Changing a tree of files

Every operation returns the tree that it leaves behind, whether it succeeds or
fails. `replace` writes a file beside the one it is to replace and renames it
when it is complete, so that the old file stands until the new one takes its
place. If it cannot, the file beside it is removed again.
-/

namespace ToolSites.FileTree

/-! ## Directories -/

/-- Makes one directory. -/
def makeDirectory [Host] (t : FileTree) (path : Path) : Except FileFault FileTree :=
  if Host.encodes path.text then
    (t.locate path).bind fun place =>
      if (t.find? place).isSome then .error .occupied
      else (Host.ask .makeDirectory place).map fun _ => t.put place .directory
  else .error .unencodable

/-- Makes one directory, unless it is there. -/
def ensureDirectory [Host] (t : FileTree) (path : Path) : Except FileFault FileTree :=
  match t.makeDirectory path with
  | .ok t => .ok t
  | .error .missing => .error .missing
  | .error .nullByte => .error .nullByte
  | .error .unencodable => .error .unencodable
  | .error fault =>
    match t.isDirectory path with
    | .ok true => .ok t
    | .ok false => .error fault
    | .error other => .error other

/-- Makes a directory and those above it that are missing. Directories made
before a fault stay. -/
def makeDirectories [Host] (t : FileTree) (path : Path) : Except FileFault Unit × FileTree :=
  match t.ensureDirectory path with
  | .ok made => (.ok (), made)
  | .error .missing =>
    if _h : path.parts = [] then (.error .missing, t)
    else
      match makeDirectories t path.parent with
      | (.error fault, above) => (.error fault, above)
      | (.ok (), above) =>
        match above.ensureDirectory path with
        | .ok made => (.ok (), made)
        | .error fault => (.error fault, above)
  | .error fault => (.error fault, t)
termination_by path.parts.length
decreasing_by exact Path.length_parent _h

/-! ## Files -/

/-- Writes a file in a directory that is there. -/
def write (t : FileTree) (path : Path) (bytes : List UInt8) : Except FileFault FileTree :=
  (t.locate path).bind fun place =>
    if t.find? place = some .directory then .error .isDirectory
    else .ok (t.put place (.file bytes))

/-- Removes a file. -/
def remove (t : FileTree) (path : Path) : Except FileFault FileTree :=
  (t.locate path).bind fun place =>
    match t.find? place with
    | none => .error .missing
    | some .directory => .error .isDirectory
    | some (.file _) => .ok (t.erase place)

/-- The name of the file that is written before it takes the name `name`. -/
def temporaryName (name : String) (n : Nat) : String :=
  "." ++ name ++ "." ++ .ofList (Text.hexDigits 8 n) ++ ".tmp"

/-- Where the file is written before it stands at the path: beside it, under a
name that is not in use. The machine must grant that it is opened there. -/
def temporaryPlace [Host] (t : FileTree) (path : Path) : Except FileFault Place :=
  (t.locate path.parent).bind fun directory =>
    let places := (List.range (t.entries.length + 1)).map fun n =>
      directory ++ [temporaryName path.name n]
    if !Host.encodes path.name then .error .unencodable
    else if path.name.toList.contains '\x00' then .error .nullByte
    else if (temporaryName path.name 0).utf8ByteSize > maxName then .error .nameTooLong
    else
      match places.find? fun place => (t.find? place).isNone with
      | none => .error .occupied
      | some place =>
        if ("/" ++ "/".intercalate place).utf8ByteSize > maxPath then .error .nameTooLong
        else (Host.ask .create place).map fun _ => place

/-- Gives the file at a place the name `path`, in place of a file that had it. -/
def rename [Host] (t : FileTree) (place : Place) (path : Path) : Except FileFault FileTree :=
  (t.locate path.parent).bind fun _ =>
    if path.parts = [] ∨ path.name = ".." then .error .busy
    else
      (t.locate path).bind fun target =>
        match t.find? target, t.find? place with
        | some .directory, _ => .error .isDirectory
        | _, some entry =>
          (Host.ask .rename target).map fun _ => (t.erase place).put target entry
        | _, none => .error .missing

/-- Writes a new file. What was written before a fault stays. -/
def fill [Host] (t : FileTree) (place : Place) (bytes : List UInt8) :
    Except FileFault Unit × FileTree :=
  match Host.stops place bytes with
  | some (written, refusal) => (.error (.refused refusal), t.put place (.file written))
  | none => (.ok (), t.put place (.file bytes))

/-- Removes a new file because of a fault. If that is refused, the file stays, and this is
the fault. -/
def discard [Host] (t : FileTree) (place : Place) (fault : FileFault) :
    Except FileFault Unit × FileTree :=
  match Host.ask .remove place with
  | .ok () => (.error fault, t.erase place)
  | .error refused => (.error refused, t)

theorem fill_obliging (t : FileTree) (place : Place) (bytes : List UInt8) :
    t.fill place bytes = (.ok (), t.put place (.file bytes)) := rfl

/-- Writes a file in place of the one at the path, if there is one, and makes the
directories above it that are missing. -/
def replace [Host] (t : FileTree) (path : Path) (bytes : List UInt8) :
    Except FileFault Unit × FileTree :=
  match t.makeDirectories path.parent with
  | (.error fault, t) => (.error fault, t)
  | (.ok (), t) =>
    match t.temporaryPlace path with
    | .error fault => (.error fault, t)
    | .ok temporary =>
      match t.fill temporary bytes with
      | (.error fault, filled) => filled.discard temporary fault
      | (.ok (), filled) =>
        match filled.rename temporary path with
        | .ok done => (.ok (), done)
        | .error fault => filled.discard temporary fault

end ToolSites.FileTree
