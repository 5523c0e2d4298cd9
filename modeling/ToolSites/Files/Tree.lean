import ToolSites.Host
/-!
# Trees of files

A `FileTree` is what a program finds on disk: directories, and files with their
bytes. A place is the list of names that leads to it from the root of the tree.
Paths are followed step by step, so that two dots lead back from a directory
that exists, and from no other.
-/

namespace ToolSites

/-! ## Trees -/

/-- What stands at a place. -/
inductive FileEntry
  | directory
  | file (bytes : List UInt8)
  deriving DecidableEq, Repr

/-- The files and directories, and the directory from which relative paths are
followed. -/
structure FileTree where
  /-- The current directory. -/
  current : Place
  /-- What stands where; the root itself is not listed. -/
  entries : List (Place × FileEntry)
  deriving DecidableEq, Repr

namespace FileTree

/-- What stands at the place. The root is always a directory. -/
def find? (t : FileTree) (place : Place) : Option FileEntry :=
  if place = [] then some .directory
  else (t.entries.find? fun e => e.1 = place).map Prod.snd

/-- Forgets what stands at the place. -/
def erase (t : FileTree) (place : Place) : FileTree :=
  { t with entries := t.entries.filter fun e => e.1 != place }

/-- Puts an entry at the place. -/
def put (t : FileTree) (place : Place) (entry : FileEntry) : FileTree :=
  { t with entries := (place, entry) :: (t.erase place).entries }

theorem find?_erase_of_ne (t : FileTree) {place other : Place} (h : other ≠ place) :
    ((t.erase place).entries.find? fun e => e.1 = other) =
      t.entries.find? fun e => e.1 = other := by
  rw [erase, List.find?_filter]
  congr 1
  funext e
  by_cases he : e.1 = other
  · simp [he, h]
  · simp [he]

theorem find?_erase (t : FileTree) {place : Place} (hp : place ≠ []) (other : Place) :
    (t.erase place).find? other = if other = place then none else t.find? other := by
  by_cases h : other = place
  · subst h
    simp [find?, erase, hp, List.find?_filter]
  · simp only [find?, find?_erase_of_ne t h, if_neg h]

theorem find?_put (t : FileTree) {place : Place} (hp : place ≠ []) (entry : FileEntry)
    (other : Place) :
    (t.put place entry).find? other = if other = place then some entry else t.find? other := by
  by_cases h : other = place
  · subst h
    simp [find?, put, hp]
  · have hne : ¬ place = other := fun e => h e.symm
    simp only [find?, put, List.find?_cons, hne, decide_false, find?_erase_of_ne t h, if_neg h]

/-- A tree that holds the current directory and those above it. -/
def root (current : Place) : FileTree :=
  { current
    entries := (List.range current.length).map fun i => (current.take (i + 1), .directory) }

/-! ## Following a path -/

/-- The longest name of a file, in bytes. -/
def maxName : Nat := 255

/-- The longest text of a path, in bytes. -/
def maxPath : Nat := 4095

/-- One step from a directory. -/
def step (t : FileTree) (place : Place) (part : String) : Except FileFault Place :=
  match t.find? place with
  | none => .error .missing
  | some (.file _) => .error .notDirectory
  | some .directory =>
    if part = ".." then .ok place.dropLast
    else if part.utf8ByteSize > maxName then .error .nameTooLong
    else .ok (place ++ [part])

/-- All steps, one after the other. -/
def follow (t : FileTree) (place : Place) : List String → Except FileFault Place
  | [] => .ok place
  | part :: rest => (t.step place part).bind fun next => t.follow next rest

/-- The place that a path leads to. Something may stand there or nothing; what
comes before its last name is a directory. -/
def locate (t : FileTree) (path : Path) : Except FileFault Place :=
  if path.text.toList.contains '\x00' then .error .nullByte
  else if path.text.utf8ByteSize > maxPath then .error .nameTooLong
  else t.follow (if path.isAbsolute then [] else t.current) path.parts

/-! ## Looking -/

/-- The bytes of the file at the path. -/
def read [Host] (t : FileTree) (path : Path) : Except FileFault (List UInt8) :=
  if Host.encodes path.text then
    (t.locate path).bind fun place =>
      match t.find? place with
      | none => .error .missing
      | some .directory => .error .isDirectory
      | some (.file bytes) => (Host.ask .read place).map fun _ => bytes
  else .error .unencodable

/-- What stands at the path. That a step towards it is missing or no directory
means that nothing stands there, and so does a name that no file can have. -/
def look [Host] (t : FileTree) (path : Path) : Except FileFault (Option FileEntry) :=
  if Host.encodes path.text then
    match t.locate path with
    | .ok place => (Host.ask .look place).map fun _ => t.find? place
    | .error .missing | .error .notDirectory | .error .nullByte => .ok none
    | .error fault => .error fault
  else .ok none

/-- Whether a file stands at the path. -/
def isFile [Host] (t : FileTree) (path : Path) : Except FileFault Bool :=
  (t.look path).map fun
    | some (.file _) => true
    | _ => false

/-- Whether a directory stands at the path. -/
def isDirectory [Host] (t : FileTree) (path : Path) : Except FileFault Bool :=
  (t.look path).map fun
    | some .directory => true
    | _ => false

/-- All that stands below the current directory, in ascending order. The names of
directories end in a slash. -/
def listing (t : FileTree) : List String :=
  let below := t.entries.filterMap fun (place, entry) =>
    if t.current.isPrefixOf place && place != t.current then
      some ("/".intercalate (place.drop t.current.length) ++
        if entry = .directory then "/" else "")
    else none
  below.mergeSort fun a b => decide (a ≤ b)

end FileTree

end ToolSites
