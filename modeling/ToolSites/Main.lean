import ToolSites.CommandLine.Run
/-!
# The program

Takes in the files that a run may look at and the variables on which it depends,
runs the command, and puts what changed on disk. All that is decided is decided
by `CommandLine.run`.
-/

namespace ToolSites.Program

/-- The text of a place. -/
def textOf (place : Place) : String := "/" ++ "/".intercalate place

/-- The places that following a path goes through, from the current directory. -/
def placesOf (current : Place) (path : Path) : List Place :=
  go (if path.isAbsolute then [] else current) path.parts
where
  /-- The places from `place` on. -/
  go (place : Place) : List String → List Place
    | [] => [place]
    | part :: rest => place :: go (if part = ".." then place.dropLast else place ++ [part]) rest

/-- Takes in what stands at a place on disk, and its files. -/
def takeIn (files : FileTree) (place : Place) : IO FileTree := do
  let path := (← IO.currentDir) / textOf place
  if ← path.isDir then return files.put place .directory
  else if ← path.pathExists then
    return files.put place (.file (← IO.FS.readBinFile path).toList)
  else return files

/-- Takes in all that a path leads through. -/
def takeInPath (files : FileTree) (path : Path) : IO FileTree :=
  ((placesOf files.current path).filter (· != [])).foldlM takeIn files

/-- The values of the variables. -/
def takeInVariables (names : List String) : IO Variables := do
  let values ← names.mapM fun name => return (name, ← IO.getEnv name)
  return fun name => (values.lookup name).join

/-- Makes a directory or file as it is in the tree. A file is written under another
name first. -/
def putOut (place : Place) (entry : FileEntry) : IO Unit := do
  match entry with
  | .directory => IO.FS.createDirAll (textOf place)
  | .file bytes =>
    let temporary := textOf (place.dropLast ++
      [FileTree.temporaryName (place.getLast?.getD "") 0])
    IO.FS.writeBinFile temporary ⟨bytes.toArray⟩
    IO.FS.rename temporary (textOf place)

/-- Puts on disk what differs between the trees. -/
def putOutChanges (before after : FileTree) : IO Unit := do
  for (place, entry) in after.entries.reverse do
    if before.find? place != some entry then putOut place entry

/-- The current directory as a place. -/
def currentPlace : IO Place := do
  return (Path.parse (← IO.currentDir).toString).parts

/-- The files that an invocation may look at. -/
def filesOf (options : CommandLine.Options) (files : FileTree) :
    IO (FileTree × Variables) := do
  let files ← takeInPath files options.config
  let vars ← takeInVariables (Config.references files options.config)
  match Config.load files vars options.config, Environment.baseOf files options.config with
  | .ok config, .ok base =>
    match config.storeFrom base with
    | some path => return (← takeInPath files path, vars)
    | none => return (files, vars)
  | _, _ => return (files, vars)

end ToolSites.Program

open ToolSites

/-- Runs the command line. -/
def main (args : List String) : IO UInt32 := do
  let files := FileTree.root (← Program.currentPlace)
  let (files, vars) ← match CommandLine.parse args with
    | .ok invocation => Program.filesOf invocation.options files
    | .error _ => pure (files, fun _ => none)
  let result := CommandLine.run args files vars
  Program.putOutChanges files result.files
  IO.print result.output
  IO.eprint result.log
  if let some e := result.failure then IO.eprintln e.message
  return .ofNat result.exit
