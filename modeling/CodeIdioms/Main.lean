import CodeIdioms.CommandLine.Run
import CodeIdioms.Scan.Storage
import Std.Data.HashMap

/-! # The program

The outermost layer: it reads what a command line will ask for, runs the command line on that, and
prints the outcome.  For a scan it takes a picture of the directory as a file tree in which only
ignore files have contents, and then reads the files that the scan selects. -/

namespace CodeIdioms.Program

open CommandLine

/-! ### Reading -/

/-- The fault that an error of the system stands for. -/
def faultOf (e : IO.Error) : FileFault :=
  match e with
  | .noFileOrDirectory _ _ _ | .noSuchThing _ _ _ => .notFound
  | .permissionDenied _ _ _ => .denied
  | .inappropriateType _ code _ => if code = 21 then .isDirectory else .notDirectory
  | .invalidArgument _ code _ =>
    if code = 36 then .nameTooLong else if code = 40 then .tooManyLinks else .other e.toString
  | .resourceExhausted _ code _ => if code = 28 then .noSpace else .other e.toString
  | e => .other e.toString

/-- The result of an action, or the fault that it meets. -/
def attempt {α : Type} (action : IO α) : IO (Except FileFault α) := do
  try return .ok (← action)
  catch e => return .error (faultOf e)

/-- The text of a file. -/
def readText (path : String) : IO (Except FileFault String) := do
  return (← attempt (IO.FS.readBinFile path)) >>= FileTree.textOf

/-- The size of what a path leads to. -/
def readSize (path : String) : IO (Except FileFault UInt64) :=
  attempt do return (← (← IO.FS.realPath path).metadata).byteSize

/-- Reads a stream to its end. -/
partial def readRest (stream : IO.FS.Stream) (before : ByteArray) : IO ByteArray := do
  let part ← stream.read 65536
  if part.isEmpty then return before else readRest stream (before ++ part)

/-! ### Pictures of directories -/

/-- The names of a path from the top of the file system. -/
def locationOf (path : String) : Location := (Path.ofBytes (FileName.ofString path)).names

/-- The entries of a directory with what they are. -/
def listing (path : String) : IO (List (String × IO.FS.FileType)) := do
  let entries ← (← IO.FS.realPath path).readDir
  entries.toList.mapM fun e => do return (e.fileName, (← e.path.symlinkMetadata).type)

/-- The picture of a file: only ignore files have contents. -/
def pictureOfFile (path name : String) : IO FileTree := do
  if name ∈ [".ignore", ".gitignore", "exclude"] then
    match ← attempt (IO.FS.readBinFile path) with
    | .ok contents => return .file contents
    | .error _ => return .file .empty
  else return .file .empty

/-- A link that leads nowhere. -/
def brokenLink : FileTree := .link [0]

/-- The picture of a link; a place that it leads to is added to `targets`. -/
def pictureOfLink (targets : IO.Ref (List String)) (path : String) : IO FileTree := do
  match ← attempt (IO.FS.realPath path) with
  | .error _ => return brokenLink
  | .ok target =>
    targets.modify (target.toString :: ·)
    return .link (FileName.ofString target.toString)

/-- The picture of a directory; one that cannot be read is empty. -/
partial def picture (targets : IO.Ref (List String)) (followLinks : Bool) (path : String) :
    IO FileTree := do
  match ← attempt (listing path) with
  | .error _ => return FileTree.empty
  | .ok entries =>
    let trees ← entries.mapM fun (name, type) => do
      let here := path ++ "/" ++ name
      let tree ← match type with
        | .dir => picture targets followLinks here
        | .symlink => if followLinks then pictureOfLink targets here else pure brokenLink
        | _ => pictureOfFile here name
      return (FileName.ofString name, tree)
    return .directory trees

/-- Adds the pictures of the places that links lead to, until every link leads into the tree. -/
partial def withTargets (targets : IO.Ref (List String)) (tree : FileTree) : IO FileTree := do
  match ← targets.modifyGet fun ts => (ts.head?, ts.tail) with
  | none => return tree
  | some path =>
    let l := locationOf path
    if (tree.at? l).isSome then withTargets targets tree
    else
      let isDirectory ← attempt do return (← (← IO.FS.realPath path).metadata).type == .dir
      let new ← match isDirectory with
        | .ok true => picture targets true path
        | _ => pictureOfFile path ""
      withTargets targets (FileTree.put new l tree)

/-- Adds the ignore files of a directory that is not in the picture otherwise. -/
def withIgnoreFiles (l : Location) (tree : FileTree) : IO FileTree := do
  let names := l.map Text.lossy
  IgnoreKind.all.foldlM (fun tree k => do
    match ← attempt (IO.FS.readBinFile ("/" ++ "/".intercalate (names ++ [k.path]))) with
    | .ok contents => return FileTree.put (.file contents) (l ++ locationOf k.path) tree
    | .error _ => return tree) tree

/-- The picture of a directory, of the ignore files above it, and of what links lead to. -/
def pictureAround (root : String) (followLinks : Bool) : IO FileTree := do
  let targets ← IO.mkRef []
  let l := locationOf root
  let tree := FileTree.put (← picture targets followLinks root) l FileTree.empty
  let tree ← (List.range l.length).foldlM (fun tree n => withIgnoreFiles (l.take n) tree) tree
  withTargets targets tree

/-! ### Surroundings -/

/-- What is known of a file. -/
structure Known where
  size : Except FileFault UInt64
  text : Except FileFault String

/-- Reads some files. -/
def readFiles (paths : List String) : IO (Std.HashMap String Known) :=
  paths.foldlM (fun known path => do
    return known.insert path ⟨← readSize path, ← readText path⟩) ∅

/-- Access to files that have been read. -/
def accessTo (known : Std.HashMap String Known) : FileAccess :=
  { size := fun path => (known[path]?.map (·.size)).getD (.error .notFound)
    text := fun path => (known[path]?.map (·.text)).getD (.error .notFound) }

/-- What the walk through a root meets, or why it is refused. -/
def walkOf (root : String) (followLinks : Bool) : IO (Except RootFault (List Entry)) := do
  match ← attempt (IO.FS.realPath root) with
  | .error _ => return .error .missing
  | .ok real =>
    if ← real.isDir then
      let tree ← pictureAround real.toString followLinks
      return .ok (tree.walk (locationOf real.toString) followLinks)
    else return .error .notDirectory

/-- The surroundings of a scan: the walk through its root, and the files that it selects. -/
def surroundingsOfScan (env : Surroundings) (i : Invocation) (o : ScanOptions) :
    IO Surroundings := do
  match i.effective env with
  | .error _ => return env
  | .ok s =>
    let root := o.directory.getD "."
    let walk ← walkOf root s.scan.followLinks
    let env := { env with walk := fun _ _ => walk }
    match env.select root (Selection.ofSettings s.scan) s.scan.followLinks with
    | .error _ => return env
    | .ok paths =>
      let access := accessTo (← readFiles paths)
      return { env with size := access.size, text := fun path =>
        if path ∈ paths then access.text path else env.text path }

/-- The paths that a command reads, apart from scans. -/
def pathsOf : Command → List String
  | .detect o => o.input.toList.filter (· != "-")
  | _ => []

/-- Whether a command reads standard input. -/
def readsInput : Command → Bool
  | .detect o => o.input.all (· == "-")
  | _ => false

/-- The surroundings of an invocation. -/
def surroundingsOf (i : Invocation) : IO Surroundings := do
  let settings ← IO.getEnv "IDIOM_CONFIG"
  let access := accessTo (← readFiles ((i.settings <|> settings).toList ++ pathsOf i.command))
  let input ← if readsInput i.command then
      attempt (do readRest (← IO.getStdin) .empty)
    else pure (.ok .empty)
  let seed ← IO.rand 0 (UInt64.size - 1)
  let env : Surroundings :=
    { access with
      walk := fun _ _ => .error .missing
      input := input >>= FileTree.textOf
      settings
      random := Stream.ofSeed seed.toUInt64 }
  match i.command with
  | .scan o => surroundingsOfScan env i o
  | _ => return env

/-- The surroundings of a request; only commands ask them for anything. -/
def surroundingsOfRequest (r : Request) : IO Surroundings := do
  match r with
  | .run i => surroundingsOf i
  | _ => return { input := .ok "", size := fun _ => .error .notFound,
                  text := fun _ => .error .notFound, walk := fun _ _ => .error .missing }

/-! ### Printing -/

/-- Writes lines to standard error up to the first that it refuses; gives the number of those before
that, and the fault. -/
def writeNotes (lines : List String) : IO (Option (Nat × FileFault)) := do
  let mut taken := 0
  for line in lines do
    match ← attempt (IO.eprintln line) with
    | .ok () => taken := taken + 1
    | .error f => return some (taken, f)
  return none

/-- The surroundings in which standard error takes as many lines as given and refuses the next. -/
def refusing (env : Surroundings) (taken : Nat) (f : FileFault) : Surroundings :=
  { env with takeNote := fun notes _ => if notes.length < taken then .ok () else .error f }

/-- Prints the outcome of a request, and gives the outcome as it is after that: what standard error
answers is known only when its lines are written, and the output does not depend on it. -/
def printOutcome (r : Request) (env : Surroundings) : IO Outcome := do
  let o := r.outcome env
  IO.print o.transcript.output
  match ← writeNotes o.transcript.notes with
  | none => return o
  | some (taken, f) => return r.outcome (refusing env taken f)

end CodeIdioms.Program

open CodeIdioms CommandLine Program in
/-- Runs a command line and gives its exit code. -/
def main (words : List String) : IO UInt32 := do
  let r := Request.ofWords words
  let o ← printOutcome r (← surroundingsOfRequest r)
  -- a failure is told on standard error as well, and it does not matter whether it is heard
  for message in o.chain do
    discard <| attempt (IO.eprintln ("Error: " ++ message))
  if o.code = Outcome.misused then
    discard <| attempt (IO.eprint usage)
  return o.code.toUInt32
