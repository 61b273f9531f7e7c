import SourceCensus.Command.Session
import SourceCensus.Log.Record

/-! The command. What it may look at is copied from the disk first: the settings files, what the
   arguments name, and the files below the root. Then the call is answered, its text printed and its
   log records appended. -/
namespace SourceCensus.Command
open Files Log

structure Copy where
  tree : Tree
  whole : List Place

inductive Kind
  | folder
  | file
  | link (target : Option String)
  | nothing

def kindOf (path : String) : IO Kind := do
  try
    match (← (System.mkFilePath [path]).symlinkMetadata).type with
    | .dir => return .folder
    | .file => return .file
    | .symlink =>
      try return .link (some (← IO.FS.realPath path).toString)
      catch _ => return .link none
    | .other => return .nothing
  catch _ => return .nothing

def bytesOf (path : String) : IO Encoding.Bytes := do
  try return (← IO.FS.readBinFile path).toList
  catch _ => return []

def Copy.put (c : Copy) (t : Tree) (place : Place) : Copy := { c with tree := c.tree.put t place }

partial def Copy.along (c : Copy) (here : Place) : List String → IO Copy
  | [] => return c
  | name :: rest => do
    if name = "" || name = "." then c.along here rest
    else if name = ".." then c.along here.dropLast rest
    else
      let place := here ++ [name]
      match ← kindOf (pathText place) with
      | .nothing => return c
      | .file => return c.put (.file (← bytesOf (pathText place))) place
      | .folder => Copy.along { c with tree := c.tree.makeFolder place } place rest
      | .link none => return c.put (.link "") place
      | .link (some target) => (c.put (.link target) place).along [] (stepsOf target ++ rest)

/-- Copies a folder with all below it. The bytes of files that are not wanted stay behind. -/
partial def Copy.below (wanted : Wanted) (c : Copy) (place : Place) : IO Copy := do
  if c.whole.contains place then return c
  let mut c : Copy := { tree := c.tree.makeFolder place, whole := place :: c.whole }
  for entry in ← (System.mkFilePath [pathText place]).readDir do
    let inner := place ++ [entry.fileName]
    match ← kindOf (pathText inner) with
    | .nothing => pure ()
    | .file =>
      if (Path.ofString entry.fileName).suffix = wanted.suffix then
        c := c.put (.file (← bytesOf (pathText inner))) inner
    | .folder => c ← c.below wanted inner
    | .link none => c := c.put (.link "") inner
    | .link (some target) =>
      c ← (c.put (.link target) inner).along [] (stepsOf target)
      match ← kindOf target with
      | .folder => if wanted.followLinks then c ← c.below wanted (stepsOf target).tail
      | _ => pure ()
  return c

def readEnvironment : IO Settings.Environment :=
  Settings.Field.all.filterMapM fun field => do
    return (← IO.getEnv field.variable).map fun value => (field.variable, value)

/-- The disk as far as a call can see it. -/
def copyFor (options : Options) (environment : Settings.Environment) (here home : Place) :
    IO Disk := do
  let mut c : Copy := ⟨.folder [], []⟩
  let named := options.words.take 1 ++ options.values.map (·.2)
  for path in pathText here :: pathText (home ++ [Settings.userFileName]) ::
      Settings.projectFileName :: Request.defaultRoot :: named do
    c ← c.along (startOf here path) (stepsOf path)
  let disk : Disk := ⟨c.tree, here, home⟩
  match (Session.start ⟨disk, environment, 0, ""⟩).settings options with
  | .error _ => return disk
  | .ok settings =>
    if let .text path := settings.logFile then
      c ← c.along (startOf here path) (stepsOf path)
    let root := Path.ofString (options.words.headD Request.defaultRoot)
    match disk.resolveFolder root with
    | .error _ => return { disk with tree := c.tree }
    | .ok root =>
      c ← c.below ⟨settings.suffix, settings.excludePatterns, settings.followSymlinks.isTrue⟩
        root.names
      return { disk with tree := c.tree }

def appendLog (place : Place) (records : List Record) : IO Unit := do
  let path := pathText place
  IO.FS.withFile path .append fun log => log.putStr ""
  let changed := (← (System.mkFilePath [path]).metadata).modified
  IO.FS.withFile path .append fun log =>
    for record in records do
      log.putStr (timeText changed.sec.toNat ++ " - " ++ record.line ++ "\n")

end SourceCensus.Command

open SourceCensus SourceCensus.Command in
def main (args : List String) : IO UInt32 := do
  let here := Files.stepsOf (← IO.currentDir).toString
  let home := Files.stepsOf ((← IO.getEnv "HOME").getD "/")
  let width := ((← IO.getEnv "COLUMNS").bind String.toNat?).getD 80
  let environment ← readEnvironment
  let options := (Options.readAll .empty none args).toOption.getD .empty
  let disk ← copyFor options environment (here.filter (· ≠ "")) (home.filter (· ≠ ""))
  let (session, ending) := (Session.start ⟨disk, environment, width, ""⟩).call args
  IO.print session.printed
  for record in session.noted do IO.eprintln record.line
  match ending with
  | .misused misuse => IO.eprintln misuse.message
  | .broken fault => IO.eprintln fault.message
  | .done _ => pure ()
  if let some place := session.journal.file then appendLog place session.noted
  return UInt32.ofNat ending.code
