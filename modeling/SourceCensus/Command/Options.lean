import SourceCensus.Files.Locate

/-! The options of the command line. They may stand among the words, long ones with their value behind
   an equals sign or as the next argument, short ones joined. What looks like an option but is none
   is a word, and two hyphens alone end the options. -/
namespace SourceCensus.Command
open Files

inductive Format
  | table
  | json
  | plain
  deriving DecidableEq, Repr

namespace Format

def name : Format → String
  | .table => "rich"
  | .json => "json"
  | .plain => "plain"

def all : List Format := [.table, .json, .plain]

def ofName? (name : String) : Option Format := all.find? (·.name = name)

/-- Letters without regard to case: beyond ASCII, the long s is the only one that folds to a letter
   of these names. -/
def foldLetter (c : Char) : Char := if c = 'ſ' then 's' else c.toLower

def ofFoldedName? (name : String) : Option Format :=
  ofName? (String.ofList (name.toList.map foldLetter))

end Format

inductive Flag
  | stripLiterals
  | verbose
  | quiet
  | version
  | help
  deriving DecidableEq, Repr

inductive Parameter
  | format
  | extension
  | config
  | logFile
  deriving DecidableEq, Repr

inductive Switch
  | flag (flag : Flag)
  | parameter (parameter : Parameter)
  deriving DecidableEq, Repr

def Switch.long? : String → Option Switch
  | "--strip-literals" => some (.flag .stripLiterals)
  | "--verbose" => some (.flag .verbose)
  | "--quiet" => some (.flag .quiet)
  | "--version" => some (.flag .version)
  | "--help" => some (.flag .help)
  | "--format" => some (.parameter .format)
  | "--ext" => some (.parameter .extension)
  | "--config" => some (.parameter .config)
  | "--log-file" => some (.parameter .logFile)
  | _ => none

def Switch.short? : Char → Option Switch
  | 'v' => some (.flag .verbose)
  | 'q' => some (.flag .quiet)
  | 'f' => some (.parameter .format)
  | 'c' => some (.parameter .config)
  | _ => none

inductive Misuse
  | valueMissing (parameter : Parameter)
  | valueNotTaken (name : String)
  | unknownFormat (name : String)
  | noSuchFile (path : String)
  | folderGiven (path : String)
  deriving DecidableEq, Repr

def Parameter.name : Parameter → String
  | .format => "--format"
  | .extension => "--ext"
  | .config => "--config"
  | .logFile => "--log-file"

def Misuse.message : Misuse → String
  | .valueMissing parameter => s!"Option '{parameter.name}' requires an argument."
  | .valueNotTaken name => s!"Option '{name}' does not take a value."
  | .unknownFormat name => s!"'{name}' is not one of 'rich', 'json', 'plain'."
  | .noSuchFile path => s!"File '{path}' does not exist."
  | .folderGiven path => s!"File '{path}' is a directory."

/-- The arguments as they were read; of values given twice the last one stays. -/
structure Options where
  words : List String
  flags : List Flag
  values : List (Parameter × String)
  deriving DecidableEq, Repr

namespace Options

def empty : Options := ⟨[], [], []⟩

def has (o : Options) (flag : Flag) : Bool := o.flags.contains flag

def value? (o : Options) (parameter : Parameter) : Option String := o.values.lookup parameter

def addWord (o : Options) (word : String) : Options := { o with words := o.words ++ [word] }

def addFlag (o : Options) (flag : Flag) : Options := { o with flags := flag :: o.flags }

def addValue (o : Options) (parameter : Parameter) (value : String) : Options :=
  { o with values := (parameter, value) :: o.values }

abbrev Step := Options × Option Parameter

def gather (o : Options) (unknown : List Char) : Options :=
  if unknown.isEmpty then o else o.addWord (String.ofList ('-' :: unknown))

/-- The letters behind one hyphen. Letters that name no option are gathered into a word. -/
def readLetters (o : Options) (unknown : List Char) : List Char → Step
  | [] => (o.gather unknown, none)
  | c :: rest =>
    match Switch.short? c with
    | none => o.readLetters (unknown ++ [c]) rest
    | some (.flag flag) => (o.addFlag flag).readLetters unknown rest
    | some (.parameter parameter) =>
      if rest.isEmpty then (o.gather unknown, some parameter)
      else ((o.addValue parameter (String.ofList rest)).gather unknown, none)

def splitValue (arg : List Char) : String × Option String :=
  let name := arg.takeWhile (· != '=')
  (String.ofList name,
    if name.length < arg.length then some (String.ofList (arg.drop (name.length + 1))) else none)

def readOption (o : Options) (arg : String) : Except Misuse Step :=
  match Switch.long? (splitValue arg.toList).1, (splitValue arg.toList).2 with
  | some (.parameter parameter), some value => .ok (o.addValue parameter value, none)
  | some (.parameter parameter), none => .ok (o, some parameter)
  | some (.flag flag), none => .ok (o.addFlag flag, none)
  | some (.flag _), some _ => .error (.valueNotTaken (splitValue arg.toList).1)
  | none, _ =>
    if arg.startsWith "--" then .ok (o.addWord arg, none)
    else .ok (o.readLetters [] (arg.toList.drop 1))

def readAll (o : Options) : Option Parameter → List String → Except Misuse Options
  | none, [] => .ok o
  | some parameter, [] => .error (.valueMissing parameter)
  | some parameter, value :: rest => (o.addValue parameter value).readAll none rest
  | none, arg :: rest =>
    if arg = "--" then .ok { o with words := o.words ++ rest }
    else if arg.startsWith "-" && arg ≠ "-" then do
      let (o, waiting) ← o.readOption arg
      o.readAll waiting rest
    else (o.addWord arg).readAll none rest

def format (o : Options) : Except Misuse Format :=
  match o.value? .format with
  | none => .ok .table
  | some name =>
    match Format.ofFoldedName? name with
    | some format => .ok format
    | none => .error (.unknownFormat name)

/-- A settings file that is named has to be there; neither it nor a log file may be a folder. -/
def checkFiles (o : Options) (d : Disk) : Except Misuse Unit := do
  if let some path := o.value? .config then
    match d.find path with
    | .error _ => throw (.noSuchFile path)
    | .ok (.folder _) => throw (.folderGiven path)
    | .ok _ => pure ()
  if let some path := o.value? .logFile then
    if d.isFolder path then throw (.folderGiven path)

end Options

end SourceCensus.Command
