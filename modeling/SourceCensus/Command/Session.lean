import SourceCensus.Command.Options
import SourceCensus.Command.Request
import SourceCensus.Command.Screen
import SourceCensus.Log.Journal
import SourceCensus.Report.Document
import SourceCensus.Report.Plain
import SourceCensus.Report.Table
import SourceCensus.Run
import SourceCensus.Settings.Discovery

/-! One call of the command, from its arguments to what it prints, what it logs and how it ends. Names of
   characters, encodings and the page of help come from outside; at the end they are chosen. -/
namespace SourceCensus.Command
open Encoding Files Log Settings

structure Surroundings where
  disk : Disk
  environment : Environment
  width : Nat
  time : String

structure Session where
  around : Surroundings
  journal : Journal
  printed : String
  noted : List Record

inductive Ending
  | done (code : Nat)
  | misused (misuse : Misuse)
  /-- A fault that the command does not report itself. -/
  | broken (fault : Fault)

abbrev Step := Session × Ending

/-- What is printed for those who ask for help on the options, on a screen of a given width. -/
class HelpPage where
  text : Nat → String

namespace Session
variable [CharacterNames] [Codecs] [HelpPage]

def start (around : Surroundings) : Session := ⟨around, .silent, "", []⟩

def disk (s : Session) : Disk := s.around.disk

def write (s : Session) (text : String) : Session := { s with printed := s.printed ++ text }

def print (s : Session) (markup : String) : Session :=
  s.write (screenText s.around.width markup.toList)

def note (s : Session) (records : List Record) : Session :=
  { s with
    around := { s.around with disk := s.journal.write s.disk s.around.time records }
    journal := s.journal.heedAll records
    noted := s.noted ++ s.journal.kept records }

def record (level : Level) (message : String) : Record := ⟨Log.root ++ ".cli.rank", level, message⟩

def escaped (text : String) : String := String.ofList (escape text.toList)

/-- A path that is no folder is reported, but is no failure; other complaints are, and so is anything
   unexpected. -/
def fail (s : Session) : Fault → Step
  | .complaint c =>
    if c.family = .invalidPath then
      ((s.note [record .debug c.logged]).print
        ("[red]Error![/red] Directory does not exist: " ++ escaped (c.detail "path")), .done 0)
    else
      ((s.note [record .error c.logged]).print ("[red]Error:[/red] " ++ escaped c.text), .done 1)
  | fault =>
    ((s.note [record .error "Unexpected error during scan"]).print
      ("[red]Unexpected error:[/red] " ++ escaped fault.message), .done 1)

def directLayer (o : Options) : Layer :=
  ((o.value? .extension).map fun extension => (Field.extension.name, Setting.text extension)).toList ++
  (if o.has .stripLiterals then [(Field.stripLiterals.name, .bool true)] else []) ++
  (if o.has .verbose then [("verbose", .bool true)] else []) ++
  (if o.has .quiet then [("quiet", .bool true)] else []) ++
  ((o.value? .logFile).map fun path =>
    (Field.logFile.name, Setting.text (Path.ofString path).toString)).toList

def settings (s : Session) (o : Options) : Except Fault Settings :=
  loadOn s.disk ((o.value? .config).map Path.ofString) s.around.environment (directLayer o)

def reportText (format : Format) (width : Nat) (r : Report) : Except Fault String :=
  match format with
  | .json => r.documentText.map (· ++ "\n")
  | .plain => .ok r.plainText
  | .table => .ok (r.tableText width)

def limitOf (request : Request) : Setting :=
  match request.limit with
  | some limit => .int limit
  | none => .none

def scan (s : Session) (format : Format) (request : Request) (settings : Settings) : Step :=
  let run := Run.of (Path.ofString request.root) (some request.modes) (limitOf request) settings
  -- The log may be among the files, and is read with all that was written to it up to then.
  let outcome := run.outcomeSeeing s.disk fun notes => s.journal.write s.disk s.around.time notes
  let s := s.note outcome.notes
  match outcome.result.bind (reportText format s.around.width) with
  | .ok text => (s.write text, .done 0)
  | .error fault => s.fail fault

def announce (s : Session) (format : Format) (request : Request) (settings : Settings) : Session :=
  if (request.showsIntro || settings.verbosity = .verbose) && format ≠ .json then
    let root := (s.disk.absolute (Path.ofString request.root)).toString
    s.print ("Opening directory: " ++ escaped root ++ "\n")
  else s

def setUp (s : Session) (settings : Settings) : Session × Option Fault :=
  let done := s.journal.setUp s.disk (settings.verbosity = .verbose) (settings.verbosity = .quiet)
    settings.logFile
  ({ s with journal := done.journal, around := { s.around with disk := done.disk } }, done.fault)

def serve (s : Session) (o : Options) (format : Format) (request : Request) : Step :=
  match s.settings o with
  | .error fault => s.fail fault
  | .ok settings =>
    match s.setUp settings with
    | (s, some fault) => s.fail fault
    | (s, none) => (s.announce format request settings).scan format request settings

def answer (s : Session) (o : Options) (format : Format) : Step :=
  match Request.ofWords o.words with
  | .error fault => (s, .broken fault)
  | .ok request =>
    let intro := introPanel s.around.width
    if request.showsHelp then (s.write intro, .done 0)
    else if request.showsIntro && format ≠ .json then (s.write intro).serve o format request
    else s.serve o format request

def versionLine : String := "[bold cyan]Resource Ranker[/bold cyan] version [green]0.1.0[/green]"

/-- The wish for help comes before the values of options are looked at, the wish for the version after. -/
def call (s : Session) (args : List String) : Step :=
  match Options.readAll .empty none args with
  | .error misuse => (s, .misused misuse)
  | .ok o =>
    if o.has .help then (s.write (HelpPage.text s.around.width), .done 0)
    else
      match o.format, o.checkFiles s.disk with
      | .error misuse, _ | _, .error misuse => (s, .misused misuse)
      | .ok format, .ok () =>
        if o.has .version then (s.print versionLine, .done 0) else s.answer o format

end Session

namespace Ending

def code : Ending → Nat
  | .done code => code
  | .misused _ => 2
  | .broken _ => 1

end Ending

instance : CharacterNames := Text.asciiNames

instance : Codecs := textlessCodecs

instance : HelpPage where
  text _ := "\n".intercalate helpLines ++ "\n"

end SourceCensus.Command
