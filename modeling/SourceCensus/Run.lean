import SourceCensus.Census
import SourceCensus.Files.Read
import SourceCensus.Files.Walk
import SourceCensus.Report.Plain
import SourceCensus.Settings.Basic
import SourceCensus.Tally

/-! A run from the root to the report: every wanted file is read and scanned, files that cannot be read
   are set down as skipped, and at the end each ranking asked for is made once. -/
namespace SourceCensus
open Encoding Files Log

structure Run where
  root : Path
  modes : List Mode
  limit : Setting
  settings : Settings

structure Outcome where
  notes : List Record
  result : Except Fault Report

namespace Run

/-- Without modes the default ones are meant, without a limit that of the settings. -/
def of (root : Path) (modes : Option (List Mode)) (limit : Setting) (settings : Settings) : Run where
  root := root
  modes := modes.getD Mode.defaults
  limit := match limit with
    | .none => settings.limit
    | limit => limit
  settings := settings

def note (level : Level) (message : String) : Record := ⟨Log.root ++ ".core", level, message⟩

def scanner (r : Run) : Block.Scanner := ⟨r.settings.classPattern, r.settings.stripLiterals.isTrue⟩

def wanted (r : Run) : Wanted :=
  ⟨r.settings.suffix, r.settings.excludePatterns, r.settings.followSymlinks.isTrue⟩

structure Progress where
  census : Census
  scanned : Nat
  skipped : List (String × String)
  notes : List Record

def Progress.start : Progress := ⟨.empty, 0, [], []⟩

def Progress.skip (p : Progress) (path : Path) (reason : String) : Progress :=
  { p with
    skipped := p.skipped ++ [(path.toString, reason)]
    notes := p.notes ++ [note .warning s!"Skipping {path.toString}: {reason}"] }

def Progress.take (p : Progress) (r : Run) (path : Path) (text : List Char) : Progress where
  census := p.census.scan r.scanner r.modes text
  scanned := p.scanned + 1
  skipped := p.skipped
  notes := p.notes ++ note .debug ("Scanning " ++ path.toString) ::
    Census.notes r.scanner r.modes text

/-- A fault of a single file is set down and the run goes on; any other fault ends it. -/
def visit (r : Run) (p : Progress) (path : Path) : Except Fault (List Char) → Except Fault Progress
  | .ok text => .ok (p.take r path text)
  | .error (.complaint c) =>
    if c.family = .fileAccess then .ok (p.skip path c.reason) else .error (.complaint c)
  | .error fault => .error fault

/-- Visits file after file up to the first fault; `read` gives the text of a file, which may depend on
    what was noted before, as the log may be one of the files. -/
def visitAll (r : Run) (read : List Record → Path → Except Fault (List Char)) (p : Progress) :
    List (Except Fault Path) → Progress × Option Fault
  | [] => (p, none)
  | .error fault :: _ => (p, some fault)
  | .ok path :: rest =>
    match r.visit p path (read p.notes path) with
    | .ok next => r.visitAll read next rest
    | .error fault => (p, some fault)

/-- Broken text is mended, and the greatest size worked out anew for every file. -/
def readText [Codecs] (r : Run) (d : Disk) (path : Path) : Except Fault (List Char) := do
  let most ← r.settings.maxBytes
  d.read ⟨r.settings.encoding, .replace, some most⟩ path

def limitNumber : Setting → Except Fault Int
  | .int value => .ok value
  | .bool value => .ok (if value then 1 else 0)
  | .float value => if 0.0 < value then .error .notASliceIndex else .ok 0
  | value => .error (.notComparable ">" value.typeName "int")

def ranked {α : Type} [DecidableEq α] (r : Run) (tally : Tally α) : Except Fault (List (α × Int)) := do
  return rank tally.entries (← limitNumber r.limit)

def rankedFor {α : Type} [DecidableEq α] (r : Run) (mode : Mode) (tally : Tally α) :
    Except Fault (List (α × Int)) :=
  if r.modes.contains mode then r.ranked tally else .ok []

def textEntries (entries : List (String × Int)) : List Entry :=
  entries.map fun (key, count) => (.text key, count)

def numberEntries (entries : List (Int × Int)) : List Entry :=
  entries.map fun (key, count) => (.number key, count)

def modeNames (modes : List Mode) : List String := (Mode.all.filter modes.contains).map Mode.name

def summary (r : Run) (root : Path) (p : Progress) : String :=
  s!"Scanned {p.scanned} {r.settings.suffix} files under {root.toString} " ++
  s!"({p.census.colors.size} colors, {p.census.numbers.size} numbers, " ++
  s!"{p.census.classes.size} classes)"

def report (r : Run) (root : Path) (p : Progress) : Except Fault (List Record × Report) := do
  let colors ← r.rankedFor .color p.census.colors
  let numbers ← r.rankedFor .num p.census.numbers
  let classes ← r.rankedFor .classes p.census.classes
  let compared ← r.rankedFor .contrast p.census.colors
  return (Color.rowNotes compared ++ [note .info (r.summary root p)], {
    root := root.toString
    modes := modeNames r.modes
    limit := r.limit
    filesScanned := p.scanned
    colors := textEntries colors
    numbers := numberEntries numbers
    classes := textEntries classes
    contrast := Color.rows compared
    skipped := p.skipped })

def conclude (r : Run) (root : Path) : Progress × Option Fault → Outcome
  | (p, some fault) => ⟨p.notes, .error fault⟩
  | (p, none) =>
    match r.report root p with
    | .ok (notes, report) => ⟨p.notes ++ notes, .ok report⟩
    | .error fault => ⟨p.notes, .error fault⟩

/-- The outcome on a disk that is found as `see` has it once something was noted. -/
def outcomeSeeing [Codecs] (r : Run) (d : Disk) (see : List Record → Disk) : Outcome :=
  match d.resolveFolder r.root with
  | .error fault => ⟨[], .error fault⟩
  | .ok root =>
    r.conclude root
      (r.visitAll (fun notes => r.readText (see notes)) .start (d.walk r.wanted root))

def outcome [Codecs] (r : Run) (d : Disk) : Outcome := r.outcomeSeeing d fun _ => d

end Run

def Mode.ofNames (names : List String) : Except Fault (List Mode) :=
  names.mapM fun name =>
    match Mode.ofName? name with
    | some mode => .ok mode
    | none => .error (.unknownMode name)

end SourceCensus
