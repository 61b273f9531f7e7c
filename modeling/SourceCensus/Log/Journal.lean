import SourceCensus.Files.Locate
import SourceCensus.Log.Record

/-! Where log records go. A journal starts silent; setting it up closes the outlets it has, opens the
   screen and, if one is named, a file to which records of the chosen level and above are appended.
   A source hands its records to the source that it hangs below, and so on; the journal hears those
   that come to the root. -/
namespace SourceCensus.Log
open Files

inductive Outlet
  | screen
  | file (place : Place)
  deriving DecidableEq, Repr

namespace Outlet

def place? : Outlet → Option Place
  | .screen => none
  | .file place => some place

def receive (d : Disk) (line : String) : Outlet → Disk
  | .screen => d
  | .file place => d.append place line

end Outlet

structure Journal where
  opened : List Outlet
  threshold : Nat
  /-- Whether records are also passed on to listeners outside. -/
  passesOn : Bool
  sources : List String
  /-- What a source found out of a level, and keeps to until a level is set anew. -/
  verdicts : List ((String × Level) × Bool)
  deriving DecidableEq, Repr

namespace Journal

def silent : Journal := ⟨[], 0, true, [], []⟩

def outlets (j : Journal) : Nat := j.opened.length

def files (j : Journal) : List Place := j.opened.filterMap Outlet.place?

def file (j : Journal) : Option Place := j.files.head?

def closeAll (j : Journal) : Journal := { j with opened := [] }

def add (j : Journal) (outlet : Outlet) : Journal := { j with opened := j.opened ++ [outlet] }

/-- From here on the journal alone decides what is shown, and of which levels. -/
def takeOver (j : Journal) (level : Level) : Journal :=
  { j with threshold := level.number, passesOn := false, verdicts := [] }

structure SetUp where
  disk : Disk
  journal : Journal
  fault : Option Fault

def filePlace (d : Disk) (file : Setting) : Except Fault (Option Place) :=
  if !file.isTrue then .ok none
  else
    match file with
    | .text path =>
      let text := d.settledText path
      if text.toList.contains '\x00' then .error .nullByte
      else if longestPath ≤ text.utf8ByteSize then .error (.refused .nameTooLong text)
      else
        match d.writablePlace mostLinks [] (stepsOf text) with
        | .ok place => .ok (some place)
        | .error refusal => .error (.refused refusal text)
    | value => .error (.notAPath value.bareTypeName)

/-- Opens the outlets anew. If the file cannot be opened, the screen is open already, but the level
   stays as it was. -/
def setUp (j : Journal) (d : Disk) (verbose quiet : Bool) (file : Setting) : SetUp :=
  let j := j.closeAll.add .screen
  let level := Level.chosen verbose quiet
  match filePlace d file with
  | .error fault => ⟨d, j, some fault⟩
  | .ok none => ⟨d, j.takeOver level, none⟩
  | .ok (some place) => ⟨d.touch place, (j.add (.file place)).takeOver level, none⟩

def hears (j : Journal) (source : String) : Bool :=
  source = root || hangsBelow j.sources source.toList.reverse

/-- The level in force. A journal without one of its own has that of the listeners outside. -/
def inForce (j : Journal) : Nat :=
  if j.threshold = 0 then Level.warning.number else j.threshold

def inForceFor (j : Journal) (source : String) : Nat :=
  if j.hears source then j.inForce else Level.warning.number

def allows (j : Journal) (r : Record) : Bool :=
  (j.verdicts.lookup (r.source, r.level)).getD (j.inForceFor r.source ≤ r.level.number)

def keeps (j : Journal) (r : Record) : Bool := j.hears r.source && j.allows r

def call (j : Journal) (source : String) : Journal := { j with sources := source :: j.sources }

/-- What a record leaves behind, kept or not. -/
def heed (j : Journal) (r : Record) : Journal :=
  { j with
    sources := r.source :: j.sources
    verdicts := ((r.source, r.level), j.allows r) :: j.verdicts }

def heedAll (j : Journal) (records : List Record) : Journal := records.foldl heed j

def lineOf (time : String) (r : Record) : String := time ++ " - " ++ r.line ++ "\n"

def emit (j : Journal) (d : Disk) (line : String) : Disk :=
  j.opened.foldl (fun d outlet => outlet.receive d line) d

def kept : Journal → List Record → List Record
  | _, [] => []
  | j, r :: rest => if j.keeps r then r :: (j.heed r).kept rest else (j.heed r).kept rest

def write (j : Journal) (d : Disk) (time : String) (records : List Record) : Disk :=
  (j.kept records).foldl (fun d record => j.emit d (lineOf time record)) d

end Journal

end SourceCensus.Log
