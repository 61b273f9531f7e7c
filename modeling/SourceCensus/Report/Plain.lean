import SourceCensus.Color.Row
import SourceCensus.Decimal.Binary
import SourceCensus.Mode
import SourceCensus.Setting

/-! The outcome of a census, with what was looked at, the rankings asked for and the files left out, and
   its plain text: contrast rows first, then a title and a bracketed list per section. -/
namespace SourceCensus

inductive Key
  | text (value : String)
  | number (value : Int)
  deriving DecidableEq, Repr

def Key.shown : Key → String
  | .text value => value
  | .number value => toString value

abbrev Entry := Key × Int

structure Report where
  root : String
  modes : List String
  limit : Setting
  filesScanned : Int
  colors : List Entry
  numbers : List Entry
  classes : List Entry
  contrast : List Color.Row
  skipped : List (String × String)
  deriving Repr

namespace Report
open Decimal

def blank (root : String) (modes : List String) (limit : Setting) : Report :=
  ⟨root, modes, limit, 0, [], [], [], [], []⟩

def has (r : Report) (mode : Mode) : Bool := r.modes.contains mode.name

def entries (r : Report) : Mode → List Entry
  | .color => r.colors
  | .num => r.numbers
  | .classes => r.classes
  | .contrast => []

def sections : List Mode := [.color, .num, .classes]

def title : Mode → String
  | .color => "Top Colors"
  | .num => "Top Magic Numbers"
  | .classes => "Top Largest Classes"
  | .contrast => "Contrast"

def plainEntry (entry : Entry) : String := s!"{entry.1.shown}={entry.2}"

def plainEntries (entries : List Entry) : String :=
  "[" ++ ", ".intercalate (entries.map plainEntry) ++ "]"

def plainRow (row : Color.Row) : String :=
  s!"{row.color}: {row.count} times\n" ++
  s!"Black: {fixed 2 row.blackRatio} ({row.blackLabel})" ++
  s!" / White: {fixed 2 row.whiteRatio} ({row.whiteLabel})\n"

def plainSection (r : Report) (mode : Mode) : List String :=
  if r.has mode then [title mode ++ ":", plainEntries (r.entries mode), ""] else []

def plainLines (r : Report) : List String :=
  (if r.has .contrast then r.contrast.map plainRow else []) ++ sections.flatMap r.plainSection

def plainText (r : Report) : String :=
  "\n".intercalate r.plainLines ++ (if r.plainLines.isEmpty then "" else "\n")

end Report

end SourceCensus
