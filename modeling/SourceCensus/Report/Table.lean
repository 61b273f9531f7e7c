import SourceCensus.Command.Markup
import SourceCensus.Decimal.Binary
import SourceCensus.Report.Grid
import SourceCensus.Report.Plain

/-! A report as tables for a screen of a given width: contrast first, then one table per section.
   Titles, headers and numbers are texts that may have marks for style. Keys are not: they come from
   the sources, and are shown character for character, but for those that move the cursor. -/
namespace SourceCensus.Report
open Grid Decimal Command

inductive Content
  | literal (text : String)
  | marked (text : String)
  deriving DecidableEq, Repr

def Content.shown : Content → List Char
  | .literal text => steady text.toList
  | .marked text => visible text.toList

/-- The label with the marks for its color; what is no label is shown as a hyphen. -/
def markedLabel (label : String) : String :=
  if label = "fail" then "[red]fail[/red]"
  else if label = "AA+" then "[yellow]AA+[/yellow]"
  else if label = "AA" || label = "AAA" then "[green]" ++ label ++ "[/green]"
  else "[dim]-[/dim]"

def keyHeader : Mode → String
  | .color | .contrast => "Color"
  | .num => "Number"
  | .classes => "Class"

def countHeader : Mode → String
  | .classes => "Statements"
  | _ => "Uses"

def headed (header : String) (side : Side) (overflow : Overflow) : Column :=
  ⟨visible header.toList, side, overflow⟩

def entryCells (index : Nat) (entry : Entry) : List Content :=
  [.marked (toString (index + 1)), .literal entry.1.shown, .marked (toString entry.2)]

def rankingGrid (mode : Mode) (entries : List Entry) : Grid where
  title := visible (title mode).toList
  columns := [
    headed "#" .right .cut,
    headed (keyHeader mode) .left .folded,
    headed (countHeader mode) .right .cut]
  rows := entries.mapIdx fun index entry => (entryCells index entry).map (·.shown)

/-- The cells of a contrast row. Before the color stands a patch of it, two spaces wide. -/
def rowCells (row : Color.Row) : List Content :=
  [.literal ("   " ++ row.color), .marked (toString row.count),
    .marked (fixed 2 row.blackRatio), .marked (markedLabel row.blackLabel),
    .marked (fixed 2 row.whiteRatio), .marked (markedLabel row.whiteLabel)]

def contrastGrid (rows : List Color.Row) : Grid where
  title := visible (title .contrast).toList
  columns := [
    headed (keyHeader .contrast) .left .cut,
    headed (countHeader .contrast) .right .cut,
    headed "[black on white]▒[/black on white] Black" .right .cut,
    headed "" .left .cut,
    headed "[white on black]▒[/white on black] White" .right .cut,
    headed "" .left .cut]
  rows := rows.map fun row => (rowCells row).map (·.shown)

def emptyNote (title note : String) : List Char :=
  visible s!"[bold]{title}[/bold]: [dim]{note}[/dim]".toList

def contrastLines (r : Report) (screen : Nat) : List (List Char) :=
  if r.has .contrast then
    (if r.contrast.isEmpty then wrap screen (emptyNote (title .contrast) "no hex colors found")
      else (contrastGrid r.contrast).draw screen) ++ [[]]
  else []

def sectionLines (r : Report) (screen : Nat) (mode : Mode) : List (List Char) :=
  if r.has mode then
    (if (r.entries mode).isEmpty then wrap screen (emptyNote (title mode) "none found")
      else (rankingGrid mode (r.entries mode)).draw screen) ++ [[]]
  else []

def skippedLines (r : Report) (screen : Nat) : List (List Char) :=
  if r.skipped.isEmpty then []
  else wrap screen (visible
    (s!"[yellow]{r.skipped.length} file(s) could not be read[/yellow]" ++
      " (run with --verbose for details)").toList)

def tableLines (r : Report) (screen : Nat) : List (List Char) :=
  r.contrastLines screen ++ sections.flatMap (r.sectionLines screen) ++ r.skippedLines screen

def tableText (r : Report) (screen : Nat) : String :=
  String.ofList ((r.tableLines screen).flatMap fun line => line ++ ['\n'])

end SourceCensus.Report
