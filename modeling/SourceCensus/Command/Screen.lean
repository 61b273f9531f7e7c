import SourceCensus.Command.Markup
import SourceCensus.Report.Grid

/-! Text as it appears on a screen of a given width: marks taken out, tabs filled up, and long lines
   broken. -/
namespace SourceCensus.Command
open Text

def screenLines (width : Nat) (markup : List Char) : List (List Char) :=
  (Grid.lines (steady (visible markup))).flatMap fun line =>
    Grid.wrapLine width (Grid.fillTabs 0 line)

def screenText (width : Nat) (markup : List Char) : String :=
  String.ofList ((screenLines width markup).flatMap fun line => line ++ ['\n'])

def padRight (width : Nat) (text : List Char) : List Char :=
  text ++ List.replicate (width - breadth text) ' '

/-- Text in a box with a title in its upper edge, as wide as its longest line. -/
def panel (width : Nat) (title markup : List Char) : String :=
  let body := screenLines (width - 4) markup
  let inner := (body.map breadth).foldl max (breadth title + 2)
  let fill := inner - breadth title - 2
  let edge (count : Nat) := List.replicate count '─'
  let top := ['╭', '─'] ++ edge (fill / 2) ++ ' ' :: title ++ ' ' :: edge (fill - fill / 2) ++ ['─', '╮']
  let bottom := '╰' :: edge (inner + 2) ++ ['╯']
  let lines := body.map fun line => '│' :: ' ' :: padRight inner line ++ [' ', '│']
  String.ofList ((top :: lines ++ [bottom]).flatMap fun line => line ++ ['\n'])

def introLines : List String := [
  "This is a tool to rank colors, numbers and classes by size.",
  "",
  "[bold]USAGE:[/bold]",
  "   [cyan]$ resource-ranker <project directory> [OPTIONS][/cyan]",
  "",
  "[bold]OPTIONS:[/bold]",
  " color       How many colors you are using and how many times",
  " contrast    How many colors and how they compare to black and white",
  " num         How many magical numbers you are using and how many times",
  " class       How many lines of code each class has (approximate).",
  " help        Show this text.",
  " <int>       Max limit. If 0, shows all elements. Default is 10.",
  "",
  "[bold]EXAMPLE:[/bold]",
  "   [cyan]$ resource-ranker documents/project color 10[/cyan]",
  "   [cyan]$ resource-ranker ../ class 0[/cyan]",
  "   [cyan]$ resource-ranker ../../ contrast 5[/cyan]",
  "   [cyan]$ resource-ranker ./ num[/cyan]"]

def helpLines : List String := [
  "Usage: resource-ranker [OPTIONS] [ARGS]...",
  "",
  "Rank the colors, magic numbers and classes of a project by usage and size.",
  "",
  "Options:",
  "  -f, --format [rich|json|plain]  Output format",
  "  --ext TEXT                      Source file extension to scan (default: dart)",
  "  --strip-literals                Ignore braces inside strings and comments when sizing classes",
  "  -c, --config FILE               Configuration file (TOML)",
  "  -v, --verbose                   Log every scanned file",
  "  -q, --quiet                     Only log errors",
  "  --log-file FILE                 Also append log records to this file",
  "  --version                       Show version and exit",
  "  --help                          Show this message and exit."]

def introPanel (width : Nat) : String :=
  panel width "Resource Ranker".toList ("\n".intercalate introLines).toList

end SourceCensus.Command
