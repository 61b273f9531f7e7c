import SourceCensus.Decimal.Binary
import SourceCensus.Text.Breadth

/-! Text laid out in a limited number of columns: lines broken between words, and grids of cells in
   boxes. A grid that is too wide takes from its widest columns until they are as narrow as the next
   ones, and so on. -/
namespace SourceCensus

inductive Side
  | left
  | right
  deriving DecidableEq, Repr

/-- What becomes of a word that is wider than its line: it is continued on the next line, or cut short
   with a mark at its end. -/
inductive Overflow
  | folded
  | cut
  deriving DecidableEq, Repr

structure Column where
  header : List Char
  side : Side
  overflow : Overflow
  deriving DecidableEq, Repr

structure Grid where
  title : List Char
  columns : List Column
  rows : List (List (List Char))
  deriving Repr

namespace Grid
open Text

def linesBy (ends : Char → Bool) (text : List Char) : List (List Char) :=
  text.foldr (fun c done =>
    if ends c then [] :: done
    else match done with
      | line :: rest => (c :: line) :: rest
      | [] => [[c]]) [[]]

def lines (text : List Char) : List (List Char) := linesBy (· == '\n') text

/-- Where lines end when a text is measured: there separators of records and paragraphs count, too. -/
def endsMeasured (c : Char) : Bool :=
  [0x0a, 0x0b, 0x0c, 0x0d, 0x1c, 0x1d, 0x1e, 0x85, 0x2028, 0x2029].contains c.toNat

def tabWidth : Nat := 8

def fillTabs (column : Nat) : List Char → List Char
  | [] => []
  | c :: rest =>
    if c = '\t' then
      let count := tabWidth - column % tabWidth
      List.replicate count ' ' ++ fillTabs (column + count) rest
    else c :: fillTabs (column + charBreadth c) rest

/-- Words with the white space around them: before the first word, and after every word. -/
def wordAt? (text : List Char) : Option (List Char × List Char) :=
  let lead := text.takeWhile isBlank
  let body := (text.drop lead.length).takeWhile (!isBlank ·)
  let rest := text.drop (lead.length + body.length)
  if body.isEmpty then none
  else some (lead ++ body ++ rest.takeWhile isBlank, rest.dropWhile isBlank)

def wordsOf : Nat → List Char → List (List Char)
  | 0, _ => []
  | fuel + 1, text =>
    match wordAt? text with
    | none => []
    | some (word, rest) => word :: wordsOf fuel rest

def dropBlankEnd (text : List Char) : List Char := (text.reverse.dropWhile isBlank).reverse

def chop (width : Nat) : Nat → List Char → List (List Char)
  | _, [] => [[]]
  | used, c :: rest =>
    let fits := used + charBreadth c ≤ width
    match chop width (if fits then used + charBreadth c else charBreadth c) rest with
    | piece :: more => if fits then (c :: piece) :: more else [] :: (c :: piece) :: more
    | [] => []

def starts (place : Nat) : List (List Char) → List Nat
  | [] => []
  | piece :: rest => place :: starts (place + piece.length) rest

/-- Where breaks go. `column` is the column reached in the line, `place` that reached in the text. -/
def breaks (overflow : Overflow) (width : Nat) : Nat → Nat → List (List Char) → List Nat
  | _, _, [] => []
  | column, place, word :: rest =>
    let size := breadth (dropBlankEnd word)
    let next := place + word.length
    if column + size ≤ width then breaks overflow width (column + breadth word) next rest
    else if width < size then
      match overflow with
      | .folded =>
        let chopped := chop width 0 word
        (starts place chopped).filter (0 < ·) ++
          breaks overflow width (breadth (chopped.getLast?.getD [])) next rest
      | .cut => [place].filter (0 < ·) ++ breaks overflow width (breadth word) next rest
    else if 0 < column && 0 < place then
      place :: breaks overflow width (breadth word) next rest
    else breaks overflow width column next rest

def splitAtPlaces (text : List Char) (start : Nat) : List Nat → List (List Char)
  | [] => [text]
  | place :: rest =>
    text.take (place - start) :: splitAtPlaces (text.drop (place - start)) place rest

def trimEnd (width : Nat) (line : List Char) : List Char :=
  let blanks := (line.reverse.takeWhile isBlank).length
  line.take (line.length - min blanks (line.length - width))

/-- The pieces of a line, each of them still as wide as its last word. -/
def pieces (overflow : Overflow) (width : Nat) (line : List Char) : List (List Char) :=
  (splitAtPlaces line 0 (breaks overflow width 0 0 (wordsOf (line.length + 1) line))).map
    (trimEnd width)

/-- Looks for the beginning of a text that takes just these columns, by halving what it may end in. Half
    of a wide character becomes a space. -/
def search (width : Nat) (text : List Char) : Nat → Nat → Nat → List Char
  | 0, _, _ => text
  | fuel + 1, low, high =>
    let place := (low + high) / 2
    let start := text.take (place + 1)
    if breadth start = width + 1 ∧ start.getLast?.map charBreadth = some 2 then
      start.dropLast ++ [' ']
    else if breadth start = width then start
    else if width < breadth start then search width text fuel low place
    else search width text fuel place high

def crop (width : Nat) (text : List Char) : List Char :=
  if text.all (charBreadth · = 1) then text.take width
  else if width = 0 then []
  else search width text (text.length + 1) 0 text.length

def clip (overflow : Overflow) (width : Nat) (text : List Char) : List Char :=
  if breadth text ≤ width then text
  else match overflow with
    | .folded => crop width text
    | .cut => crop (width - 1) text ++ ['…']

def wrapLine (width : Nat) (line : List Char) : List (List Char) :=
  (pieces .folded width line).map (clip .folded width)

def wrap (width : Nat) (text : List Char) : List (List Char) :=
  (lines text).flatMap (wrapLine width)

def widest (texts : List (List Char)) : Nat :=
  ((texts.flatMap (linesBy endsMeasured)).map breadth).foldl max 0

def naturalWidths (g : Grid) : List Nat :=
  (List.range g.columns.length).map fun k =>
    widest ((g.columns[k]?.map (·.header)).toList ++ g.rows.filterMap (·[k]?))

def frameWidth (columns : Nat) : Nat := columns + 1

/-- Takes the excess from the widest columns, in equal shares but at most `limit` from each. A share is
   rounded, a half to the even neighbour; what is left over falls to the columns after it. -/
def takeShares (widest limit : Nat) : Nat → Nat → List Nat → List Nat
  | _, _, [] => []
  | excess, sharers, width :: rest =>
    if width = widest then
      let share := min limit (Decimal.roundDiv excess sharers)
      (width - share) :: takeShares widest limit (excess - share) (sharers - 1) rest
    else width :: takeShares widest limit excess sharers rest

def greatest (widths : List Nat) : Nat := widths.foldl max 0

def total (widths : List Nat) : Nat := widths.foldl Nat.add 0

/-- Narrows the widest columns by the excess, but not below the next widest. -/
def shrinkOnce (excess : Nat) (widths : List Nat) : List Nat :=
  let most := greatest widths
  let second := greatest (widths.filter (· != most))
  takeShares most (min excess (most - second)) excess (widths.count most) widths

def shrink (room : Nat) (widths : List Nat) : List Nat :=
  if total widths ≤ room then widths
  else if total (shrinkOnce (total widths - room) widths) < total widths then
    shrink room (shrinkOnce (total widths - room) widths)
  else widths
termination_by total widths

/-- The widths of the columns with the space around cells, on a screen that leaves `room` for them. -/
def widths (g : Grid) (screen : Nat) : List Nat :=
  let room := screen - frameWidth g.columns.length
  shrink room (g.naturalWidths.map fun width => if room = 0 then 1 else min (width + 2) room)

def place (side : Side) (overflow : Overflow) (width : Nat) (text : List Char) : List Char :=
  match side with
  | .left =>
    let shown := clip overflow width text
    shown ++ List.replicate (width - breadth shown) ' '
  | .right =>
    let shown := clip overflow width (dropBlankEnd text)
    List.replicate (width - breadth shown) ' ' ++ shown

def block (side : Side) (overflow : Overflow) (width : Nat) (text : List Char) :
    List (List Char) :=
  (lines text).flatMap fun line =>
    (pieces overflow width (fillTabs 0 line)).map (place side overflow width)

def ruled (left divider right : Char) (cells : List (List Char)) : List Char :=
  left :: ([divider].intercalate cells ++ [right])

def border (left fill divider right : Char) (widths : List Nat) : List Char :=
  ruled left divider right (widths.map fun width => List.replicate width fill)

/-- The lines of a cell with a space on each side; a column of spaces alone has none. -/
def cellLines (column : Column) (width : Nat) (cell : List Char) : List (List Char) :=
  if width ≤ 2 then []
  else (block column.side column.overflow (width - 2) cell).map fun line => ' ' :: (line ++ [' '])

def fillCell (isHeader : Bool) (height width : Nat) (cell : List (List Char)) : List (List Char) :=
  let empty := List.replicate (height - cell.length) (List.replicate width ' ')
  if isHeader then empty ++ cell else cell ++ empty

def rowLines (isHeader : Bool) (columns : List Column) (widths : List Nat)
    (cells : List (List Char)) : List (List Char) :=
  let edge := if isHeader then '┃' else '│'
  let wrapped := List.zipWith (fun (column, width) cell => cellLines column width cell)
    (columns.zip widths) cells
  let height := (wrapped.map List.length).foldl max 1
  let filled := List.zipWith (fillCell isHeader height) widths wrapped
  (List.range height).map fun k => ruled edge edge edge (filled.map fun cell => cell[k]?.getD [])

def draw (g : Grid) (screen : Nat) : List (List Char) :=
  let widths := g.widths screen
  let title := block .left .folded (total widths + frameWidth widths.length) g.title
  let header := rowLines true g.columns widths (g.columns.map (·.header))
  let rows := g.rows.flatMap (rowLines false g.columns widths)
  (title ++ [border '┏' '━' '┳' '┓' widths] ++ header ++ [border '┡' '━' '╇' '┩' widths] ++ rows ++
    [border '└' '─' '┴' '┘' widths]).map (clip .folded screen)

end Grid

end SourceCensus
