import SourceCensus.Color.Light
import SourceCensus.Log.Record
import SourceCensus.Text.Quoted

/-! Contrast rows: the colors of a ranking that are written as a full hexadecimal value, against
   black and white. They are worked out in any kind of number; a report holds them in doubles. -/
namespace SourceCensus.Color
open Text Log

/-- A color of a ranking beside black and white. -/
structure Comparison (K : Type) where
  color : String
  count : Int
  blackRatio : K
  blackLabel : String
  whiteRatio : K
  whiteLabel : String
  deriving Repr

abbrev Row := Comparison Float

def keyLength : Nat := 10

def hexTail (key : List Char) : List Char := key.drop (key.length - 6)

/-- The color of a key with a mark, two digits of alpha and six of color. -/
def ofKey? (key : String) : Option Bytes :=
  if key.length = keyLength then ofHex? (hexTail key.toList) else none

def skipNote? (key : String) : Option Record :=
  if key.length = keyLength && (ofKey? key).isNone then
    some ⟨root ++ ".contrast", .debug, "Skipping non-hex color key " ++ quoted key⟩
  else none

section

variable {K : Type} [Add K] [Mul K] [Div K] [OfScientific K] [LE K] [DecidableLE K]

def ratioBy (power : K → K) (a b : Bytes) : K := contrast power a.scale b.scale

variable [LT K] [DecidableLT K]

def comparison (power : K → K) (key : String) (count : Int) (color : Bytes) : Comparison K :=
  let onBlack := ratioBy power color black
  let onWhite := ratioBy power color white
  ⟨key, count, onBlack, label onBlack, onWhite, label onWhite⟩

def comparisons (power : K → K) (entries : List (String × Int)) : List (Comparison K) :=
  entries.filterMap fun (key, count) => (ofKey? key).map (comparison power key count)

end

def power (x : Float) : Float := x.pow 2.4

def ratio (a b : Bytes) : Float := ratioBy power a b

def rows (entries : List (String × Int)) : List Row := comparisons power entries

def rowNotes (entries : List (String × Int)) : List Record :=
  entries.filterMap fun entry => skipNote? entry.1

end SourceCensus.Color
