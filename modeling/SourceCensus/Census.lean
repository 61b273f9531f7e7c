import SourceCensus.Block
import SourceCensus.Color.Key
import SourceCensus.MagicNumber
import SourceCensus.Mode
import SourceCensus.Tally

/-! What has been found so far: how often each color and each magic number occurred, and the size
   last measured for each class. -/
namespace SourceCensus
open Log

structure Census where
  colors : Tally String
  numbers : Tally Int
  classes : Tally String

namespace Census

def empty : Census := ⟨.empty, .empty, .empty⟩

def addColors (c : Census) (keys : List String) : Census :=
  { c with colors := c.colors.countAll keys }

def addNumbers (c : Census) (values : List Int) : Census :=
  { c with numbers := c.numbers.countAll values }

def recordClasses (c : Census) (sizes : List (String × Int)) : Census :=
  { c with classes := c.classes.putAll sizes }

def wantsColors (modes : List Mode) : Bool := modes.contains .color || modes.contains .contrast

/-- Adds what the modes ask for in one text. -/
def scan (c : Census) (scanner : Block.Scanner) (modes : List Mode) (text : List Char) : Census :=
  let c := if wantsColors modes then c.addColors (Color.keys text) else c
  let c := if modes.contains .num then c.addNumbers (MagicNumber.all text) else c
  if modes.contains .classes then c.recordClasses (scanner.sizes text) else c

def notes (scanner : Block.Scanner) (modes : List Mode) (text : List Char) : List Record :=
  if modes.contains .classes then scanner.notes text else []

end Census

end SourceCensus
