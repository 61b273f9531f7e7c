import SourceCensus.Literal.Strip
import SourceCensus.Log.Record
import SourceCensus.Pattern.Reader
import SourceCensus.Pattern.Search
import SourceCensus.Text.Quoted

/-! Blocks after declarations. A pattern finds each declaration; its block runs from the next opening
   brace to the brace that brings the depth back to zero, or to the end of the text. The size of a
   block is the number of semicolons in it. -/
namespace SourceCensus.Block
open Text Log

def depthChange (c : Char) : Int := if c = '\x7b' then 1 else if c = '\x7d' then -1 else 0

/-- How far off the first character is after which the depth is zero. -/
def closing? (depth : Int) : List Char → Option Nat
  | [] => none
  | c :: rest =>
    let inside := depth + depthChange c
    if inside = 0 then some 0 else (closing? inside rest).map (· + 1)

def blockEnd? (text : List Char) (start : Nat) : Option Nat :=
  match closing? 0 (text.drop start) with
  | some distance => some (start + distance)
  | none => if text.isEmpty then none else some (text.length - 1)

structure Span where
  name : String
  start : Nat
  stop : Nat
  size : Nat
  deriving DecidableEq, Repr

def sizeBetween (text : List Char) (start stop : Nat) : Nat :=
  ((text.drop start).take (stop - start)).count ';'

inductive Finding
  | span (span : Span)
  | noBrace (declaration : List Char)
  | noName (place : Nat)
  deriving DecidableEq, Repr

def bracePlace? (c : Cursor) : Option Nat :=
  let distance := (c.after.takeWhile (· != '\x7b')).length
  if distance < c.after.length then some (c.position + distance) else none

def findingOf (text : List Char) (found : Pattern.Match) : Finding :=
  match bracePlace? found.stop, secondWord? found.text with
  | none, _ => .noBrace found.text
  | some _, none => .noName found.start.position
  | some start, some name =>
    let stop := (blockEnd? text start).getD start
    .span ⟨String.ofList name, start, stop, sizeBetween text start stop⟩

structure Scanner where
  pattern : Pattern
  stripped : Bool
  deriving DecidableEq, Repr

namespace Scanner

def prepare (s : Scanner) (text : List Char) : List Char :=
  if s.stripped then Literal.strip text else text

def findings (s : Scanner) (text : List Char) : List Finding :=
  let prepared := s.prepare text
  (Pattern.findAll s.pattern.node prepared).map (findingOf prepared)

def spans (s : Scanner) (text : List Char) : List Span :=
  (s.findings text).filterMap fun
    | .span span => some span
    | _ => none

def sizes (s : Scanner) (text : List Char) : List (String × Int) :=
  (s.spans text).map fun span => (span.name, (span.size : Int))

end Scanner

def Finding.note? : Finding → Option Record
  | .span _ => none
  | .noBrace declaration =>
    some ⟨root ++ ".scanning.blocks", .debug,
      "No opening brace after " ++ String.ofList (quotedChars declaration)⟩
  | .noName place =>
    some ⟨root ++ ".scanning.blocks", .debug, s!"Declaration without a name at offset {place}"⟩

def Scanner.notes (s : Scanner) (text : List Char) : List Record :=
  (s.findings text).filterMap Finding.note?

/-- The word for a class, white space, and anything on the line up to the next opening brace. -/
def classPattern : String := "class\\s+.*?(?=\\\x7b)"

end SourceCensus.Block
