import SourceCensus.Pattern.Basic
import SourceCensus.Pattern.Failure

/-! The pieces of a written pattern, one character or a backslash with the next, and the state of
   reading them. A backslash at the end of the pattern is refused as soon as it comes next. -/
namespace SourceCensus.Pattern
open Text

structure Piece where
  position : Nat
  chars : List Char
  deriving DecidableEq, Repr

def pieces (position : Nat) : List Char → List Piece
  | '\\' :: c :: rest => ⟨position, ['\\', c]⟩ :: pieces (position + 2) rest
  | c :: rest => ⟨position, [c]⟩ :: pieces (position + 1) rest
  | [] => []

structure Flags where
  ignoreCase : Bool
  multiline : Bool
  dotAll : Bool
  verbose : Bool
  ascii : Bool
  unicode : Bool
  template : Bool
  deriving DecidableEq, Repr

def Flags.none : Flags := ⟨false, false, false, false, false, false, false⟩

def Flags.union (a b : Flags) : Flags :=
  ⟨a.ignoreCase || b.ignoreCase, a.multiline || b.multiline, a.dotAll || b.dotAll,
    a.verbose || b.verbose, a.ascii || b.ascii, a.unicode || b.unicode, a.template || b.template⟩

def Flags.meet (a b : Flags) : Flags :=
  ⟨a.ignoreCase && b.ignoreCase, a.multiline && b.multiline, a.dotAll && b.dotAll,
    a.verbose && b.verbose, a.ascii && b.ascii, a.unicode && b.unicode, a.template && b.template⟩

def Flags.minus (a b : Flags) : Flags :=
  ⟨a.ignoreCase && !b.ignoreCase, a.multiline && !b.multiline, a.dotAll && !b.dotAll,
    a.verbose && !b.verbose, a.ascii && !b.ascii, a.unicode && !b.unicode,
    a.template && !b.template⟩

/-- Options of an enclosing part, changed by what an inner part adds and removes. An inner choice of
   character set replaces the outer one. -/
def Flags.within (outer added removed : Flags) : Flags :=
  let base := if added.ascii || added.unicode then { outer with ascii := false, unicode := false }
    else outer
  (base.union added).minus removed

def Flags.rule (flags : Flags) : CaseRule :=
  if flags.ignoreCase then (if flags.ascii then .ascii else .unicode) else .exact

def flagOf? : List Char → Option Flags
  | ['i'] => some { Flags.none with ignoreCase := true }
  | ['m'] => some { Flags.none with multiline := true }
  | ['s'] => some { Flags.none with dotAll := true }
  | ['x'] => some { Flags.none with verbose := true }
  | ['a'] => some { Flags.none with ascii := true }
  | ['u'] => some { Flags.none with unicode := true }
  | ['t'] => some { Flags.none with template := true }
  | _ => none

abbrev Width := Nat × Nat

structure Reader where
  pieces : List Piece
  length : Nat
  flags : Flags
  names : List (List Char × Nat)
  /-- Widths of the groups, the last opened first; none while a group is open. -/
  widths : List (Option Width)
  /-- Number of groups when the outermost lookbehind began. -/
  behindFrom : Option Nat
  /-- Group numbers that conditions name, with the place of the first mention of each. -/
  conditions : List (Nat × Nat)
  /-- A fault that counts only if reading goes through. -/
  late : Option Cause

abbrev ReadM := StateT Reader (Except Failure)

namespace Reader

def ofPattern (text : List Char) : Reader :=
  ⟨Pattern.pieces 0 text, text.length, Flags.none, [], [none], none, [], none⟩

def position (r : Reader) : Nat :=
  match r.pieces with
  | [] => r.length
  | piece :: _ => piece.position

def groupCount (r : Reader) : Nat := r.widths.length

def width? (r : Reader) (group : Nat) : Option Width := (r.widths.reverse[group]?).join

end Reader

def refuse {α : Type} (cause : Cause) (back : Nat) : ReadM α := do
  throw (.malformed cause (some ((← get).position - back)))

def refuseAt {α : Type} (cause : Cause) (position : Nat) : ReadM α :=
  throw (.malformed cause (some position))

def peek : ReadM (Option (List Char)) := do return (← get).pieces.head?.map (·.chars)

def checkNext : ReadM Unit := do
  match ← peek with
  | some ['\\'] => refuseAt .danglingBackslash ((← get).length - 1)
  | _ => return ()

def pull : ReadM (Option (List Char)) := do
  let head ← peek
  modify fun r => { r with pieces := r.pieces.drop 1 }
  checkNext
  return head

def accept (c : Char) : ReadM Bool := do
  if (← peek) = some [c] then
    let _ ← pull
    return true
  else return false

def takeRun (test : Char → Bool) : Nat → ReadM (List Char)
  | 0 => return []
  | count + 1 => do
    match ← peek with
    | some [c] =>
      if test c then
        let _ ← pull
        return c :: (← takeRun test count)
      else return []
    | _ => return []

def takeUntil (close : Char) (what : String) : Nat → List Char → ReadM (List Char)
  | 0, _ => refuse (.missing what) 0
  | fuel + 1, name => do
    match ← pull with
    | none =>
      if name.isEmpty then refuse (.missing what) 0
      else refuse (.missing (String.ofList [close] ++ ", unterminated name")) name.length
    | some chars =>
      if chars = [close] then
        if name.isEmpty then refuse (.missing what) 1 else return name
      else takeUntil close what fuel (name ++ chars)

def takeName (close : Char) (what : String) : ReadM (List Char) := do
  takeUntil close what ((← get).pieces.length + 1) []

end SourceCensus.Pattern
