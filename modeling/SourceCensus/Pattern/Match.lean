import SourceCensus.Pattern.Basic
import SourceCensus.Text.Cursor

/-! Backtracking matches. A node is run at a cursor with a continuation that says whether the rest of
   the pattern accepts; the first accepted way wins, alternatives from left to right. A loop may take
   one empty turn and then no more, so the text that is left bounds its turns. -/
namespace SourceCensus.Pattern
open Text

structure Progress where
  cursor : Cursor
  groups : List (Nat × List Char)
  deriving DecidableEq, Repr

namespace Progress

def left (p : Progress) : Nat := p.cursor.left

def group? (p : Progress) (index : Nat) : Option (List Char) := p.groups.lookup index

def take? (p : Progress) (test : Char → Bool) : Option Progress :=
  match p.cursor.after with
  | c :: _ => if test c then some { p with cursor := p.cursor.next } else none
  | [] => none

def remember (p : Progress) (index : Nat) (since : Cursor) : Progress :=
  { p with groups := (index, since.after.take (since.left - p.left)) :: p.groups }

def takeText? (rule : CaseRule) : List Char → Progress → Option Progress
  | [], p => some p
  | c :: rest, p => (p.take? (sameTaken rule c)).bind (takeText? rule rest)

end Progress

abbrev Accepts := Progress → Option Progress
abbrev Runner := Progress → Accepts → Option Progress

/-- An empty text has no word edge, and no place that is not one. -/
def Anchor.holds (c : Cursor) : Anchor → Bool
  | .textStart => c.before.isEmpty
  | .textEnd => c.after.isEmpty
  | .lineStart => c.before.head?.all (· == '\n')
  | .lineEnd => c.after.head?.all (· == '\n')
  | .lastLineEnd => c.after.isEmpty || c.after == ['\n']
  | .wordEdge ascii negated =>
    let word (x : Char) := if ascii then isAsciiWord x else isWord x
    !(c.before.isEmpty && c.after.isEmpty) && ((c.before.head?.any word != c.after.head?.any word) != negated)

def times (body : Runner) : Nat → Runner
  | 0, p, accept => accept p
  | n + 1, p, accept => body p fun q => times body n q accept

/-- Up to `turns` further turns, `last` being what was left when the turn before began. -/
def turns (body : Runner) (greedy : Bool) : Nat → Option Nat → Runner
  | 0, _, p, accept => accept p
  | n + 1, last, p, accept =>
    if last = some p.left then accept p
    else if greedy then
      match body p fun q => turns body greedy n (some p.left) q accept with
      | some done => some done
      | none => accept p
    else
      match accept p with
      | some done => some done
      | none => body p fun q => turns body greedy n (some p.left) q accept

/-- As many turns as there are, each settled for good before the next. -/
def settledTurns (body : Runner) : Nat → Option Nat → Progress → Progress
  | 0, _, p => p
  | n + 1, last, p =>
    if last = some p.left then p
    else match body p some with
      | some q => settledTurns body n (some p.left) q
      | none => p

def settledTimes (body : Runner) : Nat → Progress → Option Progress
  | 0, p => some p
  | n + 1, p => (body p some).bind (settledTimes body n)

def loopRun (body : Runner) (least : Nat) (most : Option Nat) (appetite : Appetite) : Runner :=
  fun p accept =>
    let bound (q : Progress) := match most with
      | none => q.left + 1
      | some most => min (most - least) (q.left + 1)
    match appetite with
    | .possessive =>
      (settledTimes body least p).bind fun q => accept (settledTurns body (bound q) none q)
    | _ => times body least p fun q => turns body (appetite = .greedy) (bound q) none q accept

def Node.run : Node → Runner
  | .empty, p, accept => accept p
  | .char code rule, p, accept => (p.take? (sameChar rule code)).bind accept
  | .other code rule, p, accept => (p.take? (!sameChar rule code ·)).bind accept
  | .any newline, p, accept => (p.take? fun c => newline || c != '\n').bind accept
  | .set negated members rule ascii, p, accept =>
    (p.take? (inSet negated members rule ascii)).bind accept
  | .anchor place, p, accept => if place.holds p.cursor then accept p else none
  | .seq first second, p, accept => first.run p fun q => second.run q accept
  | .alt first second, p, accept =>
    match first.run p accept with
    | some q => some q
    | none => second.run p accept
  | .group index body, p, accept => body.run p fun q => accept (q.remember index p.cursor)
  | .atomic body, p, accept => (body.run p some).bind accept
  | .loop least most appetite body, p, accept =>
    loopRun (fun q next => body.run q next) least most appetite p accept
  | .ahead negated body, p, accept =>
    match body.run p some with
    | some q => if negated then none else accept { q with cursor := p.cursor }
    | none => if negated then accept p else none
  | .behind negated width body, p, accept =>
    let found := if (p.cursor.before.take width).length < width then none
      else body.run { p with cursor := p.cursor.back width } some
    match found with
    | some q => if negated then none else accept { q with cursor := p.cursor }
    | none => if negated then accept p else none
  | .recall index rule, p, accept =>
    match p.group? index with
    | some text => (Progress.takeText? rule text p).bind accept
    | none => none
  | .ifGroup index yes no, p, accept =>
    if (p.group? index).isSome then yes.run p accept else no.run p accept

end SourceCensus.Pattern
