import SourceCensus.Text.Alphanumeric
import SourceCensus.Text.Character
import SourceCensus.Text.Lowercase

/-! Search patterns after reading: the tree a match walks, with every option already settled at the
   node it governs, and where a match may start. Code points are numbers, since a pattern may name one
   that no text can hold. -/
namespace SourceCensus.Pattern
open Text

inductive CaseRule
  | exact
  | ascii
  | unicode
  deriving DecidableEq, Repr

inductive Category
  | blank
  | digit
  | word
  deriving DecidableEq, Repr

def Category.holds (ascii : Bool) (c : Char) : Category → Bool
  | .blank => if ascii then isAsciiBlank c else isBlank c
  | .digit => if ascii then c.isDigit else isDecimalDigit c
  | .word => if ascii then isAsciiWord c else isWord c

inductive Member
  | one (code : Nat)
  | range (low high : Nat)
  | category (kind : Category) (negated : Bool)
  deriving DecidableEq, Repr

inductive Anchor
  | textStart
  | textEnd
  | lineStart
  | lineEnd
  /-- The end of the text, or the newline that ends it. -/
  | lastLineEnd
  | wordEdge (ascii negated : Bool)
  deriving DecidableEq, Repr

inductive Appetite
  | greedy
  | lazy
  | possessive
  deriving DecidableEq, Repr

inductive Node
  | empty
  | char (code : Nat) (rule : CaseRule)
  | other (code : Nat) (rule : CaseRule)
  | any (newline : Bool)
  | set (negated : Bool) (members : List Member) (rule : CaseRule) (ascii : Bool)
  | anchor (place : Anchor)
  | seq (first second : Node)
  | alt (first second : Node)
  | group (index : Nat) (body : Node)
  | atomic (body : Node)
  | loop (least : Nat) (most : Option Nat) (appetite : Appetite) (body : Node)
  | ahead (negated : Bool) (body : Node)
  /-- The body has the given width. -/
  | behind (negated : Bool) (width : Nat) (body : Node)
  | recall (index : Nat) (rule : CaseRule)
  | ifGroup (index : Nat) (yes no : Node)
  deriving DecidableEq, Repr

def seqOf (nodes : List Node) : Node := nodes.foldr .seq .empty

def literally (text : String) : Node := seqOf (text.toList.map fun c => .char c.toNat .exact)

/-- Whether a character of the text agrees with one that the pattern names. -/
def sameChar (rule : CaseRule) (code : Nat) (c : Char) : Bool :=
  match rule with
  | .exact => c.toNat == code
  | .ascii =>
    c.toNat == code || (c.toNat < 128 && code < 128 && c.toLower == (Char.ofNat code).toLower)
  | .unicode => (mates (lowerCode code)).contains (lowerCode c.toNat)

/-- Whether a character agrees with one that a group has taken from the text. Lower cases that only
   share an upper case are told apart here. -/
def sameTaken (rule : CaseRule) (taken c : Char) : Bool :=
  match rule with
  | .unicode => lowerCode taken.toNat == lowerCode c.toNat
  | rule => sameChar rule taken.toNat c

def isBeyond (code : Nat) : Bool := 0xFFFF < code

/-- Without regard to case, a set holds a character beyond the basic plane only by its lower case,
   and a range that reaches beyond it also holds what has its capital there. -/
def Member.holds (rule : CaseRule) (ascii : Bool) (c : Char) : Member → Bool
  | .one code =>
    if rule = .unicode && isBeyond code then lowerCode c.toNat == code else sameChar rule code c
  | .range low high =>
    let inside (code : Nat) := low ≤ code && code ≤ high
    match rule with
    | .exact => inside c.toNat
    | .ascii =>
      inside c.toNat || (c.isAlpha && (inside c.toLower.toNat || inside c.toUpper.toNat)) ||
        (isBeyond high && inside (capitalStart c.toNat))
    | .unicode =>
      (caseClass c).any inside || (isBeyond high && inside (capitalStart (lower c).toNat))
  | .category kind negated => kind.holds ascii c != negated

def inSet (negated : Bool) (members : List Member) (rule : CaseRule) (ascii : Bool) (c : Char) :
    Bool :=
  members.any (·.holds rule ascii c) != negated

def isCased (rule : CaseRule) (code : Nat) : Bool :=
  match rule with
  | .exact => false
  | .ascii => (Char.ofNat code).isAlpha
  | .unicode => lowerCode code != code || capitalStart code != code

def Member.isCased (rule : CaseRule) : Member → Bool
  | .one code => Pattern.isCased rule code
  | .range low high =>
    rule != .exact &&
      (isBeyond high || (List.range' low (high + 1 - low)).any (Pattern.isCased rule))
  | .category _ _ => false

def Member.isCategory : Member → Bool
  | .category _ _ => true
  | _ => false

def Node.startSet? (ascii : Bool) : Node → Option Node
  | .seq first _ => first.startSet? ascii
  | .group _ body => body.startSet? ascii
  | .set negated members rule inner =>
    if inner != ascii && members.any Member.isCategory && !members.any (Member.isCased rule) then
      some (.set negated members .exact ascii)
    else none
  | _ => none

/-- A pattern that begins with a set starts only at characters the set holds under the options of the
    whole pattern, whatever options the group around the set turns on. -/
def Node.started (ascii : Bool) (node : Node) : Node :=
  match node.startSet? ascii with
  | some start => .seq (.ahead false start) node
  | none => node

end SourceCensus.Pattern
