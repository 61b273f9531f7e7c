import SourceCensus.Fault
import SourceCensus.Mode

/-! What the words of a command line ask for. The first word is the root; the names of modes may stand
   anywhere; the first word that is a whole number of 32 bits is the limit. -/
namespace SourceCensus.Command
open Text

def leastLimit : Int := -2147483648

def greatestLimit : Int := 2147483647

def digitsOf (word : List Char) : List Char :=
  match word with
  | '+' :: digits | '-' :: digits => digits
  | digits => digits

def isWholeNumber (word : List Char) : Bool :=
  !(digitsOf word).isEmpty && (digitsOf word).all Char.isDigit

/-- The limit that a word gives, if it gives one. Too many digits are a fault. -/
def limitOf? (word : String) : Except Fault (Option Int) :=
  if !isWholeNumber word.toList then .ok none
  else
    match readInteger word with
    | .error error => .error (.notAnInteger word error)
    | .ok value => .ok (if leastLimit ≤ value ∧ value ≤ greatestLimit then some value else none)

def firstLimit? : List String → Except Fault (Option Int)
  | [] => .ok none
  | word :: rest => do
    match ← limitOf? word with
    | some value => return some value
    | none => firstLimit? rest

structure Request where
  root : String
  modes : List Mode
  limit : Option Int
  showsHelp : Bool
  showsIntro : Bool
  deriving DecidableEq, Repr

namespace Request

def defaultRoot : String := "./"

def helpWord : String := "help"

/-- Fewer than two words, or a limit in second place, ask for the default modes as well. -/
def wantsDefaults : List String → Except Fault Bool
  | _ :: second :: _ => (limitOf? second).map Option.isSome
  | _ => .ok true

def modesIn (words : List String) (defaults : Bool) : List Mode :=
  Mode.all.filter fun mode =>
    words.contains mode.name || (defaults && Mode.defaults.contains mode)

def ofWords (words : List String) : Except Fault Request := do
  let defaults ← wantsDefaults words
  let limit ← firstLimit? words
  return {
    root := words.headD defaultRoot
    modes := modesIn words defaults
    limit := limit
    showsHelp := words.contains helpWord
    showsIntro := words.length < 2 }

end Request

end SourceCensus.Command
