import SourceCensus.Text.Integer

/-! Why a pattern is refused, and the words for it. -/
namespace SourceCensus.Pattern
open Text

inductive Cause
  | danglingBackslash
  | incompleteEscape (escape : List Char)
  | badEscape (escape : List Char)
  | octalTooLarge (escape : List Char)
  | unknownCharacterName (name : List Char)
  | unterminatedSet
  | badRange (low high : List Char)
  | boundsReversed
  | nothingToRepeat
  | multipleRepeat
  | unexpectedEnd
  | missing (what : String)
  | unknownExtension (mark : List Char)
  | badGroupName (name : List Char)
  | unknownGroupName (name : List Char)
  | groupRedefined (name : List Char) (index earlier : Nat)
  | groupNumberZero
  | openGroup
  | groupOfSameLookbehind
  | noSuchGroup (index : Nat)
  | thirdBranch
  | unknownFlag
  | badFlags (why : String)
  | lateFlags
  | unbalanced
  | lookbehindNotFixed
  | lookbehindTooWide
  | loopInTemplate (operator : String)
  deriving DecidableEq, Repr

inductive Failure
  | malformed (cause : Cause) (position : Option Nat)
  | flagsClash
  | countTooLarge
  | countTooLong (digits : Nat)
  deriving DecidableEq, Repr

def Cause.message : Cause → String
  | .danglingBackslash => "bad escape (end of pattern)"
  | .incompleteEscape escape => "incomplete escape " ++ String.ofList escape
  | .badEscape escape => "bad escape " ++ String.ofList escape
  | .octalTooLarge escape =>
    "octal escape value " ++ String.ofList escape ++ " outside of range 0-0o377"
  | .unknownCharacterName name =>
    "undefined character name " ++ String.ofList (quotedChars name)
  | .unterminatedSet => "unterminated character set"
  | .badRange low high =>
    "bad character range " ++ String.ofList low ++ "-" ++ String.ofList high
  | .boundsReversed => "min repeat greater than max repeat"
  | .nothingToRepeat => "nothing to repeat"
  | .multipleRepeat => "multiple repeat"
  | .unexpectedEnd => "unexpected end of pattern"
  | .missing what => "missing " ++ what
  | .unknownExtension mark => "unknown extension ?" ++ String.ofList mark
  | .badGroupName name => "bad character in group name " ++ String.ofList (quotedChars name)
  | .unknownGroupName name => "unknown group name " ++ String.ofList (quotedChars name)
  | .groupRedefined name index earlier =>
    "redefinition of group name " ++ String.ofList (quotedChars name) ++
      s!" as group {index}; was group {earlier}"
  | .groupNumberZero => "bad group number"
  | .openGroup => "cannot refer to an open group"
  | .groupOfSameLookbehind => "cannot refer to group defined in the same lookbehind subpattern"
  | .noSuchGroup index => s!"invalid group reference {index}"
  | .thirdBranch => "conditional backref with more than two branches"
  | .unknownFlag => "unknown flag"
  | .badFlags why => "bad inline flags: " ++ why
  | .lateFlags => "global flags not at the start of the expression"
  | .unbalanced => "unbalanced parenthesis"
  | .lookbehindNotFixed => "look-behind requires fixed-width pattern"
  | .lookbehindTooWide => "looks too much behind"
  | .loopInTemplate operator => "internal: unsupported template operator " ++ operator

def lineAndColumn (text : List Char) (position : Nat) : Nat × Nat :=
  let before := text.take position
  (before.count '\n' + 1, (before.reverse.takeWhile (· != '\n')).length + 1)

def Failure.message (pattern : List Char) : Failure → String
  | .malformed cause none => cause.message
  | .malformed cause (some position) =>
    let (line, column) := lineAndColumn pattern position
    s!"{cause.message} at position {position}" ++
      (if pattern.contains '\n' then s!" (line {line}, column {column})" else "")
  | .flagsClash => "ASCII and UNICODE flags are incompatible"
  | .countTooLarge => "the repetition number is too large"
  | .countTooLong digits => (IntegerError.tooLong digits).message ""

end SourceCensus.Pattern
