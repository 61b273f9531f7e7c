import SourceCensus.Pattern.Search

/-! Color keys of a source text. A constructor call gives the text of its argument up to the first
   closing parenthesis, a typed assignment gives its right-hand side up to the semicolon. Word
   characters and white space are those of ASCII. -/
namespace SourceCensus.Color
open Text Pattern

def asciiSet (negated : Bool) (kind : Category) : Node := .set false [.category kind negated] .exact true

def oneOrMore (node : Node) : Node := .loop 1 none .greedy node

def anyNumber (node : Node) : Node := .loop 0 none .greedy node

def notWord : Node := asciiSet true .word

def wordRun : Node := oneOrMore (asciiSet false .word)

def blankRun : Node := anyNumber (asciiSet false .blank)

/-- A call may open the text, or follow a character that is no word character. -/
def callOpening : Node :=
  .seq (.group 1 (.alt notWord (.anchor .textStart))) (literally "Color(")

def call : Node :=
  .seq callOpening (.seq (.loop 1 none .lazy (.any true)) (literally ")"))

def assignmentOpening : Node :=
  seqOf [notWord, literally "Color ", wordRun, blankRun, literally "=", blankRun]

def assignment : Node :=
  seqOf [notWord, literally "Color ", wordRun, blankRun, literally "=", blankRun, wordRun,
    .loop 0 none .lazy (.any true), literally ";"]

def dropClosing (text : List Char) : List Char :=
  (text.reverse.dropWhile (· == ')')).reverse

def constructed (text : List Char) : List (List Char) :=
  (findAll call text).map fun found => dropClosing (erase callOpening found.text)

def assigned (text : List Char) : List (List Char) :=
  (findAll assignment text).map fun found => erase assignmentOpening found.text

def keys (text : List Char) : List String :=
  (constructed text ++ assigned text).map String.ofList

end SourceCensus.Color
