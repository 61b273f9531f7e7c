import SourceCensus.Setting
import SourceCensus.Text.Integer

/-! Why a configuration text is refused. A failure carries the text that was left when it arose, from
   which its place follows. -/
namespace SourceCensus.Toml
open Text

abbrev Name := List (List Char)

inductive Cause
  | invalidStatement
  | trailing
  | declaredTwice (name : Name)
  | immutable (name : Name)
  | redefined (name : Name)
  | overwritten
  | duplicateInline (name : List Char)
  | expected (what : String)
  | missingEquals
  | badKeyStart
  | unclosedArray
  | unclosedTable
  | strayBackslash
  | badHex
  | notScalar
  | unterminated
  | illegal (c : Char)
  | invalid (c : Char)
  | invalidDate
  | invalidValue
  deriving DecidableEq, Repr

inductive Failure
  | at (cause : Cause) (left : List Char)
  | longInteger (digits : Nat)
  deriving DecidableEq, Repr

/-- The parts of a name, quoted, in parentheses; a single part has a comma after it. -/
def shownName (name : Name) : String :=
  match name.map fun part => String.ofList (quotedChars part) with
  | [part] => "(" ++ part ++ ",)"
  | parts => "(" ++ ", ".intercalate parts ++ ")"

def quotedText (text : List Char) : String := String.ofList (quotedChars text)

def Cause.message : Cause → String
  | .invalidStatement => "Invalid statement"
  | .trailing => "Expected newline or end of document after a statement"
  | .declaredTwice name => "Cannot declare " ++ shownName name ++ " twice"
  | .immutable name => "Cannot mutate immutable namespace " ++ shownName name
  | .redefined name => "Cannot redefine namespace " ++ shownName name
  | .overwritten => "Cannot overwrite a value"
  | .duplicateInline name => "Duplicate inline table key " ++ quotedText name
  | .expected what => "Expected " ++ what
  | .missingEquals => "Expected '=' after a key in a key/value pair"
  | .badKeyStart => "Invalid initial character for a key part"
  | .unclosedArray => "Unclosed array"
  | .unclosedTable => "Unclosed inline table"
  | .strayBackslash => "Unescaped '\\' in a string"
  | .badHex => "Invalid hex value"
  | .notScalar => "Escaped character is not a Unicode scalar value"
  | .unterminated => "Unterminated string"
  | .illegal c => "Illegal character " ++ quotedText [c]
  | .invalid c => "Found invalid character " ++ quotedText [c]
  | .invalidDate => "Invalid date or datetime"
  | .invalidValue => "Invalid value"

def placeOf (text left : List Char) : String :=
  if left.isEmpty then "end of document"
  else
    let before := text.take (text.length - left.length)
    let line := before.count '\n' + 1
    let column := (before.reverse.takeWhile (· != '\n')).length + 1
    s!"line {line}, column {column}"

def Failure.message (text : List Char) : Failure → String
  | .at cause left => cause.message ++ " (at " ++ placeOf text left ++ ")"
  | .longInteger digits => (IntegerError.tooLong digits).message ""

def fail {α : Type} (cause : Cause) (left : List Char) : Except Failure α :=
  .error (.at cause left)

end SourceCensus.Toml
