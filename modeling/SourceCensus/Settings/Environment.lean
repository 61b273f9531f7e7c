import SourceCensus.Decimal.Reading
import SourceCensus.Settings.Basic

/-! Settings from environment variables: the name of a setting in capitals after a fixed start. What a
   variable may hold follows from the setting; lists cannot be set this way. -/
namespace SourceCensus.Settings
open Text

abbrev Environment := List (String × String)

inductive Shape
  | text
  | integer
  | number
  | truth
  | notSettable
  deriving DecidableEq, Repr

def Field.shape : Field → Shape
  | .stripLiterals | .followSymlinks => .truth
  | .limit => .integer
  | .maxFileSize => .number
  | .excludePatterns => .notSettable
  | _ => .text

def variableStart : String := "RANKER_"

def Field.variable (field : Field) : String :=
  variableStart ++ String.ofList (field.name.toList.map Char.toUpper)

def trueWords : List String := ["true", "1", "yes", "on"]

def falseWords : List String := ["false", "0", "no", "off"]

/-- Capitals do not matter; only ASCII has capitals of the letters in these words. -/
def readTruth (text : String) : Except Fault Bool :=
  let lowered := String.ofList (text.toList.map Char.toLower)
  if trueWords.contains lowered then .ok true
  else if falseWords.contains lowered then .ok false
  else .error (.notATruthValue text)

def Shape.read (text : String) : Shape → Except Fault (Option Setting)
  | .text => .ok (some (.text text))
  | .integer =>
    match readInteger text with
    | .ok value => .ok (some (.int value))
    | .error error => .error (.notAnInteger text error)
  | .number =>
    match Decimal.readFloat? text with
    | some value => .ok (some (.float value))
    | none => .error (.notANumber text)
  | .truth => (readTruth text).map fun value => some (.bool value)
  | .notSettable => .ok none

def environmentLayer (environment : Environment) : List Field → Except Fault Layer
  | [] => .ok []
  | field :: rest =>
    match environment.lookup field.variable with
    | none => environmentLayer environment rest
    | some text =>
      match field.shape.read text with
      | .error fault =>
        .error (.complaint (.invalidSetting field.variable text fault.message))
      | .ok none => environmentLayer environment rest
      | .ok (some value) => do return (field.name, value) :: (← environmentLayer environment rest)

end SourceCensus.Settings
