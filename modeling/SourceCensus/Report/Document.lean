import SourceCensus.Decimal.Reading
import SourceCensus.Fault
import SourceCensus.Json.Writer
import SourceCensus.Report.Plain

/-! A report as a JSON document. Contrast ratios are rounded to four decimals, all else stands as it
   is. A limit that has no form in JSON is refused, and so is an integer that cannot be written. -/
namespace SourceCensus
open Json Text

mutual

def Setting.document : Setting → Except Fault Value
  | .none => .ok .null
  | .bool value => .ok (.bool value)
  | .int value => if isWritable value then .ok (.int value) else .error .unwritableInteger
  | .float value => .ok (.real value)
  | .text value => .ok (.string value)
  | .list items => (documentItems items).map Value.array
  | .table members => (documentMembers members).map Value.object
  | .moment kind text => .error (.notInDocuments (Setting.moment kind text).bareTypeName)

def documentItems : List Setting → Except Fault (List Value)
  | [] => .ok []
  | item :: rest => do
    let head ← item.document
    return head :: (← documentItems rest)

def documentMembers : List (String × Setting) → Except Fault (List (String × Value))
  | [] => .ok []
  | (name, value) :: rest => do
    let head ← value.document
    return (name, head) :: (← documentMembers rest)

end

namespace Report

def ratioPlaces : Nat := 4

def keyDocument : Key → Value
  | .text value => .string value
  | .number value => .int value

def entryDocument (entry : Entry) : Value :=
  .object [("key", keyDocument entry.1), ("count", .int entry.2)]

def rowDocument (row : Color.Row) : Value :=
  .object [
    ("color", .string row.color),
    ("count", .int row.count),
    ("black_ratio", .real (Decimal.rounded ratioPlaces row.blackRatio)),
    ("black_label", .string row.blackLabel),
    ("white_ratio", .real (Decimal.rounded ratioPlaces row.whiteRatio)),
    ("white_label", .string row.whiteLabel)]

def skippedDocument (file : String × String) : Value :=
  .object [("path", .string file.1), ("reason", .string file.2)]

def documentWith (r : Report) (limit : Value) : Value :=
  .object [
    ("root", .string r.root),
    ("modes", .array (r.modes.map .string)),
    ("limit", limit),
    ("files_scanned", .int r.filesScanned),
    ("colors", .array (r.colors.map entryDocument)),
    ("numbers", .array (r.numbers.map entryDocument)),
    ("classes", .array (r.classes.map entryDocument)),
    ("contrast", .array (r.contrast.map rowDocument)),
    ("skipped_files", .array (r.skipped.map skippedDocument))]

def entryIntegers (entry : Entry) : List Int :=
  match entry.1 with
  | .text _ => [entry.2]
  | .number value => [value, entry.2]

/-- The integers of a report, apart from those in its limit. -/
def integers (r : Report) : List Int :=
  r.filesScanned :: (r.colors ++ r.numbers ++ r.classes).flatMap entryIntegers ++
    r.contrast.map (·.count)

def documentText (r : Report) : Except Fault String := do
  let limit ← r.limit.document
  if r.integers.all isWritable then return (r.documentWith limit).write pretty
  else throw .unwritableInteger

end Report

end SourceCensus
