import SourceCensus.Decimal.Shortest
import SourceCensus.Text.Quoted

/-! A value that a configuration may hold. Files and callers may put any value under any name, so no
   type is promised before a value is used. -/
namespace SourceCensus

inductive Moment
  | date
  | time
  | dateTime
  deriving DecidableEq, Repr

inductive Setting
  | none
  | bool (value : Bool)
  | int (value : Int)
  | float (value : Float)
  | text (value : String)
  | list (items : List Setting)
  | table (members : List (String × Setting))
  | moment (kind : Moment) (text : String)
  deriving Repr, Inhabited

namespace Setting

def typeName : Setting → String
  | .none => "NoneType"
  | .bool _ => "bool"
  | .int _ => "int"
  | .float _ => "float"
  | .text _ => "str"
  | .list _ => "list"
  | .table _ => "dict"
  | .moment .date _ => "datetime.date"
  | .moment .time _ => "datetime.time"
  | .moment .dateTime _ => "datetime.datetime"

def bareTypeName (value : Setting) : String :=
  match value with
  | .moment .date _ => "date"
  | .moment .time _ => "time"
  | .moment .dateTime _ => "datetime"
  | value => value.typeName

/-- False for nothing, zero and the empty text, list and table. -/
def isTrue : Setting → Bool
  | .none => false
  | .bool value => value
  | .int value => value ≠ 0
  | .float value => !(value == 0.0)
  | .text value => value ≠ ""
  | .list items => !items.isEmpty
  | .table members => !members.isEmpty
  | .moment _ _ => true

mutual

def quotedForm : Setting → String
  | .none => "None"
  | .bool value => if value then "True" else "False"
  | .int value => toString value
  | .float value => Decimal.shortest value
  | .text value => Text.quoted value
  | .list items => "[" ++ ", ".intercalate (quotedItems items) ++ "]"
  | .table members => "\x7b" ++ ", ".intercalate (quotedMembers members) ++ "\x7d"
  | .moment _ written => written

def quotedItems : List Setting → List String
  | [] => []
  | item :: rest => item.quotedForm :: quotedItems rest

def quotedMembers : List (String × Setting) → List String
  | [] => []
  | (name, value) :: rest =>
    (Text.quoted name ++ ": " ++ value.quotedForm) :: quotedMembers rest

end

def shown : Setting → String
  | .text value => value
  | value => value.quotedForm

end Setting

end SourceCensus
