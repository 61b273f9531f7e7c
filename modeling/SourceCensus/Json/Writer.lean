import SourceCensus.Decimal.Shortest

/-! JSON documents, in which integers are kept apart from other numbers and the members of an object
   keep their order, and writing them in ASCII, two spaces a level, or on one line. Characters beyond
   printable ASCII are written as hexadecimal escapes, two of them beyond the basic plane. -/
namespace SourceCensus.Json
open Text

inductive Value
  | null
  | bool (value : Bool)
  | int (value : Int)
  | real (value : Float)
  | string (value : String)
  | array (items : List Value)
  | object (members : List (String × Value))
  deriving Repr, Inhabited

namespace Value

def member? (name : String) : Value → Option Value
  | .object members => members.lookup name
  | _ => none

end Value

def unitEscape (unit : Nat) : List Char := '\\' :: 'u' :: hex 4 unit

def escapedChar (c : Char) : List Char :=
  if c = '"' || c = '\\' then ['\\', c]
  else if c = '\n' then ['\\', 'n']
  else if c = '\r' then ['\\', 'r']
  else if c = '\t' then ['\\', 't']
  else if c = '\x08' then ['\\', 'b']
  else if c = '\x0c' then ['\\', 'f']
  else if 0x20 ≤ c.toNat && c.toNat < 0x7F then [c]
  else if c.toNat < 0x10000 then unitEscape c.toNat
  else
    let offset := c.toNat - 0x10000
    unitEscape (0xD800 + offset / 0x400) ++ unitEscape (0xDC00 + offset % 0x400)

def writeString (text : String) : List Char := '"' :: text.toList.flatMap escapedChar ++ ['"']

def writeReal (x : Float) : String :=
  match Decimal.ofFloat x with
  | .infinite negative => if negative then "-Infinity" else "Infinity"
  | .undefined => "NaN"
  | .finite _ => Decimal.shortest x

/-- What stands between the brackets of a container and its items: line breaks with indentation, or
   nothing, and what follows a comma and a colon. -/
structure Style where
  indent : Nat
  broken : Bool
  colon : List Char

def pretty : Style := ⟨2, true, [':', ' ']⟩

def compact : Style := ⟨0, false, [':']⟩

def Style.lineBreak (style : Style) (depth : Nat) : List Char :=
  if style.broken then '\n' :: List.replicate (style.indent * depth) ' ' else []

mutual

def Value.writeAt (style : Style) (depth : Nat) : Value → List Char
  | .null => "null".toList
  | .bool value => (if value then "true" else "false").toList
  | .int value => (toString value).toList
  | .real value => (writeReal value).toList
  | .string value => writeString value
  | .array [] => ['[', ']']
  | .array (item :: rest) =>
    '[' :: (style.lineBreak (depth + 1) ++ item.writeAt style (depth + 1) ++
      writeItems style (depth + 1) rest ++ style.lineBreak depth ++ [']'])
  | .object [] => ['\x7b', '\x7d']
  | .object ((name, value) :: rest) =>
    '\x7b' :: (style.lineBreak (depth + 1) ++ writeString name ++ style.colon ++
      value.writeAt style (depth + 1) ++ writeMembers style (depth + 1) rest ++
      style.lineBreak depth ++ ['\x7d'])

def writeItems (style : Style) (depth : Nat) : List Value → List Char
  | [] => []
  | item :: rest =>
    ',' :: (style.lineBreak depth ++ item.writeAt style depth ++ writeItems style depth rest)

def writeMembers (style : Style) (depth : Nat) : List (String × Value) → List Char
  | [] => []
  | (name, value) :: rest =>
    ',' :: (style.lineBreak depth ++ writeString name ++ style.colon ++
      value.writeAt style depth ++ writeMembers style depth rest)

end

def Value.write (style : Style) (value : Value) : String :=
  String.ofList (value.writeAt style 0)

end SourceCensus.Json
