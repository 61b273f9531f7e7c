import SourceCensus.Decimal.Reading
import SourceCensus.Json.Writer

/-! Reading a JSON document. Every value takes at least one character, so the length of the text
   bounds the depth. -/
namespace SourceCensus.Json
open Text Decimal

def isSpace (c : Char) : Bool := c == ' ' || c == '\t' || c == '\n' || c == '\r'

def skipSpace (text : List Char) : List Char := text.dropWhile isSpace

def takeHex4? : List Char → Option (Nat × List Char)
  | a :: b :: c :: d :: rest =>
    if [a, b, c, d].all isHexDigit then some (valueInBase 16 [a, b, c, d], rest) else none
  | _ => none

def isHighSurrogate (unit : Nat) : Bool := 0xD800 ≤ unit && unit < 0xDC00

def isLowSurrogate (unit : Nat) : Bool := 0xDC00 ≤ unit && unit < 0xE000

def joinSurrogates (high low : Nat) : Nat := 0x10000 + (high - 0xD800) * 0x400 + (low - 0xDC00)

/-- The character after the mark of a hexadecimal escape; two escapes may make one character. -/
def takeUnit? (text : List Char) : Option (Char × List Char) := do
  let (unit, rest) ← takeHex4? text
  if isHighSurrogate unit then
    match rest with
    | '\\' :: 'u' :: more =>
      let (second, left) ← takeHex4? more
      if isLowSurrogate second then some (Char.ofNat (joinSurrogates unit second), left) else none
    | _ => none
  else if isLowSurrogate unit then none
  else some (Char.ofNat unit, rest)

def plainEscape? : Char → Option Char
  | '"' => some '"'
  | '\\' => some '\\'
  | '/' => some '/'
  | 'b' => some '\x08'
  | 'f' => some '\x0c'
  | 'n' => some '\n'
  | 'r' => some '\r'
  | 't' => some '\t'
  | _ => none

def takeString? : Nat → List Char → List Char → Option (List Char × List Char)
  | 0, _, _ => none
  | fuel + 1, taken, text =>
    match text with
    | '"' :: rest => some (taken, rest)
    | '\\' :: 'u' :: rest =>
      match takeUnit? rest with
      | some (c, left) => takeString? fuel (c :: taken) left
      | none => none
    | '\\' :: c :: rest =>
      match plainEscape? c with
      | some plain => takeString? fuel (plain :: taken) rest
      | none => none
    | c :: rest => if c.toNat < 0x20 then none else takeString? fuel (c :: taken) rest
    | [] => none

def readString? (text : List Char) : Option (String × List Char) :=
  (takeString? (text.length + 1) [] text).map fun (taken, rest) =>
    (String.ofList taken.reverse, rest)

/-- A number without point and exponent is an integer. Digits stand on both sides of a point. -/
def readNumber? (text : List Char) : Option (Value × List Char) := do
  let (parts, rest) ← takeParts? text
  let taken := text.take (text.length - rest.length)
  if parts.whole.isEmpty || taken.head? = some '+' || (taken.contains '.' && parts.fraction.isEmpty)
    then none
  else if 1 < parts.whole.length && parts.whole.head? = some '0' then none
  else if taken.all fun c => c.isDigit || c == '-' then
    let size : Int := valueInBase 10 parts.whole
    some (.int (if parts.negative then -size else size), rest)
  else some (.real parts.value, rest)

mutual

def readValue? : Nat → List Char → Option (Value × List Char)
  | 0, _ => none
  | fuel + 1, text =>
    match skipSpace text with
    | 'n' :: 'u' :: 'l' :: 'l' :: rest => some (.null, rest)
    | 't' :: 'r' :: 'u' :: 'e' :: rest => some (.bool true, rest)
    | 'f' :: 'a' :: 'l' :: 's' :: 'e' :: rest => some (.bool false, rest)
    | '"' :: rest => (readString? rest).map fun (s, left) => (.string s, left)
    | '[' :: rest =>
      match skipSpace rest with
      | ']' :: left => some (.array [], left)
      | inner => (readItems? fuel inner).map fun (items, left) => (.array items, left)
    | '\x7b' :: rest =>
      match skipSpace rest with
      | '\x7d' :: left => some (.object [], left)
      | inner => (readMembers? fuel inner).map fun (members, left) => (.object members, left)
    | other => readNumber? other

def readItems? : Nat → List Char → Option (List Value × List Char)
  | 0, _ => none
  | fuel + 1, text =>
    match readValue? fuel text with
    | none => none
    | some (item, rest) =>
      match skipSpace rest with
      | ']' :: left => some ([item], left)
      | ',' :: more => (readItems? fuel more).map fun (items, left) => (item :: items, left)
      | _ => none

def readMembers? : Nat → List Char → Option (List (String × Value) × List Char)
  | 0, _ => none
  | fuel + 1, text =>
    match skipSpace text with
    | '"' :: inner =>
      match readString? inner with
      | none => none
      | some (name, rest) =>
        match skipSpace rest with
        | ':' :: value =>
          match readValue? fuel value with
          | none => none
          | some (value, rest) =>
            match skipSpace rest with
            | '\x7d' :: left => some ([(name, value)], left)
            | ',' :: more =>
              (readMembers? fuel more).map fun (members, left) => ((name, value) :: members, left)
            | _ => none
        | _ => none
    | _ => none

end

def read? (text : String) : Option Value :=
  let chars := text.toList
  match readValue? (chars.length + 1) chars with
  | some (value, rest) => if (skipSpace rest).isEmpty then some value else none
  | none => none

end SourceCensus.Json
