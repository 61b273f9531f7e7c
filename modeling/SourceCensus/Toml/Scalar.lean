import SourceCensus.Decimal.Reading
import SourceCensus.Text.Character
import SourceCensus.Toml.Failure

/-! Dates, times and numbers of a configuration, each read as far as it goes. -/
namespace SourceCensus.Toml
open Text Decimal

def takeNumber? (count : Nat) (text : List Char) : Option (List Char × List Char) :=
  let digits := text.take count
  if digits.length = count && digits.all Char.isDigit then some (digits, text.drop count) else none

def takeBetween? (count low high : Nat) (text : List Char) : Option (List Char × List Char) := do
  let (digits, rest) ← takeNumber? count text
  let value := valueInBase 10 digits
  if low ≤ value && value ≤ high then some (digits, rest) else none

def takeMark? (mark : Char) : List Char → Option (List Char)
  | c :: rest => if c = mark then some rest else none
  | [] => none

structure Date where
  year : List Char
  month : List Char
  day : List Char

def takeDate? (text : List Char) : Option (Date × List Char) := do
  let (year, rest) ← takeNumber? 4 text
  let (month, rest) ← takeMark? '-' rest >>= takeBetween? 2 1 12
  let (day, rest) ← takeMark? '-' rest >>= takeBetween? 2 1 31
  some (⟨year, month, day⟩, rest)

def isLeap (year : Nat) : Bool := year % 4 = 0 && (year % 100 ≠ 0 || year % 400 = 0)

def daysIn (year month : Nat) : Nat :=
  if month = 2 then (if isLeap year then 29 else 28)
  else if month = 4 || month = 6 || month = 9 || month = 11 then 30
  else 31

/-- Whether the calendar has such a day; there is no year 0. -/
def Date.exists (d : Date) : Bool :=
  let year := valueInBase 10 d.year
  0 < year && valueInBase 10 d.day ≤ daysIn year (valueInBase 10 d.month)

def Date.shown (d : Date) : List Char := d.year ++ '-' :: (d.month ++ '-' :: d.day)

/-- A point and digits, of which the first six count; none at all if they are zero. -/
def takeFraction (text : List Char) : List Char × List Char :=
  match text with
  | '.' :: rest =>
    let (digits, left) := takeDigits rest
    if digits.isEmpty then ([], text)
    else
      let micros := (digits ++ List.replicate 6 '0').take 6
      (if micros.all (· == '0') then [] else '.' :: micros, left)
  | _ => ([], text)

def takeTime? (text : List Char) : Option (List Char × List Char) := do
  let (hour, rest) ← takeBetween? 2 0 23 text
  let (minute, rest) ← takeMark? ':' rest >>= takeBetween? 2 0 59
  let (second, rest) ← takeMark? ':' rest >>= takeBetween? 2 0 59
  let (fraction, rest) := takeFraction rest
  some (hour ++ ':' :: (minute ++ ':' :: (second ++ fraction)), rest)

def takeOffset (text : List Char) : List Char × List Char :=
  let numeric (sign : Char) (rest : List Char) : Option (List Char × List Char) := do
    let (hour, rest) ← takeBetween? 2 0 23 rest
    let (minute, rest) ← takeMark? ':' rest >>= takeBetween? 2 0 59
    let none := (hour ++ minute).all (· == '0')
    some ((if none then '+' else sign) :: (hour ++ ':' :: minute), rest)
  match text with
  | c :: rest =>
    if c == 'Z' || c == 'z' then ("+00:00".toList, rest)
    else if c == '+' || c == '-' then (numeric c rest).getD ([], text)
    else ([], text)
  | [] => ([], [])

def takeMoment? (text : List Char) : Option (Except Cause Setting × List Char) := do
  let (date, rest) ← takeDate? text
  let check (setting : Setting) : Except Cause Setting :=
    if date.exists then .ok setting else .error .invalidDate
  let alone := (check (.moment .date (String.ofList date.shown)), rest)
  match rest with
  | c :: more =>
    if c == 'T' || c == 't' || c == ' ' then
      match takeTime? more with
      | some (time, left) =>
        let (offset, left) := takeOffset left
        some (check (.moment .dateTime (String.ofList (date.shown ++ ' ' :: (time ++ offset)))), left)
      | none => some alone
    else some alone
  | [] => some alone

def takeGrouped (test : Char → Bool) : List Char → List Char × List Char
  | [] => ([], [])
  | c :: rest =>
    if test c then
      let (digits, left) := match rest with
        | '_' :: d :: more => if test d then takeGrouped test (d :: more) else ([], rest)
        | other => takeGrouped test other
      (c :: digits, left)
    else ([], c :: rest)

def takeBased? (text : List Char) : Option (Int × List Char) :=
  let based (base : Nat) (test : Char → Bool) (rest : List Char) : Option (Int × List Char) :=
    let (digits, left) := takeGrouped test rest
    if digits.isEmpty then none else some ((valueInBase base digits : Int), left)
  match text with
  | '0' :: 'x' :: rest => based 16 isHexDigit rest
  | '0' :: 'b' :: rest => based 2 (fun c => c == '0' || c == '1') rest
  | '0' :: 'o' :: rest => based 8 (fun c => '0' ≤ c && c ≤ '7') rest
  | _ => none

def takeWhole? : List Char → Option (List Char × List Char)
  | '0' :: rest => some (['0'], rest)
  | c :: rest => if c.isDigit then some (takeGrouped Char.isDigit (c :: rest)) else none
  | [] => none

def takePoint (text : List Char) : List Char × List Char :=
  match text with
  | '.' :: rest =>
    let (digits, left) := takeGrouped Char.isDigit rest
    if digits.isEmpty then ([], text) else (digits, left)
  | _ => ([], text)

def takePower (text : List Char) : Option Int × List Char :=
  match text with
  | c :: rest =>
    if c == 'e' || c == 'E' then
      let (negative, unsigned) := takeSign rest
      let (digits, left) := takeGrouped Char.isDigit unsigned
      if digits.isEmpty then (none, text)
      else
        let size : Int := valueInBase 10 digits
        (some (if negative then -size else size), left)
    else (none, text)
  | [] => (none, [])

/-- A number that may have a sign, a fraction and an exponent; without either of the last two it is an
   integer. -/
def takeDecimal? (text : List Char) : Option (Except Failure Setting × List Char) := do
  let (negative, unsigned) := takeSign text
  let (whole, rest) ← takeWhole? unsigned
  let (fraction, rest) := takePoint rest
  let (power, rest) := takePower rest
  if fraction.isEmpty && power.isNone then
    if longestInteger < whole.length then some (.error (.longInteger whole.length), rest)
    else
      let size : Int := valueInBase 10 whole
      some (.ok (.int (if negative then -size else size)), rest)
  else some (.ok (.float (Parts.value ⟨negative, whole, fraction, power.getD 0⟩)), rest)

def takeNumeric? (text : List Char) : Option (Except Failure Setting × List Char) :=
  match takeBased? text with
  | some (value, rest) => some (.ok (.int value), rest)
  | none => takeDecimal? text

def takeSpecial? (text : List Char) : Option (Setting × List Char) :=
  let (negative, name) := takeSign text
  match name with
  | 'i' :: 'n' :: 'f' :: rest => some (.float (applySign negative (1.0 / 0.0)), rest)
  | 'n' :: 'a' :: 'n' :: rest => some (.float (0.0 / 0.0), rest)
  | _ => none

end SourceCensus.Toml
