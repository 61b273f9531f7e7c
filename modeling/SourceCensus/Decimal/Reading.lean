import SourceCensus.Decimal.Binary
import SourceCensus.Text.Integer

/-! Decimal numbers in text and the double nearest to each. -/
namespace SourceCensus.Decimal
open Text

/-- The double nearest to `digits` times ten to the power `exponent`. Numbers far outside the range
   of doubles are settled before any power is computed. -/
def nearest (digits : Nat) (exponent : Int) : Float :=
  let size := ((Nat.toDigits 10 digits).length : Int) + exponent
  if digits = 0 then 0.0
  else if 400 < size then 1.0 / 0.0
  else if size < -400 then 0.0
  else if 0 ≤ exponent then Float.ofScientific digits false exponent.toNat
  else Float.ofScientific digits true (-exponent).toNat

def applySign (negative : Bool) (x : Float) : Float := if negative then -x else x

structure Parts where
  negative : Bool
  whole : List Char
  fraction : List Char
  exponent : Int
  deriving DecidableEq, Repr

def Parts.value (p : Parts) : Float :=
  applySign p.negative
    (nearest (valueInBase 10 (p.whole ++ p.fraction)) (p.exponent - p.fraction.length))

def takeDigits (text : List Char) : List Char × List Char :=
  (text.takeWhile Char.isDigit, text.dropWhile Char.isDigit)

/-- An exponent mark needs a digit after it; otherwise it is no part of the number. -/
def takeExponent (text : List Char) : Int × List Char :=
  match text with
  | c :: rest =>
    if c == 'e' || c == 'E' then
      let (negative, unsigned) := takeSign rest
      let (digits, left) := takeDigits unsigned
      if digits.isEmpty then (0, text)
      else
        let size : Int := valueInBase 10 digits
        (if negative then -size else size, left)
    else (0, text)
  | [] => (0, [])

/-- A sign, digits with at most one point among them and at least one digit, and an exponent. -/
def takeParts? (text : List Char) : Option (Parts × List Char) :=
  let (negative, unsigned) := takeSign text
  let (whole, afterWhole) := takeDigits unsigned
  let (fraction, afterFraction) := match afterWhole with
    | '.' :: rest => takeDigits rest
    | rest => ([], rest)
  if whole.isEmpty && fraction.isEmpty then none
  else
    let (exponent, left) := takeExponent afterFraction
    some (⟨negative, whole, fraction, exponent⟩, left)

def asciiDigit (c : Char) : Char :=
  match digitValue? c with
  | some value => Char.ofNat ('0'.toNat + value)
  | none => c

/-- Without the low lines, each of which has to stand between two digits. -/
def dropLowLines? : Option Char → List Char → Option (List Char)
  | _, [] => some []
  | before, '_' :: rest =>
    if before.any Char.isDigit && rest.head?.any Char.isDigit then dropLowLines? (some '_') rest
    else none
  | _, c :: rest => (dropLowLines? (some c) rest).map (c :: ·)

def specialOf? (text : List Char) : Option Float :=
  let (negative, name) := takeSign text
  let lowered := String.ofList (name.map Char.toLower)
  if lowered = "inf" || lowered = "infinity" then some (applySign negative (1.0 / 0.0))
  else if lowered = "nan" then some (0.0 / 0.0)
  else none

def readFloat? (text : String) : Option Float :=
  match dropLowLines? none ((trimNumber text.toList).map asciiDigit) with
  | none => none
  | some plain =>
    match specialOf? plain with
    | some x => some x
    | none =>
      match takeParts? plain with
      | some (parts, []) => some parts.value
      | _ => none

def rounded (places : Nat) (x : Float) : Float :=
  match ofFloat x with
  | .finite b => applySign b.negative
      (nearest (roundDiv (b.numerator * Nat.pow 10 places) b.denominator) (-(places : Int)))
  | _ => x

end SourceCensus.Decimal
