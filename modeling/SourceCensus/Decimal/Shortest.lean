import SourceCensus.Decimal.Binary

/-! The fewest digits that read back as the same double, and of those the nearest to it. Sixteen
   and more digits before the point, and four and more zeros after it, take an exponent. -/
namespace SourceCensus.Decimal
open Text

structure Scientific where
  digits : Nat
  exponent : Int
  deriving DecidableEq, Repr

/-- Doubled ends and centre of the reals that round to a double, over one denominator. -/
structure Interval where
  low : Nat
  centre : Nat
  high : Nat
  denominator : Nat
  closed : Bool

/-- Below a power of two the next double is half as far away. -/
def Binary.interval (b : Binary) : Interval :=
  let narrow := b.mantissa = Nat.pow 2 52 && -1074 < b.exponent
  let up := Nat.pow 2 b.exponent.toNat
  let low := 4 * b.mantissa - (if narrow then 1 else 2)
  ⟨low * up, 4 * b.mantissa * up, (4 * b.mantissa + 2) * up, 4 * b.denominator,
    b.mantissa % 2 = 0⟩

def Interval.holds (i : Interval) (numerator denominator : Nat) : Bool :=
  let value := numerator * i.denominator
  if i.closed then i.low * denominator ≤ value && value ≤ i.high * denominator
  else i.low * denominator < value && value < i.high * denominator

def leadingPlace (b : Binary) : Int :=
  let whole := b.numerator / b.denominator
  if 0 < whole then (Nat.toDigits 10 whole).length
  else
    let zeros := (Nat.toDigits 10 (b.denominator / b.numerator)).length
    -- a quotient below one tenth has a reciprocal of at least two digits
    if b.denominator % b.numerator = 0 && b.denominator / b.numerator = Nat.pow 10 (zeros - 1) then
      2 - (zeros : Int)
    else 1 - (zeros : Int)

/-- The better neighbour of the value on the grid of `count` digits, if it reads back. -/
def nearestOfWidth? (b : Binary) (place : Int) (count : Nat) : Option Scientific :=
  let exponent := place - count
  let up := Nat.pow 10 exponent.toNat
  let down := Nat.pow 10 (-exponent).toNat
  let i := b.interval
  let scaled := i.centre * down
  let unit := i.denominator * up
  let low := scaled / unit
  let fits (digits : Nat) := 0 < digits && i.holds (digits * up) down
  let nearest := roundDiv scaled unit
  let other := if nearest = low then low + 1 else low
  if fits nearest then some ⟨nearest, exponent⟩
  else if fits other then some ⟨other, exponent⟩
  else none

def shortestOf (b : Binary) : Scientific :=
  ((List.range 17).findSome? fun n => nearestOfWidth? b (leadingPlace b) (n + 1)).getD ⟨0, 0⟩

def Scientific.trimmed (s : Scientific) : List Char × Int :=
  let digits := Nat.toDigits 10 s.digits
  let zeros := (digits.reverse.takeWhile (· == '0')).length
  (digits.take (digits.length - zeros), s.exponent + zeros)

/-- How numbers are laid out: the least and greatest position of the point, counted from the first
   digit, that need no exponent, and the least number of exponent digits. -/
structure Layout where
  least : Int
  greatest : Int
  exponentWidth : Nat

def layout : Layout := ⟨-3, 16, 2⟩

def Layout.write (l : Layout) (digits : List Char) (exponent : Int) : List Char :=
  let point := (digits.length : Int) + exponent
  if l.least ≤ point && point ≤ l.greatest then
    if point ≤ 0 then '0' :: '.' :: (List.replicate (-point).toNat '0' ++ digits)
    else if point < digits.length then digits.take point.toNat ++ '.' :: digits.drop point.toNat
    else digits ++ List.replicate exponent.toNat '0' ++ ['.', '0']
  else
    let power := point - 1
    let sign := if power < 0 then '-' else '+'
    let mark := 'e' :: sign :: padLeft l.exponentWidth '0' (Nat.toDigits 10 power.natAbs)
    match digits with
    | first :: [] => first :: mark
    | first :: rest => first :: '.' :: (rest ++ mark)
    | [] => mark

def Binary.shortest (b : Binary) : List Char :=
  if b.mantissa = 0 then signed b.negative ['0', '.', '0']
  else
    let (digits, exponent) := (shortestOf b).trimmed
    signed b.negative (layout.write digits exponent)

def shortest (x : Float) : String :=
  String.ofList (match ofFloat x with
    | .finite b => b.shortest
    | .infinite negative => signed negative ['i', 'n', 'f']
    | .undefined => ['n', 'a', 'n'])

end SourceCensus.Decimal
