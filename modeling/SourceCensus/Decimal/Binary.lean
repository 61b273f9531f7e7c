import SourceCensus.Text.Character

/-! The exact value of a double, a sign and a natural number times a power of two, and its text with a
   fixed count of decimals, a half rounded to even. -/
namespace SourceCensus.Decimal
open Text

structure Binary where
  negative : Bool
  mantissa : Nat
  exponent : Int
  deriving DecidableEq, Repr

inductive Value
  | finite (value : Binary)
  | infinite (negative : Bool)
  | undefined
  deriving DecidableEq, Repr

def ofBits (bits : Nat) : Value :=
  let negative := bits / Nat.pow 2 63 == 1
  let field : Nat := bits / Nat.pow 2 52 % 2048
  let fraction : Nat := bits % Nat.pow 2 52
  if field = 2047 then (if fraction == 0 then .infinite negative else .undefined)
  else if field = 0 then .finite ⟨negative, fraction, -1074⟩
  else .finite ⟨negative, fraction + Nat.pow 2 52, (field : Int) - 1075⟩

def ofFloat (x : Float) : Value := ofBits x.toBits.toNat

namespace Binary

def numerator (b : Binary) : Nat := b.mantissa * Nat.pow 2 b.exponent.toNat

def denominator (b : Binary) : Nat := Nat.pow 2 (-b.exponent).toNat

def truncate (b : Binary) : Int :=
  let size := b.numerator / b.denominator
  if b.negative then -(size : Int) else size

end Binary

/-- A quotient rounded to the nearest integer, a half to the even neighbour. -/
def roundDiv (numerator denominator : Nat) : Nat :=
  let low := numerator / denominator
  let twice := 2 * (numerator % denominator)
  if twice < denominator || (twice = denominator && low % 2 = 0) then low else low + 1

def signed (negative : Bool) (text : List Char) : List Char :=
  if negative then '-' :: text else text

/-- A whole number of units of the last of `places` decimals. -/
def pointed (places units : Nat) : List Char :=
  let digits := padLeft (places + 1) '0' (Nat.toDigits 10 units)
  let whole := digits.length - places
  if places = 0 then digits else digits.take whole ++ '.' :: digits.drop whole

def Binary.fixed (places : Nat) (b : Binary) : List Char :=
  signed b.negative (pointed places (roundDiv (b.numerator * Nat.pow 10 places) b.denominator))

def fixedChars (places : Nat) (x : Float) : List Char :=
  match ofFloat x with
  | .finite b => b.fixed places
  | .infinite negative => signed negative ['i', 'n', 'f']
  | .undefined => ['n', 'a', 'n']

def fixed (places : Nat) (x : Float) : String := String.ofList (fixedChars places x)

end SourceCensus.Decimal
