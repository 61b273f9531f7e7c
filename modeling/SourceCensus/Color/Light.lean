import SourceCensus.Text.Character

/-! Colors as three channels from 0 to 1, their relative luminance, and the contrast of two of them.
   Everything is stated over any kind of number with the given operations; `power` raises to the
   power 2.4. -/
namespace SourceCensus.Color
open Text

structure Rgb (K : Type) where
  red : K
  green : K
  blue : K
  deriving DecidableEq, Repr

section

variable {K : Type} [Add K] [Mul K] [Div K] [OfScientific K] [LE K] [DecidableLE K]

def linearize (power : K → K) (channel : K) : K :=
  if channel ≤ 0.03928 then channel / 12.92 else power ((channel + 0.055) / 1.055)

def clip (x : K) : K := if x ≤ 0.0 then 0.0 else if x ≤ 1.0 then x else 1.0

def luminance (power : K → K) (c : Rgb K) : K :=
  clip (0.2126 * linearize power c.red + 0.7152 * linearize power c.green +
    0.0722 * linearize power c.blue)

/-- The lighter luminance over the darker one, both raised by a twentieth. -/
def contrast (power : K → K) (a b : Rgb K) : K :=
  let first := luminance power a
  let second := luminance power b
  let (darker, lighter) := if first ≤ second then (first, second) else (second, first)
  1.0 / ((darker + 0.05) / (lighter + 0.05))

end

structure Bytes where
  red : Nat
  green : Nat
  blue : Nat
  deriving DecidableEq, Repr

def black : Bytes := ⟨0, 0, 0⟩

def white : Bytes := ⟨255, 255, 255⟩

def Bytes.scale {K : Type} [Div K] [OfScientific K] (b : Bytes) : Rgb K :=
  let share (step : Nat) : K := OfScientific.ofScientific step false 0 / 255.0
  ⟨share b.red, share b.green, share b.blue⟩

/-- Three or six hexadecimal digits, number signs left out. One digit stands for two equal ones. -/
def ofHex? (code : List Char) : Option Bytes :=
  let digits := code.filter (· != '#')
  let pair (a b : Char) := valueInBase 16 [a, b]
  if digits.all isHexDigit then
    match digits with
    | [r, g, b] => some ⟨pair r r, pair g g, pair b b⟩
    | [r, r', g, g', b, b'] => some ⟨pair r r', pair g g', pair b b'⟩
    | _ => none
  else none

def levels {K : Type} [OfScientific K] : List (K × String) :=
  [(2.9, "fail"), (4.5, "AA+"), (7.0, "AA"), (25.0, "AAA")]

/-- The first level whose bound is above the ratio; the empty text if there is none. -/
def label {K : Type} [OfScientific K] [LT K] [DecidableLT K] (ratio : K) : String :=
  ((levels.find? fun level => ratio < level.1).map (·.2)).getD ""

end SourceCensus.Color
