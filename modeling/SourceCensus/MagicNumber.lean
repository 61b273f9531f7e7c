import SourceCensus.Text.Integer

/-! Magic numbers: maximal runs of ASCII digits that no semicolon or comma follows and that do not
   end the text, with a value outside -1 to 2. A value that does not fit in 32 bits counts as 0. -/
namespace SourceCensus.MagicNumber
open Text

def terminators : List Char := [';', ',']

def isUndeclared : List Char → Bool
  | [] => false
  | c :: _ => !terminators.contains c

def greatest : Int := 2147483647

/-- The value of a text as a number, 0 if it has none or one too large. -/
def valueOf (text : String) : Int :=
  match readInteger text with
  | .ok value => if greatest < value then 0 else value
  | .error _ => 0

def isMagic (value : Int) : Bool := value < -1 || 2 < value

def runs (text : List Char) : List (List Char × List Char) :=
  match _cut : text.dropWhile (!·.isDigit) with
  | [] => []
  | c :: rest =>
    (c :: rest.takeWhile Char.isDigit, rest.dropWhile Char.isDigit) ::
      runs (rest.dropWhile Char.isDigit)
  termination_by text.length
  decreasing_by
    have inside : (c :: rest).length ≤ text.length := _cut ▸ (List.dropWhile_sublist _).length_le
    have shorter : (rest.dropWhile Char.isDigit).length ≤ rest.length :=
      (List.dropWhile_sublist _).length_le
    simp only [List.length_cons] at inside
    omega

def all (text : List Char) : List Int :=
  (((runs text).filter fun run => isUndeclared run.2).map fun run =>
    valueOf (String.ofList run.1)).filter isMagic

end SourceCensus.MagicNumber
