import SourceCensus.Text.Character
import SourceCensus.Text.Quoted

/-! Decimal integers in text: white space around, one sign, digits of any script with single low
   lines between them. More than 4300 digits are refused, whatever their value. -/
namespace SourceCensus.Text

inductive IntegerError
  | malformed
  | tooLong (digits : Nat)
  deriving DecidableEq, Repr

def longestInteger : Nat := 4300

def isWritable (value : Int) : Bool := (Nat.toDigits 10 value.natAbs).length ≤ longestInteger

def tooLongMessage : String :=
  s!"Exceeds the limit ({longestInteger} digits) for integer string conversion"

def longerIntegersHint : String := "use sys.set_int_max_str_digits() to increase the limit"

def longestQuotation : Nat := 200

def IntegerError.message (text : String) : IntegerError → String
  | .malformed =>
    "invalid literal for int() with base 10: " ++
      String.ofList ((quotedChars text.toList).take longestQuotation)
  | .tooLong digits => s!"{tooLongMessage}: value has {digits} digits; {longerIntegersHint}"

/-- ASCII has its own narrower white space here; beyond it all of Unicode's counts. -/
def isNumberBlank (c : Char) : Bool :=
  if c.toNat < 128 then isAsciiBlank c else isBlank c

def trimNumber (text : List Char) : List Char :=
  ((text.dropWhile isNumberBlank).reverse.dropWhile isNumberBlank).reverse

def takeSign : List Char → Bool × List Char
  | '-' :: rest => (true, rest)
  | '+' :: rest => (false, rest)
  | text => (false, text)

/-- The digits at the start of a text, single low lines between them skipped, and what follows.
   `none` if a low line stands first, last or beside another. -/
def digitRun? : List Char → Option (List Nat × List Char)
  | [] => some ([], [])
  | '_' :: _ => none
  | c :: rest =>
    match digitValue? c with
    | none => some ([], c :: rest)
    | some d =>
      let next := match rest with
        | '_' :: e :: more => if isDecimalDigit e then digitRun? (e :: more) else none
        | other => digitRun? other
      next.map fun (digits, left) => (d :: digits, left)

def valueOfDigits (digits : List Nat) : Nat := digits.foldl (fun value d => value * 10 + d) 0

def readInteger (text : String) : Except IntegerError Int :=
  let (negative, unsigned) := takeSign (text.toList.dropWhile isNumberBlank)
  match digitRun? unsigned with
  | none => .error .malformed
  | some (digits, rest) =>
    if longestInteger < digits.length then .error (.tooLong digits.length)
    else if digits.isEmpty || !rest.all isNumberBlank then .error .malformed
    else .ok (if negative then -(valueOfDigits digits : Int) else valueOfDigits digits)

end SourceCensus.Text
