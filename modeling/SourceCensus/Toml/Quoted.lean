import SourceCensus.Toml.Failure

/-! Quoted texts of a configuration: literal and basic ones, on one line or on several. -/
namespace SourceCensus.Toml
open Text

def isSpace (c : Char) : Bool := c == ' ' || c == '\t'

def isSpaceOrNewline (c : Char) : Bool := isSpace c || c == '\n'

def isControl (c : Char) : Bool := (c.toNat < 32 || c.toNat == 127) && c != '\t'

def isControlInLines (c : Char) : Bool := isControl c && c != '\n'

def skipSpace (text : List Char) : List Char := text.dropWhile isSpace

def splitAtMark? (mark : List Char) : List Char → Option (List Char × List Char)
  | [] => if mark.isEmpty then some ([], []) else none
  | c :: rest =>
    if mark.isPrefixOf (c :: rest) then some ([], c :: rest)
    else (splitAtMark? mark rest).map fun (head, tail) => (c :: head, tail)

def takeToMark (mark : List Char) (refused : Char → Bool) (text : List Char) :
    Except Failure (List Char × List Char) :=
  match splitAtMark? mark text with
  | none => fail (.expected (quotedText mark)) []
  | some (body, rest) =>
    match text.dropWhile (!refused ·) with
    | c :: left => if rest.length < (c :: left).length then fail (.invalid c) (c :: left)
      else .ok (body, rest.drop mark.length)
    | [] => .ok (body, rest.drop mark.length)

def readLiteral (text : List Char) : Except Failure (List Char × List Char) := takeToMark ['\''] isControl text

def dropNewline : List Char → List Char
  | '\n' :: rest => rest
  | text => text

/-- Up to two more marks after a closing one belong to the text. -/
def takeExtra (mark : Char) : List Char → List Char × List Char
  | a :: b :: rest =>
    if a = mark then (if b = mark then ([a, b], rest) else ([a], b :: rest)) else ([], a :: b :: rest)
  | [a] => if a = mark then ([a], []) else ([], [a])
  | [] => ([], [])

def readLiteralLines (text : List Char) : Except Failure (List Char × List Char) := do
  let (body, rest) ← takeToMark ['\'', '\'', '\''] isControlInLines (dropNewline text)
  let (extra, left) := takeExtra '\'' rest
  return (body ++ extra, left)

def isScalarCode (code : Nat) : Bool := code < 0xD800 || (0xE000 ≤ code && code < 0x110000)

def readHex (width : Nat) (text : List Char) : Except Failure (List Char × List Char) :=
  let digits := text.take width
  if digits.length < width || !digits.all isHexDigit then fail .badHex text
  else
    let code := valueInBase 16 digits
    if isScalarCode code then .ok ([Char.ofNat code], text.drop width)
    else fail .notScalar (text.drop width)

def plainEscape? : Char → Option Char
  | 'b' => some '\x08'
  | 't' => some '\t'
  | 'n' => some '\n'
  | 'f' => some '\x0c'
  | 'r' => some '\r'
  | '"' => some '"'
  | '\\' => some '\\'
  | _ => none

/-- In a text of several lines a backslash takes the white space that follows, if that goes beyond the
   line. -/
def skipLineEnd (text : List Char) : Except Failure (List Char × List Char) :=
  match skipSpace text with
  | [] => .ok ([], [])
  | '\n' :: rest => .ok ([], rest.dropWhile isSpaceOrNewline)
  | left => fail .strayBackslash left

def readEscape (severalLines : Bool) (text : List Char) : Except Failure (List Char × List Char) :=
  match text with
  | [] => fail .strayBackslash []
  | c :: rest =>
    if severalLines && isSpaceOrNewline c then skipLineEnd (c :: rest)
    else if c = 'u' then readHex 4 rest
    else if c = 'U' then readHex 8 rest
    else match plainEscape? c with
      | some plain => .ok ([plain], rest)
      | none => fail .strayBackslash rest

def readBasicBody (severalLines : Bool) : Nat → List Char → List Char → Except Failure (List Char × List Char)
  | 0, _, text => fail .unterminated text
  | fuel + 1, done, text =>
    match text with
    | [] => fail .unterminated []
    | '"' :: rest =>
      if !severalLines then .ok (done, rest)
      else match rest with
        | '"' :: '"' :: left => .ok (done, left)
        | _ => readBasicBody severalLines fuel (done ++ ['"']) rest
    | '\\' :: rest => do
      let (plain, left) ← readEscape severalLines rest
      readBasicBody severalLines fuel (done ++ plain) left
    | c :: rest =>
      if (if severalLines then isControlInLines c else isControl c) then
        fail (.illegal c) (c :: rest)
      else readBasicBody severalLines fuel (done ++ [c]) rest

def readBasic (text : List Char) : Except Failure (List Char × List Char) :=
  readBasicBody false (text.length + 1) [] text

def readBasicLines (text : List Char) : Except Failure (List Char × List Char) := do
  let (body, rest) ← readBasicBody true (text.length + 1) [] (dropNewline text)
  let (extra, left) := takeExtra '"' rest
  return (body ++ extra, left)

end SourceCensus.Toml
