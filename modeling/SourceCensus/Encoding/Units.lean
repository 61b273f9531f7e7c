import SourceCensus.Encoding.Basic

/-! The next character of UTF-8, of UTF-16 and UTF-32 in either order of bytes, of ASCII and of Latin-1.
   Broken UTF-8 is cut into the longest beginnings of characters. -/
namespace SourceCensus.Encoding

def isContinuation (byte : UInt8) : Bool := 0x80 ≤ byte && byte < 0xC0

def maySecond (first second : UInt8) : Bool :=
  isContinuation second &&
    (first != 0xE0 || 0xA0 ≤ second) && (first != 0xED || second < 0xA0) &&
    (first != 0xF0 || 0x90 ≤ second) && (first != 0xF4 || second < 0x90)

def joinBits (lead : Nat) (rest : Bytes) : Nat :=
  rest.foldl (fun value byte => value * 64 + byte.toNat % 64) lead

/-- How many of the bytes after the first go with it, out of `wanted`. -/
def fitting (first : UInt8) (wanted : Nat) (rest : Bytes) : Nat :=
  match rest with
  | [] => 0
  | second :: more =>
    if wanted = 0 || !maySecond first second then 0
    else 1 + ((more.take (wanted - 1)).takeWhile isContinuation).length

def sequence (first : UInt8) (lead wanted : Nat) (rest : Bytes) : Piece :=
  let found := fitting first wanted rest
  if found = wanted then .char (Char.ofNat (joinBits lead (rest.take wanted))) (wanted + 1)
  else if found = rest.length then .flaw .endOfData (found + 1)
  else .flaw .continuationByte (found + 1)

def nextUtf8 : Bytes → Piece
  | [] => .flaw .endOfData 0
  | first :: rest =>
    let value := first.toNat
    if value < 0x80 then .char (Char.ofNat value) 1
    else if value < 0xC2 then .flaw .startByte 1
    else if value < 0xE0 then sequence first (value % 32) 1 rest
    else if value < 0xF0 then sequence first (value % 16) 2 rest
    else if value < 0xF5 then sequence first (value % 8) 3 rest
    else .flaw .startByte 1

def nextAscii : Bytes → Piece
  | [] => .flaw .endOfData 0
  | byte :: _ => if byte < 0x80 then .char (Char.ofNat byte.toNat) 1 else .flaw .notAscii 1

def nextLatin1 : Bytes → Piece
  | [] => .flaw .endOfData 0
  | byte :: _ => .char (Char.ofNat byte.toNat) 1

def unit (big : Bool) (a b : UInt8) : Nat :=
  if big then a.toNat * 256 + b.toNat else b.toNat * 256 + a.toNat

def isHigh (unit : Nat) : Bool := 0xD800 ≤ unit && unit < 0xDC00

def isLow (unit : Nat) : Bool := 0xDC00 ≤ unit && unit < 0xE000

def nextUtf16 (big : Bool) : Bytes → Piece
  | a :: b :: rest =>
    let first := unit big a b
    if isLow first then .flaw .loneLow 2
    else if isHigh first then
      match rest with
      | c :: d :: _ =>
        let second := unit big c d
        if isLow second then
          .char (Char.ofNat (0x10000 + (first - 0xD800) * 0x400 + (second - 0xDC00))) 4
        else .flaw .loneHigh 2
      | _ => .flaw .endOfData (2 + rest.length)
    else .char (Char.ofNat first) 2
  | bytes => .flaw .truncated bytes.length

def nextUtf32 (big : Bool) : Bytes → Piece
  | a :: b :: c :: d :: _ =>
    let value := if big then unit big a b * 0x10000 + unit big c d
      else unit big c d * 0x10000 + unit big a b
    if isHigh value || isLow value then .flaw .surrogate 4
    else if value < 0x110000 then .char (Char.ofNat value) 4
    else .flaw .beyondUnicode 4
  | bytes => .flaw .truncated bytes.length

/-- Text in units of several bytes, behind the mark that tells their order. Without one the least byte
    comes first, but then the decoder gives up at the end, unless there is less than a unit. -/
def decodeOrdered (name : String) (width : Nat) (next : Bool → Bytes → Piece) (handling : Handling)
    (bytes : Bytes) : Except Failure (List Char) :=
  let little : Bytes := 0xFF :: 0xFE :: List.replicate (width - 2) 0
  let codec (big : Bool) := name.toLower ++ if big then "-be" else "-le"
  if little.isPrefixOf bytes then
    decodeAll (codec false) handling (next false) width (bytes.drop width)
  else if little.reverse.isPrefixOf bytes then
    decodeAll (codec true) handling (next true) width (bytes.drop width)
  else
    match decodeAll (codec false) handling (next false) 0 bytes with
    | .error failure => .error failure
    | .ok text =>
      if bytes.length < width then .ok text
      else .error (.stopped (name ++ " stream does not start with BOM"))

/-- A beginning of the mark is taken for the mark; places are counted from behind it. -/
def decodeMarked (handling : Handling) (bytes : Bytes) : Except Failure (List Char) :=
  let mark : Bytes := [0xEF, 0xBB, 0xBF]
  if bytes.length < 3 && bytes.isPrefixOf mark then .ok []
  else
    let body := if mark.isPrefixOf bytes then bytes.drop 3 else bytes
    decodeAll "utf-8" handling nextUtf8 0 body

def decode (encoding : Encoding) (handling : Handling) (bytes : Bytes) :
    Except Failure (List Char) :=
  match encoding with
  | .utf8 => decodeAll "utf-8" handling nextUtf8 0 bytes
  | .utf8Marked => decodeMarked handling bytes
  | .ascii => decodeAll "ascii" handling nextAscii 0 bytes
  | .latin1 => decodeAll "latin-1" handling nextLatin1 0 bytes
  | .utf16 => decodeOrdered "UTF-16" 2 nextUtf16 handling bytes
  | .utf16Little => decodeAll "utf-16-le" handling (nextUtf16 false) 0 bytes
  | .utf16Big => decodeAll "utf-16-be" handling (nextUtf16 true) 0 bytes
  | .utf32 => decodeOrdered "UTF-32" 4 nextUtf32 handling bytes
  | .utf32Little => decodeAll "utf-32-le" handling (nextUtf32 false) 0 bytes
  | .utf32Big => decodeAll "utf-32-be" handling (nextUtf32 true) 0 bytes

def unifyLineEnds : List Char → List Char
  | '\r' :: '\n' :: rest => '\n' :: unifyLineEnds rest
  | '\r' :: rest => '\n' :: unifyLineEnds rest
  | c :: rest => c :: unifyLineEnds rest
  | [] => []

end SourceCensus.Encoding
