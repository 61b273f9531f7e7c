import SourceCensus.Text.Character

/-! Bytes as text: what a decoder makes of them, and what becomes of bytes that are no text. -/
namespace SourceCensus

inductive Encoding
  | utf8
  | utf8Marked
  | ascii
  | latin1
  /-- With a mark at the start that tells the order of bytes. -/
  | utf16
  | utf16Little
  | utf16Big
  | utf32
  | utf32Little
  | utf32Big
  deriving DecidableEq, Repr

namespace Encoding
open Text

abbrev Bytes := List UInt8

inductive Handling
  | replace
  | strict
  | ignore
  deriving DecidableEq, Repr

inductive Flaw
  | startByte
  | continuationByte
  | endOfData
  | notAscii
  | truncated
  | loneLow
  | loneHigh
  | surrogate
  | beyondUnicode
  deriving DecidableEq, Repr

def Flaw.words : Flaw → String
  | .startByte => "invalid start byte"
  | .continuationByte => "invalid continuation byte"
  | .endOfData => "unexpected end of data"
  | .notAscii => "ordinal not in range(128)"
  | .truncated => "truncated data"
  | .loneLow => "illegal encoding"
  | .loneHigh => "illegal UTF-16 surrogate"
  | .surrogate => "code point in surrogate code point range(0xd800, 0xe000)"
  | .beyondUnicode => "code point not in range(0x110000)"

inductive Piece
  | char (c : Char) (width : Nat)
  | flaw (flaw : Flaw) (width : Nat)
  deriving DecidableEq, Repr

def Piece.width : Piece → Nat
  | .char _ width | .flaw _ width => width

inductive Failure
  | undecodable (codec : String) (bytes : Bytes) (place : Nat) (flaw : Flaw)
  /-- Bytes that a decoder from outside cannot read, in its words. -/
  | unreadable (words : String)
  /-- A decoder gave up without naming any bytes. -/
  | stopped (words : String)
  deriving DecidableEq, Repr

def replacement : Char := Char.ofNat 0xFFFD

def Failure.message : Failure → String
  | .unreadable words | .stopped words => words
  | .undecodable codec bytes place flaw =>
    let where_ := match bytes with
      | [byte] => s!"byte 0x{String.ofList (hex 2 byte.toNat)} in position {place}"
      | _ => s!"bytes in position {place}-{place + bytes.length - 1}"
    s!"'{codec}' codec can't decode {where_}: {flaw.words}"

def decodeFrom (codec : String) (handling : Handling) (next : Bytes → Piece) :
    Nat → Nat → Bytes → Except Failure (List Char)
  | 0, _, _ => .ok []
  | _, _, [] => .ok []
  | fuel + 1, place, bytes =>
    let piece := next bytes
    let rest := decodeFrom codec handling next fuel (place + piece.width) (bytes.drop piece.width)
    match piece, handling with
    | .char c _, _ => rest.map (c :: ·)
    | .flaw flaw width, .strict => .error (.undecodable codec (bytes.take width) place flaw)
    | .flaw _ _, .replace => rest.map (replacement :: ·)
    | .flaw _ _, .ignore => rest

def decodeAll (codec : String) (handling : Handling) (next : Bytes → Piece) (place : Nat)
    (bytes : Bytes) : Except Failure (List Char) :=
  decodeFrom codec handling next bytes.length place bytes

end Encoding

end SourceCensus
