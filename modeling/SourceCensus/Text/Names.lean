/-! Characters by their names. Which names there are depends on the edition of Unicode, so a table of
   them is given from outside; here is the part of it that ASCII has. -/
namespace SourceCensus

class CharacterNames where
  named? : List Char → Option Char

namespace Text

def signNames : List (String × Char) := [
  ("SPACE", ' '), ("EXCLAMATION MARK", '!'), ("QUOTATION MARK", '"'), ("NUMBER SIGN", '#'),
  ("DOLLAR SIGN", '$'), ("PERCENT SIGN", '%'), ("AMPERSAND", '&'), ("APOSTROPHE", '\''),
  ("LEFT PARENTHESIS", '('), ("RIGHT PARENTHESIS", ')'), ("ASTERISK", '*'), ("PLUS SIGN", '+'),
  ("COMMA", ','), ("HYPHEN-MINUS", '-'), ("FULL STOP", '.'), ("SOLIDUS", '/'), ("COLON", ':'),
  ("SEMICOLON", ';'), ("LESS-THAN SIGN", '<'), ("EQUALS SIGN", '='), ("GREATER-THAN SIGN", '>'),
  ("QUESTION MARK", '?'), ("COMMERCIAL AT", '@'), ("LEFT SQUARE BRACKET", '['),
  ("REVERSE SOLIDUS", '\\'), ("RIGHT SQUARE BRACKET", ']'), ("CIRCUMFLEX ACCENT", '^'),
  ("LOW LINE", '_'), ("GRAVE ACCENT", '\x60'), ("LEFT CURLY BRACKET", '\x7b'), ("VERTICAL LINE", '|'),
  ("RIGHT CURLY BRACKET", '\x7d'), ("TILDE", '~'), ("DIGIT ZERO", '0'), ("DIGIT ONE", '1'),
  ("DIGIT TWO", '2'), ("DIGIT THREE", '3'), ("DIGIT FOUR", '4'), ("DIGIT FIVE", '5'),
  ("DIGIT SIX", '6'), ("DIGIT SEVEN", '7'), ("DIGIT EIGHT", '8'), ("DIGIT NINE", '9')]

def letters : List Char := "ABCDEFGHIJKLMNOPQRSTUVWXYZ".toList

def letterNames : List (String × Char) :=
  letters.map (fun c => (String.ofList ("LATIN CAPITAL LETTER ".toList ++ [c]), c)) ++
  letters.map fun c => (String.ofList ("LATIN SMALL LETTER ".toList ++ [c]), c.toLower)

@[reducible] def asciiNames : CharacterNames where
  named? name := (signNames ++ letterNames).lookup (String.ofList (name.map Char.toUpper))

end Text

end SourceCensus
