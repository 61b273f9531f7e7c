import SourceCensus.Pattern.Token
import SourceCensus.Text.Names

/-! Escapes of a written pattern, inside a set and outside. -/
namespace SourceCensus.Pattern
open Text

def isOctalDigit (c : Char) : Bool := '0' ≤ c && c ≤ '7'

def controlOf? : Char → Option Nat
  | 'a' => some 7
  | 'b' => some 8
  | 'f' => some 12
  | 'n' => some 10
  | 'r' => some 13
  | 't' => some 9
  | 'v' => some 11
  | '\\' => some 92
  | _ => none

def categoryOf? : Char → Option Member
  | 'd' => some (.category .digit false)
  | 'D' => some (.category .digit true)
  | 's' => some (.category .blank false)
  | 'S' => some (.category .blank true)
  | 'w' => some (.category .word false)
  | 'W' => some (.category .word true)
  | _ => none

def anchorOf? (flags : Flags) : Char → Option Anchor
  | 'A' => some .textStart
  | 'Z' => some .textEnd
  | 'b' => some (.wordEdge flags.ascii false)
  | 'B' => some (.wordEdge flags.ascii true)
  | _ => none

def hexEscape (letter : Char) (count : Nat) : ReadM Nat := do
  let digits ← takeRun isHexDigit count
  let escape := '\\' :: letter :: digits
  if digits.length < count then refuse (.incompleteEscape escape) escape.length
  else
    let code := valueInBase 16 digits
    if 0x10FFFF < code then refuse (.badEscape escape) escape.length else return code

def namedEscape [CharacterNames] : ReadM Nat := do
  if ← accept '\x7b' then
    let name ← takeName '\x7d' "character name"
    match CharacterNames.named? name with
    | some c => return c.toNat
    | none => refuse (.unknownCharacterName name) (name.length + 4)
  else refuse (.missing "\x7b") 0

def octalCode (escape : List Char) : ReadM Nat := do
  let code := valueInBase 8 (escape.drop 1)
  if 0o377 < code then refuse (.octalTooLarge escape) escape.length else return code

/-- A letter that names no escape is refused; any other character stands for itself. -/
def plainEscape (c : Char) : ReadM Nat := do
  if c.isAlphanum then refuse (.badEscape ['\\', c]) 2 else return c.toNat

def setEscape [CharacterNames] (c : Char) : ReadM Member := do
  match controlOf? c, categoryOf? c with
  | some code, _ => return .one code
  | none, some kind => return kind
  | none, none =>
    match c with
    | 'x' => return .one (← hexEscape c 2)
    | 'u' => return .one (← hexEscape c 4)
    | 'U' => return .one (← hexEscape c 8)
    | 'N' => return .one (← namedEscape)
    | _ =>
      if isOctalDigit c then
        let more ← takeRun isOctalDigit 2
        return .one (← octalCode ('\\' :: c :: more))
      else return .one (← plainEscape c)

/-- A group may be named once it is closed; inside a lookbehind, only if it closed before that. -/
def checkGroup (group back : Nat) : ReadM Unit := do
  let r ← get
  if (r.width? group).isNone then refuse .openGroup back

def checkLookbehindGroup (group : Nat) : ReadM Unit := do
  let r ← get
  match r.behindFrom with
  | none => return ()
  | some first =>
    if (r.width? group).isNone then refuse .openGroup 0
    else if first ≤ group then refuse .groupOfSameLookbehind 0

def groupEscape (flags : Flags) (digits : List Char) : ReadM Node := do
  let group := valueInBase 10 digits
  if group < (← get).groupCount then
    checkGroup group (digits.length + 1)
    checkLookbehindGroup group
    return .recall group flags.rule
  else refuse (.noSuchGroup group) digits.length

/-- Three octal digits are a character, fewer digits are a group. -/
def digitEscape (flags : Flags) (c : Char) : ReadM Node := do
  match ← takeRun Char.isDigit 1 with
  | [d] =>
    let third ← if isOctalDigit c && isOctalDigit d then takeRun isOctalDigit 1 else pure []
    if third.isEmpty then groupEscape flags [c, d]
    else return .char (← octalCode ('\\' :: c :: d :: third)) flags.rule
  | _ => groupEscape flags [c]

def nodeEscape [CharacterNames] (flags : Flags) (c : Char) : ReadM Node := do
  let char (code : Nat) : Node := .char code flags.rule
  match anchorOf? flags c, categoryOf? c, controlOf? c with
  | some place, _, _ => return .anchor place
  | none, some kind, _ => return .set false [kind] flags.rule flags.ascii
  | none, none, some code => return char code
  | none, none, none =>
    match c with
    | 'x' => return char (← hexEscape c 2)
    | 'u' => return char (← hexEscape c 4)
    | 'U' => return char (← hexEscape c 8)
    | 'N' => return char (← namedEscape)
    | '0' => return char (valueInBase 8 (c :: (← takeRun isOctalDigit 2)))
    | _ => if c.isDigit then digitEscape flags c else return char (← plainEscape c)

end SourceCensus.Pattern
