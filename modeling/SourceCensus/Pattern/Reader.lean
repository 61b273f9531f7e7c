import SourceCensus.Pattern.Escape
import SourceCensus.Text.Identifier

/-! Reading a written pattern. Alternatives hold sequences, sequences hold items, and a repetition
   takes the item before it. Each level takes a piece, so the number of pieces bounds the depth. -/
namespace SourceCensus.Pattern
open Text

inductive ItemKind
  | plain
  | place
  | looped
  deriving DecidableEq, Repr

/-- What a repetition takes whole. A group without a number may hold several nodes, or none. -/
structure Item where
  nodes : List Node
  kind : ItemKind

def countLimit : Nat := 4294967295

def groupLimit : Nat := 1073741823

def widthLimit : Nat := 18446744073709551616

def capWidth (w : Width) : Width := (min w.1 widthLimit, min w.2 widthLimit)

def Node.width (groups : Nat → Width) : Node → Width
  | .empty | .anchor _ | .ahead _ _ | .behind _ _ _ => (0, 0)
  | .char _ _ | .other _ _ | .any _ | .set _ _ _ _ => (1, 1)
  | .seq first second =>
    let (a, b) := (first.width groups, second.width groups)
    capWidth (a.1 + b.1, a.2 + b.2)
  | .alt first second =>
    let (a, b) := (first.width groups, second.width groups)
    (min a.1 b.1, max a.2 b.2)
  | .group _ body | .atomic body => body.width groups
  | .loop least most _ body =>
    let w := body.width groups
    let high := match most with
      | some most => w.2 * most
      | none => if w.2 = 0 then 0 else widthLimit
    capWidth (w.1 * least, high)
  | .recall index _ => groups index
  | .ifGroup _ yes no =>
    let (a, b) := (yes.width groups, no.width groups)
    (min a.1 b.1, max a.2 b.2)

def Reader.widthOf (r : Reader) (node : Node) : Width :=
  node.width fun group => (r.width? group).getD (0, 0)

def Reader.openGroup (r : Reader) : Reader := { r with widths := none :: r.widths }

def Reader.closeGroup (r : Reader) (group : Nat) (node : Node) : Reader :=
  { r with widths := r.widths.set (r.groupCount - 1 - group) (some (r.widthOf node)) }

def setMember [CharacterNames] (start : Nat) : List Char → ReadM Member
  | ['\\', c] => setEscape c
  | c :: _ => return .one c.toNat
  | [] => refuseAt .unterminatedSet start

/-- The members of a set up to its closing bracket. `start` is the place of the opening one. -/
def setMembers [CharacterNames] (start : Nat) : Nat → List Member → ReadM (List Member)
  | 0, _ => refuseAt .unterminatedSet start
  | fuel + 1, members => do
    match ← pull with
    | none => refuseAt .unterminatedSet start
    | some low =>
      if low = [']'] && !members.isEmpty then return members
      else
        let first ← setMember start low
        if ← accept '-' then
          match ← pull with
          | none => refuseAt .unterminatedSet start
          | some [']'] => return members ++ [first, .one '-'.toNat]
          | some high =>
            let second ← setMember start high
            let width := low.length + 1 + high.length
            match first, second with
            | .one a, .one b =>
              if b < a then refuse (.badRange low high) width
              else setMembers start fuel (members ++ [.range a b])
            | _, _ => refuse (.badRange low high) width
        else setMembers start fuel (members ++ [first])

def readSet [CharacterNames] (flags : Flags) (start : Nat) : ReadM Node := do
  let negated ← accept '^'
  let members ← setMembers start ((← get).pieces.length + 1) []
  match members.eraseDups with
  | [.one code] => return if negated then .other code flags.rule else .char code flags.rule
  | members => return .set negated members flags.rule flags.ascii

def Appetite.operator : Appetite → String
  | .greedy => "MAX_REPEAT"
  | .lazy => "MIN_REPEAT"
  | .possessive => "POSSESSIVE_REPEAT"

def readCount (digits : List Char) : ReadM Nat := do
  if longestInteger < digits.length then throw (.countTooLong digits.length)
  let count := valueInBase 10 digits
  if countLimit ≤ count then throw .countTooLarge
  return count

/-- The bounds after an opening brace, or nothing if it is no repetition; then nothing is taken. -/
def readBounds : ReadM (Option (Nat × Option Nat)) := do
  let saved ← get
  if (← peek) = some ['\x7d'] then return none
  let low ← takeRun Char.isDigit saved.pieces.length
  let high ← if ← accept ',' then takeRun Char.isDigit saved.pieces.length else pure low
  if ← accept '\x7d' then
    let least ← if low.isEmpty then pure 0 else readCount low
    if high.isEmpty then return some (least, none)
    let most ← readCount high
    if most < least then refuseAt .boundsReversed saved.position
    return some (least, some most)
  else
    set saved
    return none

def repeatLast (flags : Flags) (start : Nat) (bounds : Nat × Option Nat) (items : List Item) :
    ReadM (List Item) := do
  match items with
  | [] => refuseAt .nothingToRepeat start
  | last :: before =>
    if last.kind = .place then refuseAt .nothingToRepeat start
    if last.kind = .looped then refuseAt .multipleRepeat start
    let appetite ← do
      if ← accept '?' then pure Appetite.lazy
      else if ← accept '+' then pure Appetite.possessive
      else pure Appetite.greedy
    if flags.template then
      modify fun r => { r with late := r.late.or (some (.loopInTemplate appetite.operator)) }
    return ⟨[.loop bounds.1 bounds.2 appetite (seqOf last.nodes)], .looped⟩ :: before

def isLetter (c : Char) : Bool := isAlphanumeric c && !isDecimalDigit c

def isFlag (chars : List Char) : Bool := chars = ['L'] || (flagOf? chars).isSome

def notAFlag (expected : String) : List Char → Cause
  | [c] => if isLetter c then .unknownFlag else .missing expected
  | _ => .missing expected

def addFlag (added : Flags) (chars : List Char) : ReadM Flags := do
  match flagOf? chars with
  | none => refuse (.badFlags "cannot use 'L' flag with a str pattern") 0
  | some flag =>
    let sum := added.union flag
    if (flag.ascii || flag.unicode) && sum.ascii && sum.unicode then
      refuse (.badFlags "flags 'a', 'u' and 'L' are incompatible") 0
    else return sum

def flagsOn : Nat → Flags → List Char → ReadM (Flags × List Char)
  | 0, added, chars => return (added, chars)
  | fuel + 1, added, chars => do
    let added ← addFlag added chars
    match ← pull with
    | none => refuse (.missing "-, : or )") 0
    | some next =>
      if next = [')'] || next = ['-'] || next = [':'] then return (added, next)
      else if isFlag next then flagsOn fuel added next
      else refuse (notAFlag "-, : or )" next) next.length

def flagsOff : Nat → Flags → List Char → ReadM Flags
  | 0, removed, _ => return removed
  | fuel + 1, removed, chars => do
    match flagOf? chars with
    | none => refuse (.badFlags "cannot turn off flags 'a', 'u' and 'L'") 0
    | some flag =>
      if flag.ascii || flag.unicode then
        refuse (.badFlags "cannot turn off flags 'a', 'u' and 'L'") 0
      let removed := removed.union flag
      match ← pull with
      | none => refuse (.missing ":") 0
      | some next =>
        if next = [':'] then return removed
        else if isFlag next then flagsOff fuel removed next
        else refuse (notAFlag ":" next) next.length

/-- The options after an opening parenthesis and a question mark: those added and removed for the
   group that follows, or nothing if they hold for the whole pattern. -/
def readFlags (chars : List Char) : ReadM (Option (Flags × Flags)) := do
  let fuel := (← get).pieces.length + 1
  let (added, close) ← if chars = ['-'] then pure (Flags.none, chars) else flagsOn fuel Flags.none chars
  if close = [')'] then
    modify fun r => { r with flags := r.flags.union added }
    return none
  if added.template then refuse (.badFlags "cannot turn on global flag") 1
  let removed ←
    if close = ['-'] then
      match ← pull with
      | none => refuse (.missing "flag") 0
      | some next =>
        if isFlag next then flagsOff fuel Flags.none next
        else refuse (notAFlag "flag" next) next.length
    else pure Flags.none
  if removed.template then refuse (.badFlags "cannot turn off global flag") 1
  if added.meet removed ≠ Flags.none then refuse (.badFlags "flag turned on and off") 1
  return some (added, removed)

def checkName (name : List Char) : ReadM Unit := do
  if !isIdentifier name then refuse (.badGroupName name) (name.length + 1)

def openGroup (name : Option (List Char)) : ReadM Nat := do
  let group := (← get).groupCount
  modify Reader.openGroup
  match name with
  | none => return group
  | some name =>
    match (← get).names.lookup name with
    | some earlier => refuse (.groupRedefined name group earlier) (name.length + 1)
    | none =>
      modify fun r => { r with names := (name, group) :: r.names }
      return group

def namedGroup (name : List Char) : ReadM Nat := do
  match (← get).names.lookup name with
  | none => refuse (.unknownGroupName name) (name.length + 1)
  | some group => return group

def recallNamed (flags : Flags) : ReadM Node := do
  let name ← takeName ')' "group name"
  checkName name
  let group ← namedGroup name
  checkGroup group (name.length + 1)
  checkLookbehindGroup group
  return .recall group flags.rule

def conditionGroup : ReadM Nat := do
  let name ← takeName ')' "group name"
  let back := name.length + 1
  let group ←
    if isIdentifier name then namedGroup name
    else
      match readInteger (String.ofList name) with
      | .ok (.ofNat number) =>
        if number = 0 then refuse .groupNumberZero back
        else if groupLimit ≤ number then refuse (.noSuchGroup number) back
        else
          let r ← get
          if r.conditions.lookup number = none then
            set { r with conditions := r.conditions ++ [(number, r.position - back)] }
          pure number
      | _ => refuse (.badGroupName name) back
  checkLookbehindGroup group
  return group

def skipLine : Nat → ReadM Unit
  | 0 => return ()
  | fuel + 1 => do
    match ← pull with
    | none | some ['\n'] => return ()
    | some _ => skipLine fuel

def skipComment (start : Nat) : Nat → ReadM Unit
  | 0 => return ()
  | fuel + 1 => do
    if (← peek).isNone then refuseAt (.missing "), unterminated comment") start
    match ← pull with
    | some [')'] => return ()
    | _ => skipComment start fuel

def closeParenthesis (start : Nat) : ReadM Unit := do
  if !(← accept ')') then refuseAt (.missing "), unterminated subpattern") start

inductive Opened
  | nothing
  | item (nodes : List Node)
  | options (flags : Flags)

inductive GroupKind
  | capture (name : Option (List Char))
  | plain (added removed : Flags)
  | atomic
  | look (negated behind : Bool)
  | condition (group : Nat)
  | done (opened : Opened)

def groupKind (flags : Flags) (start : Nat) : ReadM GroupKind := do
  if !(← accept '?') then return .capture none
  match ← pull with
  | none => refuse .unexpectedEnd 0
  | some ['P'] =>
    if ← accept '<' then
      let name ← takeName '>' "group name"
      checkName name
      return .capture (some name)
    else if ← accept '=' then return .done (.item [← recallNamed flags])
    else
      match ← pull with
      | none => refuse .unexpectedEnd 0
      | some mark => refuse (.unknownExtension ('P' :: mark)) (mark.length + 2)
  | some [':'] => return .plain Flags.none Flags.none
  | some ['#'] =>
    skipComment start ((← get).pieces.length + 1)
    return .done .nothing
  | some ['='] => return .look false false
  | some ['!'] => return .look true false
  | some ['<'] =>
    match ← pull with
    | none => refuse .unexpectedEnd 0
    | some ['='] => return .look false true
    | some ['!'] => return .look true true
    | some mark => refuse (.unknownExtension ('<' :: mark)) (mark.length + 2)
  | some ['('] => return .condition (← conditionGroup)
  | some ['>'] => return .atomic
  | some mark =>
    if isFlag mark || mark = ['-'] then
      match ← readFlags mark with
      | some (added, removed) => return .plain added removed
      | none => return .done (.options (← get).flags)
    else refuse (.unknownExtension mark) (mark.length + 1)

/-- The least width of the body of a lookbehind; a fault, if its width varies, is kept for later. -/
def behindWidth (body : Node) : ReadM Nat := do
  let (low, high) := (← get).widthOf body
  let fault := if countLimit < low then some Cause.lookbehindTooWide
    else if low ≠ high then some Cause.lookbehindNotFixed else none
  modify fun r => { r with late := r.late.or fault }
  return low

def itemKind : Node → ItemKind
  | .anchor _ => .place
  | _ => .plain

/-- Nodes that match in one way only, so that a choice may be made before or after them. -/
def Node.isSimple : Node → Bool
  | .char _ _ | .other _ _ | .any _ | .set _ _ _ _ | .anchor _ | .recall _ _ => true
  | _ => false

def sharedStart : List Node → List (List Node) → List Node
  | [], _ => []
  | node :: rest, others =>
    if node.isSimple && others.all (·.head? = some node) then
      node :: sharedStart rest (others.map List.tail)
    else []

def membersOf? : List Node → Option (List Member)
  | [.char code _] => some [.one code]
  | [.set false members _ _] => some members
  | _ => none

/-- One of the sequences: what all begin with comes first, and a choice among single characters is a
   set. -/
def oneOf (flags : Flags) : List (List Node) → List Node
  | [] => []
  | [sequence] => sequence
  | first :: others =>
    let shared := sharedStart first others
    let rests := (first :: others).map (·.drop shared.length)
    match rests.mapM membersOf? with
    | some members => shared ++ [.set false members.flatten.eraseDups flags.rule flags.ascii]
    | none => shared ++ [(rests.dropLast.map seqOf).foldr .alt (seqOf (rests.getLast?.getD []))]

variable [CharacterNames]

mutual

/-- One or more sequences with bars between them. At the top the options of the whole pattern hold,
   and `leading` says that nothing but options came before. -/
def readSequences : Nat → Flags → Bool → Bool → ReadM (List (List Node))
  | 0, _, _, _ => refuse .unexpectedEnd 0
  | fuel + 1, flags, top, leading => do
    let first ← readSequence fuel flags top leading []
    if ← accept '|' then
      let flags ← if top then pure (← get).flags else pure flags
      return first :: (← readSequences fuel flags top false)
    else return [first]

def readAlternatives : Nat → Flags → Bool → Bool → ReadM (List Node)
  | 0, _, _, _ => refuse .unexpectedEnd 0
  | fuel + 1, flags, top, leading => do
    let sequences ← readSequences fuel flags top leading
    let flags ← if top then pure (← get).flags else pure flags
    return oneOf flags sequences

def readSequence : Nat → Flags → Bool → Bool → List Item → ReadM (List Node)
  | 0, _, _, _, _ => refuse .unexpectedEnd 0
  | fuel + 1, flags, top, leading, items => do
    let start := (← get).position
    let next (item : Node) : ReadM (List Node) :=
      readSequence fuel flags top leading (⟨[item], itemKind item⟩ :: items)
    match ← peek with
    | none | some ['|'] | some [')'] => return items.reverse.flatMap (·.nodes)
    | some piece =>
      let _ ← pull
      if flags.verbose && piece.all isAsciiBlank then
        readSequence fuel flags top leading items
      else if flags.verbose && piece = ['#'] then
        skipLine ((← get).pieces.length + 1)
        readSequence fuel flags top leading items
      else
        match piece with
        | ['\\', c] => next (← nodeEscape flags c)
        | ['['] => next (← readSet flags start)
        | ['.'] => next (.any flags.dotAll)
        | ['^'] => next (.anchor (if flags.multiline then .lineStart else .textStart))
        | ['$'] => next (.anchor (if flags.multiline then .lineEnd else .lastLineEnd))
        | ['*'] => readSequence fuel flags top leading (← repeatLast flags start (0, none) items)
        | ['+'] => readSequence fuel flags top leading (← repeatLast flags start (1, none) items)
        | ['?'] => readSequence fuel flags top leading (← repeatLast flags start (0, some 1) items)
        | ['\x7b'] =>
          match ← readBounds with
          | some bounds =>
            readSequence fuel flags top leading (← repeatLast flags start bounds items)
          | none => next (.char '\x7b'.toNat flags.rule)
        | ['('] =>
          match ← readGroup fuel flags start with
          | .nothing => readSequence fuel flags top leading items
          | .item nodes => readSequence fuel flags top leading (⟨nodes, .plain⟩ :: items)
          | .options flags =>
            if leading && items.isEmpty then readSequence fuel flags top leading items
            else refuseAt .lateFlags start
        | c :: _ => next (.char c.toNat flags.rule)
        | [] => next .empty

def readGroup : Nat → Flags → Nat → ReadM Opened
  | 0, _, _ => refuse .unexpectedEnd 0
  | fuel + 1, flags, start => do
    match ← groupKind flags start with
    | .done opened => return opened
    | .capture name =>
      let group ← openGroup name
      let body := seqOf (← readAlternatives fuel flags false false)
      closeParenthesis start
      modify fun r => r.closeGroup group body
      return .item [.group group body]
    | .plain added removed =>
      let nodes ← readAlternatives fuel (flags.within added removed) false false
      closeParenthesis start
      return .item (if added = Flags.none && removed = Flags.none then nodes else [seqOf nodes])
    | .atomic =>
      let body := seqOf (← readAlternatives fuel flags false false)
      closeParenthesis start
      return .item [.atomic body]
    | .look negated false =>
      let body := seqOf (← readAlternatives fuel flags false false)
      closeParenthesis start
      return .item [.ahead negated body]
    | .look negated true =>
      let outer := (← get).behindFrom
      modify fun r => { r with behindFrom := outer.or (some r.groupCount) }
      let body := seqOf (← readAlternatives fuel flags false false)
      modify fun r => { r with behindFrom := outer }
      closeParenthesis start
      return .item [.behind negated (← behindWidth body) body]
    | .condition group =>
      let yes := seqOf (← readSequence fuel flags false false [])
      let no ←
        if ← accept '|' then
          let no := seqOf (← readSequence fuel flags false false [])
          if (← peek) = some ['|'] then refuse .thirdBranch 0
          pure no
        else pure Node.empty
      closeParenthesis start
      return .item [.ifGroup group yes no]

end

/-- The whole pattern, with the checks that wait for its end. -/
def readWhole : ReadM Node := do
  checkNext
  let r ← get
  let node := seqOf (← readAlternatives (4 * r.pieces.length + 4) Flags.none true true)
  let r ← get
  if r.flags.ascii && r.flags.unicode then throw .flagsClash
  if !r.pieces.isEmpty then refuse .unbalanced 0
  match r.conditions.find? fun condition => r.groupCount ≤ condition.1 with
  | some (group, position) => refuseAt (.noSuchGroup group) position
  | none =>
    match r.late with
    | some cause => throw (.malformed cause none)
    | none => return node.started r.flags.ascii

end SourceCensus.Pattern

namespace SourceCensus
open Pattern

structure Pattern where
  source : String
  node : Node
  deriving DecidableEq, Repr

def Pattern.read [CharacterNames] (source : String) : Except Failure Pattern :=
  (readWhole.run' (Reader.ofPattern source.toList)).map fun node => ⟨source, node⟩

end SourceCensus
