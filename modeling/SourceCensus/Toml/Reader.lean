import SourceCensus.Toml.Quoted
import SourceCensus.Toml.Scalar
import SourceCensus.Toml.Table

/-! Reading a configuration text: names, values, and the statements that fill tables. Every value
   takes at least one character, so the length of the text bounds the depth. -/
namespace SourceCensus.Toml
open Text

def isBareKey (c : Char) : Bool := c.isAlphanum || c == '-' || c == '_'

def skipComment (text : List Char) : Except Failure (List Char) :=
  match text with
  | '#' :: rest =>
    let body := rest.takeWhile (· != '\n')
    match body.dropWhile (!isControl ·) with
    | c :: left => fail (.invalid c) (c :: (left ++ rest.drop body.length))
    | [] => .ok (rest.drop body.length)
  | _ => .ok text

def skipFiller : Nat → List Char → Except Failure (List Char)
  | 0, text => .ok text
  | fuel + 1, text => do
    let rest ← skipComment (text.dropWhile isSpaceOrNewline)
    if rest.length = text.length then return rest else skipFiller fuel rest

def skipAll (text : List Char) : Except Failure (List Char) := skipFiller (text.length + 1) text

def readKeyPart (text : List Char) : Except Failure (List Char × List Char) :=
  match text with
  | '\'' :: rest => readLiteral rest
  | '"' :: rest => readBasic rest
  | c :: _ =>
    if isBareKey c then .ok (text.takeWhile isBareKey, text.dropWhile isBareKey)
    else fail .badKeyStart text
  | [] => fail .badKeyStart []

def readKeyFrom : Nat → List Char → Except Failure (Name × List Char)
  | 0, text => fail .badKeyStart text
  | fuel + 1, text => do
    let (part, rest) ← readKeyPart text
    match skipSpace rest with
    | '.' :: more =>
      let (parts, left) ← readKeyFrom fuel (skipSpace more)
      return (part :: parts, left)
    | left => return ([part], left)

def readKey (text : List Char) : Except Failure (Name × List Char) :=
  readKeyFrom (text.length + 1) text

def readText (result : Except Failure (List Char × List Char)) :
    Except Failure (Setting × List Char) :=
  result.map fun (body, rest) => (.text (String.ofList body), rest)

def readScalar (text : List Char) : Except Failure (Setting × List Char) :=
  match takeMoment? text with
  | some (.ok moment, rest) => .ok (moment, rest)
  | some (.error cause, _) => fail cause text
  | none =>
    match takeTime? text with
    | some (time, rest) => .ok (.moment .time (String.ofList time), rest)
    | none =>
      match takeNumeric? text with
      | some (value, rest) => value.map (·, rest)
      | none =>
        match takeSpecial? text with
        | some (special, rest) => .ok (special, rest)
        | none => fail .invalidValue text

def isContainer : Setting → Bool
  | .list _ | .table _ => true
  | _ => false

mutual

def readValue : Nat → List Char → Except Failure (Setting × List Char)
  | 0, text => fail .invalidValue text
  | fuel + 1, text =>
    match text with
    | '"' :: '"' :: '"' :: rest => readText (readBasicLines rest)
    | '"' :: rest => readText (readBasic rest)
    | '\'' :: '\'' :: '\'' :: rest => readText (readLiteralLines rest)
    | '\'' :: rest => readText (readLiteral rest)
    | 't' :: 'r' :: 'u' :: 'e' :: rest => .ok (.bool true, rest)
    | 'f' :: 'a' :: 'l' :: 's' :: 'e' :: rest => .ok (.bool false, rest)
    | '[' :: rest => do
      match ← skipAll rest with
      | ']' :: left => return (.list [], left)
      | inner =>
        let (items, left) ← readItems fuel inner
        return (.list items, left)
    | '\x7b' :: rest =>
      match skipSpace rest with
      | '\x7d' :: left => .ok (.table [], left)
      | inner => (readInline fuel [] [] inner).map fun (members, left) => (.table members, left)
    | other => readScalar other

def readItems : Nat → List Char → Except Failure (List Setting × List Char)
  | 0, text => fail .unclosedArray text
  | fuel + 1, text => do
    let (item, rest) ← readValue fuel text
    match ← skipAll rest with
    | ']' :: left => return ([item], left)
    | ',' :: more =>
      match ← skipAll more with
      | ']' :: left => return ([item], left)
      | inner =>
        let (items, left) ← readItems fuel inner
        return (item :: items, left)
    | left => fail .unclosedArray left

def readInline : Nat → Marks → Members → List Char → Except Failure (Members × List Char)
  | 0, _, _, text => fail .unclosedTable text
  | fuel + 1, marks, members, text => do
    let (name, value, rest) ← readPair fuel text
    if isMarked marks .frozen name then fail (.immutable name) rest
    let stem := name.getLast?.getD []
    match tableAt? false name.dropLast members with
    | none => fail .overwritten rest
    | some nest =>
      if (nest.lookup (keyOf stem)).isSome then fail (.duplicateInline stem) rest
    let change (nest : Members) : Option Members := some (putMember (keyOf stem) value nest)
    match changeAt false change name.dropLast members with
    | none => fail .overwritten rest
    | some members =>
      match skipSpace rest with
      | '\x7d' :: left => return (members, left)
      | ',' :: more =>
        let marks := if isContainer value then (name, MarkKind.frozen) :: marks else marks
        readInline fuel marks members (skipSpace more)
      | left => fail .unclosedTable left

def readPair : Nat → List Char → Except Failure (Name × Setting × List Char)
  | 0, text => fail .invalidValue text
  | fuel + 1, text => do
    let (name, rest) ← readKey text
    match rest with
    | '=' :: more =>
      let (value, left) ← readValue fuel (skipSpace more)
      return (name, value, left)
    | _ => fail .missingEquals rest

end

/-- The tables so far, the marks, those that wait for the next header, and the open table. -/
structure Draft where
  members : Members
  marks : Marks
  waiting : Marks
  header : Name

def Draft.empty : Draft := ⟨[], [], [], []⟩

def pathNames (header name : Name) : List Name :=
  (List.range (name.length - 1)).map fun k => header ++ name.take (k + 1)

def Draft.addPair (d : Draft) (text : List Char) : Except Failure (Draft × List Char) := do
  let (name, value, rest) ← readPair (text.length + 1) text
  let path := pathNames d.header name
  let parent := d.header ++ name.dropLast
  let stem := keyOf (name.getLast?.getD [])
  match path.find? (isMarked d.marks .declared) with
  | some declared => fail (.redefined declared) rest
  | none =>
    if isMarked d.marks .frozen parent then fail (.immutable parent) rest
    match tableAt? true parent d.members with
    | none => fail .overwritten rest
    | some nest =>
      if (nest.lookup stem).isSome then fail .overwritten rest
      let change (nest : Members) : Option Members := some (putMember stem value nest)
      match changeAt true change parent d.members with
      | none => fail .overwritten rest
      | some members =>
        let marks := if isContainer value then (d.header ++ name, MarkKind.frozen) :: d.marks
          else d.marks
        return ({ d with members, marks, waiting := path.map (·, .declared) ++ d.waiting }, rest)

def Draft.openTable (d : Draft) (text : List Char) : Except Failure (Draft × List Char) := do
  let (name, rest) ← readKey (skipSpace text)
  if isMarked d.marks .declared name || isMarked d.marks .frozen name then
    fail (.declaredTwice name) rest
  match changeAt true some name d.members with
  | none => fail .overwritten rest
  | some members =>
    match rest with
    | ']' :: left =>
      return ({ d with members, marks := (name, .declared) :: d.marks, header := name }, left)
    | _ => fail (.expected "']' at the end of a table declaration") rest

def Draft.openItem (d : Draft) (text : List Char) : Except Failure (Draft × List Char) := do
  let (name, rest) ← readKey (skipSpace text)
  if isMarked d.marks .frozen name then fail (.immutable name) rest
  let marks := (name, MarkKind.declared) :: unmark d.marks name
  match appendTable name d.members with
  | none => fail .overwritten rest
  | some members =>
    match rest with
    | ']' :: ']' :: left => return ({ d with members, marks, header := name }, left)
    | _ => fail (.expected "']]' at the end of an array declaration") rest

def isKeyStart (c : Char) : Bool := isBareKey c || c == '\'' || c == '"'

def Draft.addStatement (d : Draft) (text : List Char) : Except Failure (Draft × List Char) :=
  match text with
  | [] => .ok (d, [])
  | c :: rest =>
    if isKeyStart c then d.addPair text
    else if c = '[' then
      let settled := { d with marks := d.waiting ++ d.marks, waiting := [] }
      match rest with
      | '[' :: more => settled.openItem more
      | _ => settled.openTable rest
    else if c = '#' then .ok (d, text)
    else fail .invalidStatement text

def readStatements : Nat → Draft → List Char → Except Failure Draft
  | 0, d, _ => .ok d
  | fuel + 1, d, text =>
    match skipSpace text with
    | [] => .ok d
    | '\n' :: rest => readStatements fuel d rest
    | statement => do
      let (d, rest) ← d.addStatement statement
      match ← skipComment (skipSpace rest) with
      | [] => return d
      | '\n' :: left => readStatements fuel d left
      | left => fail .trailing left

def joinLineEnds : List Char → List Char
  | '\r' :: '\n' :: rest => '\n' :: joinLineEnds rest
  | c :: rest => c :: joinLineEnds rest
  | [] => []

def read (text : List Char) : Except String Members :=
  let text := joinLineEnds text
  match readStatements (text.length + 1) Draft.empty text with
  | .ok d => .ok d.members
  | .error failure => .error (failure.message text)

end SourceCensus.Toml
