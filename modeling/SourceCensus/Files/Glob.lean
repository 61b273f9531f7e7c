import SourceCensus.Files.Path

/-! Glob patterns for names and paths. In a name a star stands for any characters, a question mark
   for one, and brackets for one of a set. A relative path pattern is compared with the last names
   of a path, an absolute one with all of them. -/
namespace SourceCensus.Files

inductive Glob
  | star
  | any
  | never
  | one (c : Char)
  | set (negated : Bool) (members : List (Char × Char))
  deriving DecidableEq, Repr

/-- The pieces of a bracket text between the hyphens that stand for ranges: no hyphen among the first
   `skip` characters of a piece does. -/
def chunksFrom : Nat → Nat → List Char → List (List Char)
  | 0, _, text => [text]
  | fuel + 1, skip, text =>
    let head := text.take skip ++ (text.drop skip).takeWhile (· != '-')
    if head.length < text.length then
      head :: chunksFrom fuel 2 (text.drop (head.length + 1))
    else [text]

def closeChunks : List (List Char) → List (List Char)
  | [] => []
  | [chunk, []] => [chunk ++ ['-']]
  | chunk :: rest => chunk :: closeChunks rest

/-- Ranges that run backwards are left out, with both their ends. -/
def dropReversed (chunks : List (List Char)) : List (List Char) :=
  chunks.foldr (fun chunk later =>
    match later with
    | [] => [chunk]
    | next :: rest =>
      match chunk.getLast?, next.head? with
      | some low, some high =>
        if high < low then (chunk.dropLast ++ next.drop 1) :: rest else chunk :: next :: rest
      | _, _ => chunk :: next :: rest) []

def rangesBetween : List (List Char) → List (Char × Char)
  | chunk :: next :: rest =>
    match chunk.getLast?, next.head? with
    | some low, some high => (low, high) :: rangesBetween (next :: rest)
    | _, _ => rangesBetween (next :: rest)
  | _ => []

def bracketGlob (inside : List Char) : Glob :=
  let skip := if inside.head? = some '!' then 2 else 1
  let chunks := dropReversed (closeChunks (chunksFrom inside.length skip inside))
  let singles (text : List Char) := text.map fun c => (c, c)
  match chunks with
  | [[]] => .never
  | [['!']] => .any
  | ('!' :: first) :: rest =>
    .set true (singles (first ++ rest.flatten) ++ rangesBetween (('!' :: first) :: rest))
  | chunks => .set false (singles chunks.flatten ++ rangesBetween chunks)

/-- The length of the text between brackets: an exclamation mark and then a closing bracket may start
   it. None if no bracket closes it. -/
def bracketLength? (text : List Char) : Option Nat :=
  let mark := if text.head? = some '!' then 1 else 0
  let first := if (text.drop mark).head? = some ']' then mark + 1 else mark
  let length := first + ((text.drop first).takeWhile (· != ']')).length
  if length < text.length then some length else none

def globsOf : Nat → List Char → List Glob
  | 0, _ => []
  | _ + 1, [] => []
  | fuel + 1, c :: rest =>
    if c = '*' then .star :: globsOf fuel rest
    else if c = '?' then .any :: globsOf fuel rest
    else if c = '[' then
      match bracketLength? rest with
      | some length => bracketGlob (rest.take length) :: globsOf fuel (rest.drop (length + 1))
      | none => .one c :: globsOf fuel rest
    else .one c :: globsOf fuel rest

def Glob.holds (c : Char) : Glob → Bool
  | .star | .any => true
  | .never => false
  | .one d => c = d
  | .set negated members => members.any (fun (low, high) => low ≤ c && c ≤ high) != negated

def globMatches : List Glob → List Char → Bool
  | [], text => text.isEmpty
  | .star :: globs, [] => globMatches globs []
  | .star :: globs, c :: rest => globMatches globs (c :: rest) || globMatches (.star :: globs) rest
  | _ :: _, [] => false
  | glob :: globs, c :: rest => glob.holds c && globMatches globs rest
  termination_by globs text => globs.length + text.length

def nameMatches (pattern name : String) : Bool :=
  globMatches (globsOf (pattern.length + 1) pattern.toList) name.toList

def Path.matchesPath (p pattern : Path) : Bool :=
  let wanted := pattern.parts
  let held := p.parts
  if pattern.isAbsolute then
    pattern.root = p.root && wanted.length = held.length &&
      (List.zip pattern.names p.names).all fun (w, h) => nameMatches w h
  else
    wanted.length ≤ held.length &&
      (List.zip wanted.reverse held.reverse).all fun (w, h) => nameMatches w h

end SourceCensus.Files
