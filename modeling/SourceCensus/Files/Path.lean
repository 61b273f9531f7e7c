/-! Paths as text: a root, and the names below it. Empty names and single points are left out, two
   points stay. Exactly two slashes at the start are a root of their own. -/
namespace SourceCensus.Files

def splitAtSlash (text : List Char) : List (List Char) :=
  text.foldr (fun c pieces =>
    if c = '/' then [] :: pieces
    else match pieces with
      | piece :: rest => (c :: piece) :: rest
      | [] => [[c]]) [[]]

structure Path where
  root : String
  names : List String
  deriving DecidableEq, Repr

namespace Path

def namesOf (text : List Char) : List String :=
  ((splitAtSlash text).filter fun name => name ≠ [] && name ≠ ['.']).map String.ofList

def rootOf : List Char → String
  | '/' :: '/' :: '/' :: _ => "/"
  | '/' :: '/' :: _ => "//"
  | '/' :: _ => "/"
  | _ => ""

def ofString (text : String) : Path := ⟨rootOf text.toList, namesOf text.toList⟩

def isAbsolute (p : Path) : Bool := p.root ≠ ""

def toString (p : Path) : String :=
  let text := p.root ++ "/".intercalate p.names
  if text = "" then "." else text

/-- A later absolute path replaces an earlier one. -/
def join (p q : Path) : Path :=
  if q.isAbsolute then q else ⟨p.root, p.names ++ q.names⟩

def child (p : Path) (name : String) : Path := ⟨p.root, p.names ++ [name]⟩

def parts (p : Path) : List String := if p.root = "" then p.names else p.root :: p.names

def name (p : Path) : String := p.names.getLast?.getD ""

end Path

/-- What follows the last point of a name, the point included, unless that point is the first or the
   last character. -/
def suffixOf (name : List Char) : List Char :=
  let tail := (name.reverse.takeWhile (· != '.')).reverse
  let place := name.length - tail.length - 1
  if name.contains '.' && 0 < place && tail ≠ [] then '.' :: tail else []

def Path.suffix (p : Path) : String := String.ofList (suffixOf p.name.toList)

end SourceCensus.Files
