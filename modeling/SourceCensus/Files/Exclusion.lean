import SourceCensus.Fault
import SourceCensus.Files.Glob

/-! Patterns for paths to leave out. They come from settings of any type: a text stands for its
   characters and a table for its names, and a value that is no pattern is a fault once a path has to
   be compared with it. -/
namespace SourceCensus.Files

/-- What a value offers as patterns; a value that counts as false offers none. -/
def patternsOf (value : Setting) : Except Fault (List Setting) :=
  if !value.isTrue then .ok []
  else
    match value with
    | .list items => .ok items
    | .text characters => .ok (characters.toList.map fun c => .text (String.ofList [c]))
    | .table members => .ok (members.map fun member => .text member.1)
    | value => .error (.notIterable value.typeName)

def isSlash : Setting → Bool
  | .text text => text == "/"
  | _ => false

def notAPathPattern : Setting → Fault
  | .list items =>
    if (items.head?.map isSlash).getD false then .noMember "list" "lstrip"
    else if items.any isSlash then .noMember "list" "split"
    else .notAWord "list"
  | .table _ => .missingMember 0
  | value => .notSubscriptable value.typeName

/-- A pattern without parts matches nothing and is a fault. -/
def globOf (pattern : Setting) : Except Fault Path :=
  match pattern with
  | .text text =>
    let path := Path.ofString text
    if path.parts.isEmpty then .error .emptyGlob else .ok path
  | value => .error (if value.isTrue then notAPathPattern value else .emptyGlob)

/-- Whether one of the patterns matches. Those behind the first that does are not looked at. -/
def isExcluded (path : Path) : List Setting → Except Fault Bool
  | [] => .ok false
  | pattern :: rest => do
    if path.matchesPath (← globOf pattern) then return true
    else isExcluded path rest

def isExcludedBy (path : Path) (exclude : Setting) : Except Fault Bool := do
  isExcluded path (← patternsOf exclude)

end SourceCensus.Files
