import SourceCensus.Pattern.Match

/-! All matches of a pattern in a text, from left to right, none inside another. The next search
   starts where the last match ended; after an empty match it has to move on. -/
namespace SourceCensus.Pattern
open Text

structure Match where
  start : Cursor
  stop : Cursor
  deriving DecidableEq, Repr

def Match.text (m : Match) : List Char :=
  m.start.after.take (m.start.left - m.stop.left)

def Match.isEmpty (m : Match) : Bool := m.start.left == m.stop.left

def matchAt? (node : Node) (c : Cursor) (moving : Bool) : Option Match :=
  (node.run ⟨c, []⟩ fun p =>
    if moving && p.left == c.left then none else some p).map fun p => ⟨c, p.cursor⟩

def search? (node : Node) (c : Cursor) (moving : Bool) : Option Match :=
  match matchAt? node c moving with
  | some found => some found
  | none => if _ends : c.after = [] then none else search? node c.next false
  termination_by c.after.length
  decreasing_by
    have text_left : 0 < c.after.length := List.length_pos_iff.mpr _ends
    have shorter := Cursor.length_after_forward 1 c
    simp only [Cursor.forward] at shorter
    omega

def searches (node : Node) : Nat → Cursor → Bool → List Match
  | 0, _, _ => []
  | fuel + 1, c, moving =>
    match search? node c moving with
    | none => []
    | some found => found :: searches node fuel found.stop found.isEmpty

/-- There are at most two matches for a place in the text, an empty one and another. -/
def findAll (node : Node) (text : List Char) : List Match :=
  searches node (2 * text.length + 2) (Cursor.start text) false

def eraseFrom : Cursor → List Match → List Char
  | c, [] => c.after
  | c, found :: rest =>
    c.after.take (c.left - found.start.left) ++ eraseFrom found.stop rest

def erase (node : Node) (text : List Char) : List Char :=
  eraseFrom (Cursor.start text) (findAll node text)

end SourceCensus.Pattern
