import SourceCensus.Literal.Scan

/-! A text with the bodies of its comments and string literals blanked. Delimiters and newlines stay,
   and every blanked character becomes one space, so places in both texts agree. -/
namespace SourceCensus.Literal
open Text

inductive Token
  | comment
  | literal (quote : Quote) (closed : Bool)
  | plain
  deriving DecidableEq, Repr

def blockCommentRest : List Char → Nat
  | [] => 0
  | '*' :: '/' :: _ => 2
  | _ :: rest => blockCommentRest rest + 1

def token (c : Cursor) : Token × Nat :=
  match c.after with
  | '/' :: '/' :: rest => (.comment, 2 + (rest.takeWhile (· != '\n')).length)
  | '/' :: '*' :: rest => (.comment, 2 + blockCommentRest rest)
  | after =>
    match quoteAt? after with
    | some quote =>
      let (later, closed) := skipLiteral quote c
      (.literal quote closed, c.left - later.left)
    | none => (.plain, 1)

theorem token_width_pos (c : Cursor) (more : c.after ≠ []) : 0 < (token c).2 := by
  unfold token
  split
  · simp only; omega
  · simp only; omega
  · split
    · have shorter := length_after_skipLiteral c more
      simp only [Cursor.left_eq]
      exact Nat.sub_pos_of_lt (shorter _)
    · simp only; omega

def blank (text : List Char) : List Char := text.map fun c => if c = '\n' then c else ' '

/-- A literal keeps its opening mark, and its closing mark if it has one. -/
def Token.shown (kind : Token) (text : List Char) : List Char :=
  match kind with
  | .plain => text
  | .comment => blank text
  | .literal quote closed =>
    let bodyEnd := if closed then text.length - quote.width else text.length
    text.take quote.width ++ blank ((text.take bodyEnd).drop quote.width) ++ text.drop bodyEnd

def stripFrom (c : Cursor) : List Char :=
  if _more : c.after = [] then []
  else
    let found := token c
    found.1.shown (c.after.take found.2) ++ stripFrom (c.forward found.2)
  termination_by c.after.length
  decreasing_by
    have text_left : 0 < c.after.length := List.length_pos_iff.mpr _more
    have width_pos := token_width_pos c _more
    rw [Cursor.length_after_forward]
    omega

def strip (text : List Char) : List Char := stripFrom (Cursor.start text)

end SourceCensus.Literal
