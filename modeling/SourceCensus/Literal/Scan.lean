import SourceCensus.Text.Alphanumeric
import SourceCensus.Text.Cursor

/-! String literals of a source text, and where they end. The scan keeps a stack of open frames:
   literals, and braces opened in an interpolation. It stops when the stack is empty, or at the end of
   the text with frames open. A one-mark literal also ends, unclosed, before the end of its line. -/
namespace SourceCensus.Literal
open Text

/-- A delimiter is one mark, or the mark three times. -/
structure Quote where
  mark : Char
  triple : Bool
  deriving DecidableEq, Repr

def Quote.chars (q : Quote) : List Char :=
  if q.triple then [q.mark, q.mark, q.mark] else [q.mark]

def Quote.width (q : Quote) : Nat := if q.triple then 3 else 1

@[simp] theorem Quote.length_chars (q : Quote) : q.chars.length = q.width := by
  unfold chars width; split <;> rfl

def quotes : List Quote := [⟨'\'', true⟩, ⟨'"', true⟩, ⟨'\'', false⟩, ⟨'"', false⟩]

def quoteAt? (text : List Char) : Option Quote := quotes.find? (·.chars.isPrefixOf text)

/-- Whether a literal opening here has no escapes and no interpolation: an r stands before it, and
   is not the tail of a name. -/
def isRaw (before : List Char) : Bool :=
  match before with
  | [] => false
  | [c] => c == 'r' || c == 'R'
  | c :: d :: _ => (c == 'r' || c == 'R') && !isWord d

inductive Frame
  | body (quote : Quote) (raw : Bool)
  | braces
  deriving DecidableEq, Repr

inductive Step
  | closes (width : Nat)
  | breaks
  | skips (width : Nat)
  | opens (width : Nat) (frame : Frame)
  deriving DecidableEq, Repr

def bodyStep (quote : Quote) (raw : Bool) (after : List Char) : Step :=
  if quote.chars.isPrefixOf after then .closes quote.width
  else match after with
    | '\n' :: _ => if quote.triple then .skips 1 else .breaks
    | '\\' :: _ => if raw then .skips 1 else .skips 2
    | '$' :: '{' :: _ => if raw then .skips 1 else .opens 2 .braces
    | _ => .skips 1

def bracesStep (c : Cursor) : Step :=
  match quoteAt? c.after with
  | some quote => .opens quote.width (.body quote (isRaw c.before))
  | none =>
    match c.after with
    | '{' :: _ => .opens 1 .braces
    | '}' :: _ => .closes 1
    | _ => .skips 1

def step (frame : Frame) (c : Cursor) : Step :=
  match frame with
  | .body quote raw => bodyStep quote raw c.after
  | .braces => bracesStep c

def Step.width : Step → Nat
  | .closes width | .skips width | .opens width _ => width
  | .breaks => 0

theorem Quote.width_pos (q : Quote) : 0 < q.width := by unfold width; split <;> decide

theorem step_width_pos (frame : Frame) (c : Cursor) :
    step frame c = .breaks ∨ 0 < (step frame c).width := by
  unfold step bodyStep bracesStep
  have width_pos := Quote.width_pos
  repeat' split
  all_goals simp [Step.width, width_pos]

/-- Where the scan leaves the last of the frames, and whether that frame met its own closing mark.
   The stack has the innermost frame first. -/
def settle (stack : List Frame) (closed : Bool) (c : Cursor) : Cursor × Bool :=
  match stack with
  | [] => (c, closed)
  | frame :: outer =>
    if _ends : c.after = [] then (c, false)
    else
      match _taken : step frame c with
      | .closes width => settle outer true (c.forward width)
      | .opens width inner => settle (inner :: frame :: outer) false (c.forward width)
      | .skips width => settle (frame :: outer) false (c.forward width)
      | .breaks => settle outer false c
  termination_by 2 * c.after.length + stack.length
  decreasing_by
    all_goals
      have text_left : 0 < c.after.length := List.length_pos_iff.mpr _ends
      have width_pos := step_width_pos frame c
      simp only [_taken, Step.width, reduceCtorEq, false_or] at width_pos
      simp only [Cursor.length_after_forward, List.length_cons]
      omega

/-- Past the literal that opens at the cursor with the given delimiter, and whether it is closed. -/
def skipLiteral (quote : Quote) (c : Cursor) : Cursor × Bool :=
  settle [.body quote (isRaw c.before)] false (c.forward quote.width)

def skipInterpolation (c : Cursor) : Cursor := (settle [.braces] false c).1

theorem length_after_settle (stack : List Frame) (closed : Bool) (c : Cursor) :
    (settle stack closed c).1.after.length ≤ c.after.length := by
  fun_induction settle stack closed c <;> simp_all [Cursor.length_after_forward] <;> omega

theorem length_after_skipLiteral (c : Cursor) (opens : c.after ≠ []) (quote : Quote) :
    (skipLiteral quote c).1.after.length < c.after.length := by
  have bound := length_after_settle [.body quote (isRaw c.before)] false (c.forward quote.width)
  have text_left : 0 < c.after.length := List.length_pos_iff.mpr opens
  have width_pos := quote.width_pos
  rw [Cursor.length_after_forward] at bound
  unfold skipLiteral
  omega

end SourceCensus.Literal
