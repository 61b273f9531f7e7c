/-! A place in a text: what lies before it, nearest first, and what lies after it. The text itself
   never changes while a cursor moves. -/
namespace SourceCensus.Text

structure Cursor where
  before : List Char
  after : List Char
  /-- How many characters lie after it, kept so that it need not be counted. -/
  left : Nat := after.length
  left_eq : left = after.length := by rfl
  deriving DecidableEq, Repr

namespace Cursor

theorem ext_text {c d : Cursor} (before : c.before = d.before) (after : c.after = d.after) :
    c = d := by
  obtain ⟨_, _, left, left_eq⟩ := c
  obtain ⟨_, _, other, other_eq⟩ := d
  simp only at before after
  subst before after left_eq other_eq
  rfl

def start (text : List Char) : Cursor := { before := [], after := text }

def text (c : Cursor) : List Char := c.before.reverse ++ c.after

def position (c : Cursor) : Nat := c.before.length

def next (c : Cursor) : Cursor :=
  match ahead : c.after with
  | [] => c
  | x :: rest => ⟨x :: c.before, rest, c.left - 1, by simp [c.left_eq, ahead]⟩

def previous (c : Cursor) : Cursor :=
  match c.before with
  | [] => c
  | x :: rest => ⟨rest, x :: c.after, c.left + 1, by simp [c.left_eq]⟩

def forward : Nat → Cursor → Cursor
  | 0, c => c
  | n + 1, c => forward n c.next

def back : Nat → Cursor → Cursor
  | 0, c => c
  | n + 1, c => back n c.previous

@[simp] theorem text_start (text : List Char) : (start text).text = text := rfl

@[simp] theorem text_next (c : Cursor) : c.next.text = c.text := by
  unfold next
  split
  · rfl
  · rename_i ahead
    simp [text, ahead]

@[simp] theorem text_previous (c : Cursor) : c.previous.text = c.text := by
  obtain ⟨before, after, left, left_eq⟩ := c
  cases before <;> simp [previous, text]

@[simp] theorem text_forward (n : Nat) (c : Cursor) : (forward n c).text = c.text := by
  induction n generalizing c with
  | zero => rfl
  | succ n ih => simp [forward, ih]

@[simp] theorem text_back (n : Nat) (c : Cursor) : (back n c).text = c.text := by
  induction n generalizing c with
  | zero => rfl
  | succ n ih => simp [back, ih]

theorem length_after_next (c : Cursor) : c.next.after.length = c.after.length - 1 := by
  unfold next
  split
  · rename_i ahead
    simp [ahead]
  · rename_i ahead
    simp [ahead]

theorem length_after_forward (n : Nat) (c : Cursor) :
    (forward n c).after.length = c.after.length - n := by
  induction n generalizing c with
  | zero => rfl
  | succ n ih =>
    rw [forward, ih, length_after_next]
    omega

end Cursor

end SourceCensus.Text
