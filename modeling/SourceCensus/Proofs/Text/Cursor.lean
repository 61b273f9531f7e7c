import SourceCensus.Text.Cursor

/-! A cursor that moves by several characters at once, and the cursor at a given place of a text. -/
namespace SourceCensus.Text

theorem drop_of_getElem? {text : List Char} {place : Nat} {c : Char}
    (here : text[place]? = some c) : text.drop place = c :: text.drop (place + 1) := by
  obtain ⟨inside, found⟩ := List.getElem?_eq_some_iff.mp here
  rw [List.drop_eq_getElem_cons inside, found]

theorem mem_take_drop_iff {text : List Char} {place width : Nat} {c : Char} :
    c ∈ (text.drop place).take width ↔ ∃ i, place ≤ i ∧ i < place + width ∧ text[i]? = some c := by
  rw [List.mem_iff_getElem?]
  constructor
  · rintro ⟨i, here⟩
    rw [List.getElem?_take] at here
    split at here
    · rw [List.getElem?_drop] at here
      exact ⟨place + i, by omega, by omega, here⟩
    · cases here
  · rintro ⟨i, after, before, here⟩
    refine ⟨i - place, ?_⟩
    rwa [List.getElem?_take_of_lt (by omega), List.getElem?_drop, Nat.add_sub_cancel' after]

namespace Cursor

theorem next_of_nil {c : Cursor} (ends : c.after = []) : c.next = c := by
  unfold next
  split
  · rfl
  · rename_i ahead
    simp [ends] at ahead

theorem next_of_cons {c : Cursor} {x : Char} {rest : List Char} (ahead : c.after = x :: rest) :
    c.next.before = x :: c.before ∧ c.next.after = rest := by
  unfold next
  split
  · rename_i ends
    simp [ahead] at ends
  · rename_i y others found
    obtain ⟨rfl, rfl⟩ := List.cons.inj (ahead.symm.trans found)
    exact ⟨rfl, rfl⟩

theorem after_forward (n : Nat) (c : Cursor) : (forward n c).after = c.after.drop n := by
  induction n generalizing c with
  | zero => rfl
  | succ n ih =>
    rw [forward, ih]
    cases ahead : c.after with
    | nil => rw [next_of_nil ahead, ahead]; simp
    | cons x rest => rw [(next_of_cons ahead).2]; rfl

theorem after_forward_left {taken rest : List Char} {c : Cursor} (ahead : c.after = taken ++ rest) :
    (forward taken.length c).after = rest := by
  rw [after_forward, ahead, List.drop_left]

theorem before_forward (n : Nat) (c : Cursor) :
    (forward n c).before = (c.after.take n).reverse ++ c.before := by
  induction n generalizing c with
  | zero => rfl
  | succ n ih =>
    rw [forward, ih]
    cases ahead : c.after with
    | nil => rw [next_of_nil ahead, ahead]; simp
    | cons x rest => rw [(next_of_cons ahead).1, (next_of_cons ahead).2]; simp

theorem forward_forward (m n : Nat) (c : Cursor) : forward n (forward m c) = forward (m + n) c := by
  induction m generalizing c with
  | zero => rw [Nat.zero_add]; rfl
  | succ m ih => rw [Nat.succ_add]; exact ih c.next

theorem forward_min (n : Nat) (c : Cursor) : forward (min n c.after.length) c = forward n c := by
  apply ext_text
  · rw [before_forward, before_forward, ← List.take_eq_take_min]
  · rw [after_forward, after_forward, ← List.drop_eq_drop_min]

theorem left_sub_forward {n : Nat} {c : Cursor} (inside : n ≤ c.after.length) :
    c.left - (forward n c).left = n := by
  rw [left_eq, left_eq, length_after_forward]
  omega

theorem forward_left (n : Nat) (c : Cursor) : forward (c.left - (forward n c).left) c = forward n c := by
  have shorter : c.left - (forward n c).left = min n c.after.length := by
    rw [left_eq, left_eq, length_after_forward]
    omega
  rw [shorter, forward_min]

/-- The cursor at a place of a text. -/
def within (text : List Char) (place : Nat) : Cursor := forward place (start text)

@[simp] theorem after_within (text : List Char) (place : Nat) :
    (within text place).after = text.drop place := after_forward place (start text)

@[simp] theorem before_within (text : List Char) (place : Nat) :
    (within text place).before = (text.take place).reverse := by
  rw [within, before_forward]
  exact List.append_nil _

theorem forward_within (text : List Char) (place n : Nat) :
    forward n (within text place) = within text (place + n) := forward_forward place n (start text)

theorem position_within_eq (text : List Char) (place : Nat) :
    (within text place).position = min place text.length := by
  simp [position]

theorem position_within {text : List Char} {place : Nat} (inside : place ≤ text.length) :
    (within text place).position = place := by
  rw [position_within_eq, Nat.min_eq_left inside]

end Cursor

end SourceCensus.Text
