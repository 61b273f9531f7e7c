import SourceCensus.Block
import SourceCensus.Proofs.Literal.Alike
import SourceCensus.Proofs.Literal.Idle
import SourceCensus.Proofs.Literal.Seam

/-! Bodies of comments and of plain literals. Two bodies of one length, with newlines at the same
   places, leave no trace of which of them was there, whatever stands before and after them. -/
namespace SourceCensus.Literal
open Text

inductive Cover where
  | line
  | block
  | literal (mark : Char)

namespace Cover

def opening : Cover → List Char
  | .line => ['/', '/']
  | .block => ['/', '*']
  | .literal mark => [mark]

def closing : Cover → List Char
  | .line => ['\n']
  | .block => ['*', '/']
  | .literal mark => [mark]

/-- The bodies that neither end early nor mean anything inside. -/
def Hides : Cover → List Char → Prop
  | .line, body => '\n' ∉ body
  | .block, body => ∀ place < body.length, ¬ Stands (body ++ ['*', '/']) place ['*', '/']
  | .literal mark, body => (mark = '\'' ∨ mark = '"') ∧
      ∀ c ∈ body, c ≠ mark ∧ c ≠ '\\' ∧ c ≠ '$' ∧ c ≠ '\n'

def text (cover : Cover) (before body after : List Char) : List Char :=
  before ++ (cover.opening ++ body ++ cover.closing ++ after)

/-- What stripping shows of the body with its opening and its closing. -/
def shown : Cover → List Char → List Char
  | .literal mark, body => [mark] ++ blank body ++ [mark]
  | cover, body => blank (cover.opening ++ body ++ cover.closing)

end Cover

section
variable {body after : List Char} {c : Cursor}

theorem takeWhile_line (flat : '\n' ∉ body) :
    (body ++ '\n' :: after).takeWhile (· != '\n') = body := by
  have inside : ∀ x ∈ body, (x != '\n') = true := by
    intro x member
    rw [bne_iff_ne]
    rintro rfl
    exact flat member
  rw [List.takeWhile_append_of_pos inside, List.takeWhile_cons_of_neg (by decide), List.append_nil]

theorem stripFrom_line (flat : '\n' ∉ body) (ahead : c.after = '/' :: '/' :: (body ++ '\n' :: after)) :
    stripFrom c = Cover.line.shown body ++ stripFrom (c.forward (body.length + 3)) := by
  let taken := ['/', '/'] ++ body
  have length : taken.length = body.length + 2 := by simp [taken]
  have parts : c.after = taken ++ '\n' :: after := ahead
  have found : token c = (.comment, taken.length) := by
    rw [token_line ahead, takeWhile_line flat, length, Nat.add_comm]
  have plain : Plain ('\n' :: after) := plain_cons after (by decide) (by decide) (by decide)
  rw [stripFrom_taken (by simp [taken]) parts found,
    stripFrom_plain_cons (Cursor.after_forward_left parts) plain, Cursor.forward_forward, length]
  simp [taken, Token.shown, Cover.shown, Cover.opening, Cover.closing, blank]

theorem blockCommentRest_block
    (first : ∀ place < body.length, ¬ Stands (body ++ ['*', '/']) place ['*', '/']) :
    blockCommentRest (body ++ '*' :: '/' :: after) = body.length + 2 := by
  induction body with
  | nil => rfl
  | cons x body ih =>
    have early : ¬ (x = '*' ∧ (body ++ '*' :: '/' :: after).head? = some '/') := by
      rintro ⟨rfl, head⟩
      cases body with
      | nil => simp at head
      | cons y others =>
        obtain rfl : y = '/' := by simpa using head
        exact first 0 (Nat.zero_lt_succ _) ⟨others ++ ['*', '/'], rfl⟩
    have later : ∀ place < body.length, ¬ Stands (body ++ ['*', '/']) place ['*', '/'] :=
      fun place inside => first (place + 1) (Nat.succ_lt_succ inside)
    rw [List.cons_append, blockCommentRest_cons, if_neg early, ih later, List.length_cons]

theorem stripFrom_block
    (first : ∀ place < body.length, ¬ Stands (body ++ ['*', '/']) place ['*', '/'])
    (ahead : c.after = '/' :: '*' :: (body ++ '*' :: '/' :: after)) :
    stripFrom c = Cover.block.shown body ++ stripFrom (c.forward (body.length + 4)) := by
  let taken := ['/', '*'] ++ body ++ ['*', '/']
  have length : taken.length = body.length + 4 := by simp [taken]
  have parts : c.after = taken ++ after := by
    rw [ahead]
    simp [taken]
  have found : token c = (.comment, taken.length) := by
    rw [token_block ahead, blockCommentRest_block first, length]
    simp only [Prod.mk.injEq, true_and]
    omega
  rw [stripFrom_taken (by simp [taken]) parts found, length]
  rfl

theorem quoteAt?_single {mark x : Char} {rest : List Char} (quote : mark = '\'' ∨ mark = '"')
    (other : x ≠ mark) : quoteAt? (mark :: x :: rest) = some ⟨mark, false⟩ := by
  rcases quote with rfl | rfl <;> simp [quoteAt?, quotes, Quote.chars, other.symm]

theorem stripFrom_literal {mark : Char} (quote : mark = '\'' ∨ mark = '"')
    (inner : ∀ x ∈ body, x ≠ mark ∧ x ≠ '\\' ∧ x ≠ '$' ∧ x ≠ '\n') (visible : body ≠ [])
    (ahead : c.after = mark :: (body ++ mark :: after)) :
    stripFrom c = (Cover.literal mark).shown body ++ stripFrom (c.forward (body.length + 2)) := by
  have opens : quoteAt? c.after = some ⟨mark, false⟩ := by
    obtain ⟨x, others, rfl⟩ := List.exists_cons_of_ne_nil visible
    rw [ahead]
    exact quoteAt?_single quote (inner x List.mem_cons_self).1
  have idle : ∀ x ∈ body, Quote.Idle ⟨mark, false⟩ x := by
    intro x member
    obtain ⟨other, escape, dollar, newline⟩ := inner x member
    exact ⟨other, escape, dollar, fun _ => newline⟩
  let quote : Quote := ⟨mark, false⟩
  have parts : c.after = quote.chars ++ body ++ quote.chars ++ after := by
    rw [ahead]
    simp [quote, Quote.chars]
  have length : (quote.chars ++ body ++ quote.chars).length = body.length + 2 := by
    simp [quote, Quote.chars]
  have more : quote.chars ++ body ++ quote.chars ≠ [] := by simp [chars_ne_nil]
  rw [stripFrom_taken more parts (token_idle_closed opens idle parts), shown_closed, length]
  rfl

theorem stripFrom_hidden {cover : Cover} (hides : cover.Hides body) (visible : body ≠ [])
    (ahead : c.after = cover.opening ++ body ++ cover.closing ++ after) :
    stripFrom c = cover.shown body ++
      stripFrom (c.forward (cover.opening ++ body ++ cover.closing).length) := by
  cases cover with
  | line =>
    have whole : c.after = '/' :: '/' :: (body ++ '\n' :: after) := by
      rw [ahead]
      simp [Cover.opening, Cover.closing]
    rw [stripFrom_line hides whole]
    simp [Cover.opening, Cover.closing]
  | block =>
    have whole : c.after = '/' :: '*' :: (body ++ '*' :: '/' :: after) := by
      rw [ahead]
      simp [Cover.opening, Cover.closing]
    rw [stripFrom_block hides whole]
    simp [Cover.opening, Cover.closing]
  | literal mark =>
    have whole : c.after = mark :: (body ++ mark :: after) := by
      rw [ahead]
      simp [Cover.opening, Cover.closing]
    rw [stripFrom_literal hides.1 hides.2 visible whole]
    simp [Cover.opening, Cover.closing]

end

section
variable {cover : Cover} {first second : List Char}

theorem blank_eq_blank (length : first.length = second.length)
    (newlines : ∀ place : Nat, first[place]? = some '\n' ↔ second[place]? = some '\n') :
    blank first = blank second := by
  apply List.ext_getElem (by rw [length_blank, length_blank, length])
  intro place inside outside
  have same := newlines place
  rw [length_blank] at inside outside
  rw [List.getElem?_eq_getElem inside, List.getElem?_eq_getElem outside, Option.some.injEq,
    Option.some.injEq] at same
  simp only [blank, List.getElem_map]
  by_cases newline : first[place] = '\n'
  · rw [if_pos newline, if_pos (same.mp newline), newline, same.mp newline]
  · rw [if_neg newline, if_neg (same.not.mp newline)]

theorem shown_eq_shown (length : first.length = second.length)
    (newlines : ∀ place : Nat, first[place]? = some '\n' ↔ second[place]? = some '\n') :
    cover.shown first = cover.shown second := by
  have same := blank_eq_blank length newlines
  cases cover with
  | literal mark => rw [Cover.shown, Cover.shown, same]
  | line =>
    unfold blank at same
    simp only [Cover.shown, blank, List.map_append, same]
  | block =>
    unfold blank at same
    simp only [Cover.shown, blank, List.map_append, same]

theorem seam_of_hides (hides : cover.Hides first) (also : cover.Hides second)
    (visible : first ≠ []) (other : second ≠ []) (after : List Char) :
    Seam (cover.opening ++ first ++ cover.closing ++ after)
      (cover.opening ++ second ++ cover.closing ++ after) := by
  cases cover with
  | line => exact seam_cons (by simp)
  | block => exact seam_cons (by simp)
  | literal mark =>
    obtain ⟨x, others, rfl⟩ := List.exists_cons_of_ne_nil visible
    obtain ⟨y, rest, rfl⟩ := List.exists_cons_of_ne_nil other
    refine seam_cons fun _ => ⟨?_, ?_⟩
    · simpa using (hides.2 x List.mem_cons_self).1
    · simpa using (also.2 y List.mem_cons_self).1

theorem closing_last (hides : cover.Hides first) :
    ∃ inner x, cover.closing = inner ++ [x] ∧ x ≠ 'r' ∧ x ≠ 'R' := by
  cases cover with
  | line => exact ⟨[], '\n', rfl, by decide, by decide⟩
  | block => exact ⟨['*'], '/', rfl, by decide, by decide⟩
  | literal mark => rcases hides.1 with rfl | rfl <;> exact ⟨[], _, rfl, by decide, by decide⟩

theorem after_opening (before body after : List Char) :
    (Cursor.within (cover.text before body after) before.length).after =
      cover.opening ++ body ++ cover.closing ++ after := by
  rw [Cursor.after_within]
  exact List.drop_left

theorem alike_behind (hides : cover.Hides first) (before after : List Char) :
    Alike
      ((Cursor.within (cover.text before first after) before.length).forward
        (cover.opening ++ first ++ cover.closing).length)
      ((Cursor.within (cover.text before second after) before.length).forward
        (cover.opening ++ second ++ cover.closing).length) := by
  obtain ⟨inner, x, closing, lower, upper⟩ := closing_last hides
  have behind (body : List Char) :
      ((Cursor.within (cover.text before body after) before.length).forward
        (cover.opening ++ body ++ cover.closing).length).before =
      x :: (inner.reverse ++ body.reverse ++ cover.opening.reverse ++
        (Cursor.within (cover.text before body after) before.length).before) := by
    rw [Cursor.before_forward, after_opening, List.take_left, closing]
    simp
  refine alike_of_heads (behind first) (behind second) ?_ lower upper
  rw [Cursor.after_forward, Cursor.after_forward, after_opening, after_opening, List.drop_left,
    List.drop_left]

theorem strip_hidden (hides : cover.Hides first) (also : cover.Hides second)
    (length : first.length = second.length)
    (newlines : ∀ place : Nat, first[place]? = some '\n' ↔ second[place]? = some '\n')
    {before after : List Char} (start : TokenStart (cover.text before first after) before.length) :
    strip (cover.text before first after) = strip (cover.text before second after) := by
  by_cases empty : first = []
  · have none : second = [] := by
      rw [← List.length_eq_zero_iff, ← length, empty]
      rfl
    rw [empty, none]
  · have other : second ≠ [] := by
      rw [← List.length_pos_iff, ← length]
      exact List.length_pos_iff.mpr empty
    have seam := seam_of_hides hides also empty other after
    have later : TokenStart (cover.text before second after) before.length :=
      (strip_seam seam start (Nat.le_refl _)).1
    have before_opening := (strip_seam seam start (Nat.le_refl _)).2
    have from_opening : (strip (cover.text before first after)).drop before.length =
        (strip (cover.text before second after)).drop before.length := by
      rw [drop_strip start, drop_strip later,
        stripFrom_hidden hides empty (after_opening before first after),
        stripFrom_hidden also other (after_opening before second after),
        shown_eq_shown length newlines, stripFrom_alike (alike_behind hides before after)]
    calc strip (cover.text before first after)
        = (strip (cover.text before first after)).take before.length ++
            (strip (cover.text before first after)).drop before.length :=
          (List.take_append_drop _ _).symm
      _ = (strip (cover.text before second after)).take before.length ++
            (strip (cover.text before second after)).drop before.length := by
          rw [from_opening]
          exact congrArg (· ++ _) before_opening
      _ = strip (cover.text before second after) := List.take_append_drop _ _

end

/-- The stripped text depends on a hidden body by its length and its newlines alone, and so does
    every block found in it. -/
theorem hidden_bodies_unseen (cover : Cover) {before first second after : List Char}
    (hides : cover.Hides first) (also : cover.Hides second) (length : first.length = second.length)
    (newlines : ∀ place : Nat, first[place]? = some '\n' ↔ second[place]? = some '\n')
    (start : TokenStart (cover.text before first after) before.length) :
    strip (cover.text before first after) = strip (cover.text before second after) ∧
      ∀ pattern : Pattern, (Block.Scanner.mk pattern true).spans (cover.text before first after) =
        (Block.Scanner.mk pattern true).spans (cover.text before second after) := by
  have same := strip_hidden hides also length newlines start
  refine ⟨same, ?_⟩
  intro pattern
  simp only [Block.Scanner.spans, Block.Scanner.findings, Block.Scanner.prepare, ↓reduceIte, same]

theorem hidden_bodies_unseen_brace_and_quote :
    Cover.block.Hides ['\x7d', '\n', '"'] ∧ Cover.block.Hides ['\'', '\n', '/'] ∧
      TokenStart (Cover.block.text ['r'] ['\x7d', '\n', '"'] [';']) 1 ∧
      strip (Cover.block.text ['r'] ['\x7d', '\n', '"'] [';']) =
        strip (Cover.block.text ['r'] ['\'', '\n', '/'] [';']) ∧
      ∀ pattern : Pattern,
        (Block.Scanner.mk pattern true).spans (Cover.block.text ['r'] ['\x7d', '\n', '"'] [';']) =
          (Block.Scanner.mk pattern true).spans (Cover.block.text ['r'] ['\'', '\n', '/'] [';']) := by
  have hides : Cover.block.Hides ['\x7d', '\n', '"'] := by
    unfold Cover.Hides
    decide
  have also : Cover.block.Hides ['\'', '\n', '/'] := by
    unfold Cover.Hides
    decide
  have newlines (place : Nat) : ['\x7d', '\n', '"'][place]? = some '\n' ↔
      ['\'', '\n', '/'][place]? = some '\n' := by
    match place with
    | 0 => decide
    | 1 => decide
    | 2 => decide
    | n + 3 => simp
  have start : TokenStart (Cover.block.text ['r'] ['\x7d', '\n', '"'] [';']) 1 :=
    .next .first (by decide)
  exact ⟨hides, also, start, hidden_bodies_unseen .block hides also rfl newlines start⟩

end SourceCensus.Literal
