import SourceCensus.Proofs.Literal.Strip

/-! Cursors with the same text ahead. Of what lies behind it the scan sees only whether a literal that
   opens there is raw, so two such cursors go on alike unless an r stands behind one of them. -/
namespace SourceCensus.Literal
open Text

/-- The same text ahead, and nothing behind that could make a later literal raw in one and not in the
    other. -/
structure Alike (c d : Cursor) : Prop where
  after : c.after = d.after
  raw : isRaw c.before = isRaw d.before
  rawNext : ∀ x, isRaw (x :: c.before) = isRaw (x :: d.before)

theorem alike_of_heads {c d : Cursor} {x : Char} {behind others : List Char}
    (first : c.before = x :: behind) (second : d.before = x :: others) (after : c.after = d.after)
    (lower : x ≠ 'r') (upper : x ≠ 'R') : Alike c d := by
  have plain (behind : List Char) : isRaw (x :: behind) = false := by
    cases behind <;> simp [isRaw, lower, upper]
  refine ⟨after, ?_, ?_⟩
  · rw [first, second, plain, plain]
  · intro y
    rw [first, second]
    rfl

theorem Alike.next {c d : Cursor} (alike : Alike c d) : Alike c.next d.next := by
  cases ahead : c.after with
  | nil =>
    rw [Cursor.next_of_nil ahead, Cursor.next_of_nil (alike.after ▸ ahead)]
    exact alike
  | cons x rest =>
    have first := Cursor.next_of_cons ahead
    have second := Cursor.next_of_cons (alike.after ▸ ahead)
    refine ⟨first.2.trans second.2.symm, ?_, ?_⟩
    · rw [first.1, second.1]
      exact alike.rawNext x
    · intro y
      rw [first.1, second.1]
      rfl

theorem Alike.forward {c d : Cursor} (alike : Alike c d) (n : Nat) :
    Alike (c.forward n) (d.forward n) := by
  induction n generalizing c d with
  | zero => exact alike
  | succ n ih => exact ih alike.next

theorem step_alike {c d : Cursor} (alike : Alike c d) (frame : Frame) :
    step frame c = step frame d := by
  cases frame with
  | body quote raw => rw [step, step, alike.after]
  | braces => rw [step, step, bracesStep, bracesStep, alike.after, alike.raw]

theorem settle_alike {c d : Cursor} (alike : Alike c d) (stack : List Frame) (closed : Bool) :
    Alike (settle stack closed c).1 (settle stack closed d).1 ∧
      (settle stack closed c).2 = (settle stack closed d).2 := by
  fun_induction settle stack closed c generalizing d with
  | case1 closed c =>
    rw [settle]
    exact ⟨alike, rfl⟩
  | case2 closed c frame outer ends =>
    rw [settle_ends outer closed (alike.after ▸ ends)]
    exact ⟨alike, rfl⟩
  | case3 closed c frame outer more width taken ih =>
    rw [step_alike alike] at taken
    rw [settle_closes outer closed (alike.after ▸ more) taken]
    exact ih (alike.forward width)
  | case4 closed c frame outer more width inner taken ih =>
    rw [step_alike alike] at taken
    rw [settle_opens outer closed (alike.after ▸ more) taken]
    exact ih (alike.forward width)
  | case5 closed c frame outer more width taken ih =>
    rw [step_alike alike] at taken
    rw [settle_skips outer closed (alike.after ▸ more) taken]
    exact ih (alike.forward width)
  | case6 closed c frame outer more taken ih =>
    rw [step_alike alike] at taken
    rw [settle_breaks outer closed (alike.after ▸ more) taken]
    exact ih alike

theorem token_alike {c d : Cursor} (alike : Alike c d) : token c = token d := by
  rcases text_cases c.after with ⟨rest, ahead⟩ | ⟨rest, ahead⟩ | ⟨quote, opens⟩ | plain
  · rw [token_line ahead, token_line (alike.after ▸ ahead)]
  · rw [token_block ahead, token_block (alike.after ▸ ahead)]
  · have later := settle_alike (alike.forward quote.width) [.body quote (isRaw c.before)] false
    rw [token_literal opens, token_literal (alike.after ▸ opens), skipLiteral, skipLiteral,
      ← alike.raw, later.2]
    simp only [Cursor.left_eq, alike.after, later.1.after]
  · rw [token_plain plain, token_plain (alike.after ▸ plain)]

theorem stripFrom_alike {c d : Cursor} (alike : Alike c d) : stripFrom c = stripFrom d := by
  fun_induction stripFrom c generalizing d with
  | case1 c ends => rw [stripFrom, dif_pos (alike.after ▸ ends)]
  | case2 c more found =>
    rename_i ih
    have same : token d = found := (token_alike alike).symm
    have ahead : d.after ≠ [] := alike.after ▸ more
    rw [stripFrom_step ahead, same, ← alike.after, ih (alike.forward found.2)]

end SourceCensus.Literal
