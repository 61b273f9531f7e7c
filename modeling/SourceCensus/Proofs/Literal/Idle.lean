import SourceCensus.Proofs.Literal.Grammar

/-! Bodies of literals in which no character has a meaning. The scan passes them whole, up to the closing
   delimiter or to where the literal breaks off. -/
namespace SourceCensus.Literal
open Text

/-- Neither closes a literal with the delimiter nor begins anything in it. -/
structure Quote.Idle (quote : Quote) (c : Char) : Prop where
  open_ : c ≠ quote.mark
  unescaped : c ≠ '\\'
  uninterpolated : c ≠ '$'
  line : quote.triple = false → c ≠ '\n'

theorem bodyStep_idle {quote : Quote} {x : Char} (idle : quote.Idle x) (raw : Bool)
    (rest : List Char) : bodyStep quote raw (x :: rest) = .skips 1 := by
  apply bodyStep_character
  · intro stands
    obtain ⟨others, chars⟩ := quote.chars_cons
    rw [chars] at stands
    exact idle.open_ (List.cons_prefix_cons.mp stands).1.symm
  · intro single
    apply idle.line
    rw [← Bool.not_eq_true]
    intro triple
    rw [quote.length_chars, Quote.width, if_pos triple] at single
    omega
  · intro _
    refine ⟨idle.unescaped, ?_⟩
    intro opens
    exact idle.uninterpolated (List.cons_prefix_cons.mp opens).1.symm

section
variable {quote : Quote} {body rest : List Char} {c : Cursor}

theorem settle_idle (idle : ∀ x ∈ body, quote.Idle x) (raw closed : Bool)
    (ahead : c.after = body ++ rest) :
    settle [.body quote raw] closed c = settle [.body quote raw] closed (c.forward body.length) := by
  induction body generalizing c with
  | nil => rfl
  | cons x body ih =>
    have more : c.after ≠ [] := by
      rw [ahead]
      exact List.cons_ne_nil x _
    have skips : step (.body quote raw) c = .skips 1 := by
      rw [step, ahead]
      exact bodyStep_idle (idle x List.mem_cons_self) raw _
    have next : (c.forward 1).after = body ++ rest := by
      rw [Cursor.after_forward, ahead]
      rfl
    have later := ih (fun y member => idle y (List.mem_cons_of_mem x member)) next
    rw [settle_skips [] closed more skips, settle_flag [] false closed, later,
      Cursor.forward_forward, List.length_cons, Nat.add_comm 1]

theorem skipLiteral_idle (idle : ∀ x ∈ body, quote.Idle x)
    (ahead : c.after = quote.chars ++ body ++ rest) :
    skipLiteral quote c = settle [.body quote (isRaw c.before)] false
        (c.forward (quote.chars ++ body).length) ∧
      (c.forward (quote.chars ++ body).length).after = rest := by
  have inner : (c.forward quote.width).after = body ++ rest := by
    rw [← quote.length_chars]
    exact Cursor.after_forward_left (ahead.trans (List.append_assoc _ _ _))
  have length : (quote.chars ++ body).length = quote.width + body.length := by
    rw [List.length_append, quote.length_chars]
  have settled := settle_idle idle (isRaw c.before) false inner
  rw [Cursor.forward_forward, ← length] at settled
  exact ⟨settled, Cursor.after_forward_left ahead⟩

theorem token_idle_closed (opens : quoteAt? c.after = some quote)
    (idle : ∀ x ∈ body, quote.Idle x)
    (ahead : c.after = quote.chars ++ body ++ quote.chars ++ rest) :
    token c = (.literal quote true, (quote.chars ++ body ++ quote.chars).length) := by
  obtain ⟨settled, behind⟩ := skipLiteral_idle idle (ahead.trans (List.append_assoc _ _ _))
  have more : (c.forward (quote.chars ++ body).length).after ≠ [] := by
    rw [behind]
    exact List.append_ne_nil_of_left_ne_nil (chars_ne_nil quote) rest
  have closes : step (.body quote (isRaw c.before)) (c.forward (quote.chars ++ body).length) =
      .closes quote.width := by
    rw [step, behind]
    exact bodyStep_of_stands (List.prefix_append quote.chars rest)
  have length : (quote.chars ++ body ++ quote.chars).length =
      (quote.chars ++ body).length + quote.width := by
    rw [← quote.length_chars]
    exact List.length_append
  have inside : (quote.chars ++ body ++ quote.chars).length ≤ c.after.length := by
    rw [ahead]
    exact (List.prefix_append _ rest).length_le
  rw [token_literal opens, settled, settle_closes [] false more closes, settle,
    Cursor.forward_forward, ← length, Cursor.left_sub_forward inside]

theorem token_idle_unclosed (opens : quoteAt? c.after = some quote)
    (idle : ∀ x ∈ body, quote.Idle x)
    (stop : rest = [] ∨ quote.triple = false ∧ rest.head? = some '\n')
    (ahead : c.after = quote.chars ++ body ++ rest) :
    token c = (.literal quote false, (quote.chars ++ body).length) := by
  obtain ⟨settled, behind⟩ := skipLiteral_idle idle ahead
  have left : settle [.body quote (isRaw c.before)] false
      (c.forward (quote.chars ++ body).length) =
        (c.forward (quote.chars ++ body).length, false) := by
    rcases stop with ends | ⟨single, newline⟩
    · exact settle_ends [] false (behind.trans ends)
    · have visible := (mark_ne_of_mem_quotes quote (quoteAt?_eq_some opens).1).2.1
      rw [← behind] at newline
      exact settle_newline single visible newline _ false
  have inside : (quote.chars ++ body).length ≤ c.after.length := by
    rw [ahead]
    exact (List.prefix_append _ rest).length_le
  rw [token_literal opens, settled, left, Cursor.left_sub_forward inside]

end

end SourceCensus.Literal
