import SourceCensus.Literal.Strip
import SourceCensus.Proofs.Text.Cursor

/-! The tokens of a text: what each of them takes, and the places at which one starts. -/
namespace SourceCensus.Literal
open Text

theorem quoteAt?_eq_some {text : List Char} {quote : Quote} (found : quoteAt? text = some quote) :
    quote ∈ quotes ∧ quote.chars <+: text := by
  refine ⟨List.mem_of_find?_eq_some found, ?_⟩
  simpa using List.find?_some found

theorem mark_of_mem_quotes {quote : Quote} (member : quote ∈ quotes) :
    quote.mark = '\'' ∨ quote.mark = '"' := by
  simp only [quotes, List.mem_cons, List.not_mem_nil, or_false] at member
  rcases member with rfl | rfl | rfl | rfl <;> simp

theorem mark_ne_of_mem_quotes :
    ∀ quote ∈ quotes, quote.mark ≠ ' ' ∧ quote.mark ≠ '\n' ∧ quote.mark ≠ '\\' := by decide

theorem Quote.chars_cons (quote : Quote) : ∃ rest, quote.chars = quote.mark :: rest := by
  unfold chars
  split
  · exact ⟨[quote.mark, quote.mark], rfl⟩
  · exact ⟨[], rfl⟩

theorem quoteAt?_cons_none {c : Char} (rest : List Char) (single : c ≠ '\'') (double : c ≠ '"') :
    quoteAt? (c :: rest) = none := by
  rw [quoteAt?, List.find?_eq_none]
  intro quote member opens
  obtain ⟨others, chars⟩ := quote.chars_cons
  rw [chars, List.isPrefixOf_iff_prefix, List.cons_prefix_cons] at opens
  rcases mark_of_mem_quotes member with mark | mark
  · exact single (opens.1.symm.trans mark)
  · exact double (opens.1.symm.trans mark)

/-- A body sees its delimiter and two characters. -/
theorem bodyStep_eq (quote : Quote) (raw : Bool) (after : List Char) :
    bodyStep quote raw after =
      if quote.chars.isPrefixOf after then .closes quote.width
      else if after.head? = some '\n' then if quote.triple then .skips 1 else .breaks
      else if after.head? = some '\\' then if raw then .skips 1 else .skips 2
      else if after.head? = some '$' ∧ after.tail.head? = some '{' then
        if raw then .skips 1 else .opens 2 .braces
      else .skips 1 := by
  unfold bodyStep
  split
  · rfl
  · split
    · rfl
    · rfl
    · rfl
    · rename_i newline backslash brace
      cases after with
      | nil => rfl
      | cons x rest =>
        cases rest with
        | nil => simp_all
        | cons y others => simp_all

theorem bracesStep_eq (c : Cursor) :
    bracesStep c =
      match quoteAt? c.after with
      | some quote => .opens quote.width (.body quote (isRaw c.before))
      | none =>
        if c.after.head? = some '{' then .opens 1 .braces
        else if c.after.head? = some '}' then .closes 1
        else .skips 1 := by
  unfold bracesStep
  cases quoteAt? c.after with
  | some quote => rfl
  | none =>
    dsimp only
    split
    · rename_i ahead
      rw [ahead]
      rfl
    · rename_i ahead
      rw [ahead]
      rfl
    · rename_i opening closing
      cases ahead : c.after with
      | nil => rfl
      | cons x rest => simp_all

section
variable {frame inner : Frame} (outer : List Frame) (closed : Bool) {c : Cursor} {width : Nat}

/-- A scan with a frame open does not look at how the last one was left. -/
theorem settle_flag (also : Bool) :
    settle (frame :: outer) closed c = settle (frame :: outer) also c := by
  rw [settle, settle]

theorem settle_ends (ends : c.after = []) : settle (frame :: outer) closed c = (c, false) := by
  rw [settle, dif_pos ends]

theorem settle_closes (more : c.after ≠ []) (closes : step frame c = .closes width) :
    settle (frame :: outer) closed c = settle outer true (c.forward width) := by
  rw [settle, dif_neg more]
  split <;> simp_all

theorem settle_opens (more : c.after ≠ []) (opens : step frame c = .opens width inner) :
    settle (frame :: outer) closed c = settle (inner :: frame :: outer) false (c.forward width) := by
  rw [settle, dif_neg more]
  split <;> simp_all

theorem settle_skips (more : c.after ≠ []) (skips : step frame c = .skips width) :
    settle (frame :: outer) closed c = settle (frame :: outer) false (c.forward width) := by
  rw [settle, dif_neg more]
  split <;> simp_all

theorem settle_breaks (more : c.after ≠ []) (breaks : step frame c = .breaks) :
    settle (frame :: outer) closed c = settle outer false c := by
  rw [settle, dif_neg more]
  split <;> simp_all

end

theorem settle_forward (stack : List Frame) (closed : Bool) (c : Cursor) :
    ∃ n, (settle stack closed c).1 = c.forward n := by
  fun_induction settle stack closed c with
  | case1 => exact ⟨0, rfl⟩
  | case2 => exact ⟨0, rfl⟩
  | case3 closed c frame outer _ width _ ih =>
    obtain ⟨n, moved⟩ := ih
    exact ⟨width + n, moved.trans (Cursor.forward_forward width n c)⟩
  | case4 closed c frame outer _ width inner _ ih =>
    obtain ⟨n, moved⟩ := ih
    exact ⟨width + n, moved.trans (Cursor.forward_forward width n c)⟩
  | case5 closed c frame outer _ width _ ih =>
    obtain ⟨n, moved⟩ := ih
    exact ⟨width + n, moved.trans (Cursor.forward_forward width n c)⟩
  | case6 _ _ _ _ _ _ ih => exact ih

theorem skipLiteral_forward (quote : Quote) (c : Cursor) :
    ∃ n, (skipLiteral quote c).1 = c.forward (quote.width + n) := by
  obtain ⟨n, moved⟩ := settle_forward [.body quote (isRaw c.before)] false (c.forward quote.width)
  exact ⟨n, moved.trans (Cursor.forward_forward quote.width n c)⟩

theorem token_line {c : Cursor} {rest : List Char} (ahead : c.after = '/' :: '/' :: rest) :
    token c = (.comment, 2 + (rest.takeWhile (· != '\n')).length) := by
  rw [token, ahead]
  rfl

theorem token_block {c : Cursor} {rest : List Char} (ahead : c.after = '/' :: '*' :: rest) :
    token c = (.comment, 2 + blockCommentRest rest) := by
  rw [token, ahead]
  rfl

theorem token_literal {c : Cursor} {quote : Quote} (opens : quoteAt? c.after = some quote) :
    token c = (.literal quote (skipLiteral quote c).2, c.left - (skipLiteral quote c).1.left) := by
  unfold token
  split
  · rename_i ahead
    rw [ahead, quoteAt?_cons_none _ (by decide) (by decide)] at opens
    contradiction
  · rename_i ahead
    rw [ahead, quoteAt?_cons_none _ (by decide) (by decide)] at opens
    contradiction
  · rw [opens]

def Plain (text : List Char) : Prop :=
  quoteAt? text = none ∧ ∀ rest, text ≠ '/' :: '/' :: rest ∧ text ≠ '/' :: '*' :: rest

theorem plain_cons {c : Char} (rest : List Char) (single : c ≠ '\'') (double : c ≠ '"')
    (slash : c ≠ '/') : Plain (c :: rest) := by
  refine ⟨quoteAt?_cons_none rest single double, ?_⟩
  intro others
  constructor
  · intro line
    exact slash (List.cons.inj line).1
  · intro block
    exact slash (List.cons.inj block).1

theorem token_plain {c : Cursor} (plain : Plain c.after) : token c = (.plain, 1) := by
  unfold token
  split
  · rename_i rest ahead
    exact absurd ahead (plain.2 rest).1
  · rename_i rest ahead
    exact absurd ahead (plain.2 rest).2
  · rw [plain.1]

theorem text_cases (text : List Char) :
    (∃ rest, text = '/' :: '/' :: rest) ∨ (∃ rest, text = '/' :: '*' :: rest) ∨
      (∃ quote, quoteAt? text = some quote) ∨ Plain text := by
  by_cases line : ∃ rest, text = '/' :: '/' :: rest
  · exact Or.inl line
  · by_cases block : ∃ rest, text = '/' :: '*' :: rest
    · exact Or.inr (Or.inl block)
    · refine Or.inr (Or.inr ?_)
      cases opens : quoteAt? text with
      | some quote => exact Or.inl ⟨quote, rfl⟩
      | none => exact Or.inr ⟨opens, fun rest =>
          ⟨fun ahead => line ⟨rest, ahead⟩, fun ahead => block ⟨rest, ahead⟩⟩⟩

theorem width_of_plain {c : Cursor} (plain : (token c).1 = .plain) : (token c).2 = 1 := by
  rcases text_cases c.after with ⟨rest, ahead⟩ | ⟨rest, ahead⟩ | ⟨quote, opens⟩ | none
  · rw [token_line ahead] at plain
    cases plain
  · rw [token_block ahead] at plain
    cases plain
  · rw [token_literal opens] at plain
    cases plain
  · rw [token_plain none]

theorem forward_token_literal {c : Cursor} {quote : Quote} (opens : quoteAt? c.after = some quote) :
    c.forward (token c).2 = (skipLiteral quote c).1 := by
  obtain ⟨n, moved⟩ := skipLiteral_forward quote c
  rw [token_literal opens, moved]
  exact Cursor.forward_left (quote.width + n) c

theorem blockCommentRest_le (text : List Char) : blockCommentRest text ≤ text.length := by
  fun_induction blockCommentRest text with
  | case1 => exact Nat.le_refl 0
  | case2 rest => simp
  | case3 c rest _ ih => simpa using ih

theorem token_width_le (c : Cursor) (more : c.after ≠ []) : (token c).2 ≤ c.after.length := by
  rcases text_cases c.after with ⟨rest, ahead⟩ | ⟨rest, ahead⟩ | ⟨quote, opens⟩ | plain
  · have bound := (List.takeWhile_prefix (l := rest) (· != '\n')).length_le
    rw [token_line ahead, ahead]
    simp only [List.length_cons]
    omega
  · have bound := blockCommentRest_le rest
    rw [token_block ahead, ahead]
    simp only [List.length_cons]
    omega
  · rw [token_literal opens, ← c.left_eq]
    exact Nat.sub_le _ _
  · rw [token_plain plain]
    exact List.length_pos_iff.mpr more

def tokenEnd (text : List Char) (place : Nat) : Nat := place + (token (Cursor.within text place)).2

/-- The scan of a text from token to token comes by this place. -/
inductive TokenStart (text : List Char) : Nat → Prop where
  | first : TokenStart text 0
  | next {place : Nat} (earlier : TokenStart text place) (more : place < text.length) :
      TokenStart text (tokenEnd text place)

theorem within_ne_nil {text : List Char} {place : Nat} (more : place < text.length) :
    (Cursor.within text place).after ≠ [] := by
  rw [Cursor.after_within]
  exact fun ends => absurd (List.drop_eq_nil_iff.mp ends) (by omega)

theorem tokenEnd_le {text : List Char} {place : Nat} (more : place < text.length) :
    tokenEnd text place ≤ text.length := by
  have bound := token_width_le _ (within_ne_nil more)
  rw [Cursor.after_within, List.length_drop] at bound
  unfold tokenEnd
  omega

theorem lt_tokenEnd {text : List Char} {place : Nat} (more : place < text.length) :
    place < tokenEnd text place := by
  have width := token_width_pos _ (within_ne_nil more)
  unfold tokenEnd
  omega

end SourceCensus.Literal
