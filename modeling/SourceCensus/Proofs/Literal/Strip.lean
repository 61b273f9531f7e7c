import Mathlib.Data.List.Forall2
import SourceCensus.Proofs.Literal.Token

/-! A stripped text beside the text it comes from: place for place the same character, or a space for
   one that is no newline. Up to a place at which a token starts, only the tokens before it matter. -/
namespace SourceCensus.Literal
open Text

/-- What may be shown for a character of the text. -/
def Veils (shown c : Char) : Prop := shown = c ∨ (shown = ' ' ∧ c ≠ '\n')

theorem veils_refl (text : List Char) : List.Forall₂ Veils text text :=
  List.forall₂_same.mpr fun _ _ => Or.inl rfl

theorem veils_blank (text : List Char) : List.Forall₂ Veils (blank text) text := by
  rw [blank, List.forall₂_map_left_iff]
  apply List.forall₂_same.mpr
  intro c _
  by_cases newline : c = '\n'
  · exact Or.inl (if_pos newline)
  · exact Or.inr ⟨if_neg newline, newline⟩

theorem veils_append {shown text others rest : List Char} (first : List.Forall₂ Veils shown text)
    (second : List.Forall₂ Veils others rest) :
    List.Forall₂ Veils (shown ++ others) (text ++ rest) := List.rel_append first second

theorem getElem?_of_veils {shown text : List Char} (veiled : List.Forall₂ Veils shown text)
    (place : Nat) : shown[place]? = text[place]? ∨
      (shown[place]? = some ' ' ∧ place < text.length ∧ text[place]? ≠ some '\n') := by
  induction veiled generalizing place with
  | nil => exact Or.inl rfl
  | @cons a b as bs head _ ih =>
    cases place with
    | zero =>
      rcases head with same | ⟨space, visible⟩
      · exact Or.inl (by rw [same]; rfl)
      · exact Or.inr ⟨by rw [space]; rfl, Nat.zero_lt_succ _, by simpa using visible⟩
    | succ place => simpa using ih place

theorem prefix_of_veils {shown text word : List Char} (veiled : List.Forall₂ Veils shown text)
    (stands : word <+: shown) (solid : ∀ c ∈ word, c ≠ ' ') : word <+: text := by
  induction veiled generalizing word with
  | nil => exact stands
  | @cons a b shown text head _ ih =>
    cases word with
    | nil => exact List.nil_prefix
    | cons c rest =>
      obtain ⟨rfl, later⟩ := List.cons_prefix_cons.mp stands
      have visible := solid c List.mem_cons_self
      rcases head with same | ⟨space, _⟩
      · exact List.cons_prefix_cons.mpr
          ⟨same, ih later fun d member => solid d (List.mem_cons_of_mem c member)⟩
      · exact absurd space visible

theorem bodyStep_closes {quote : Quote} {raw : Bool} {after : List Char} {width : Nat}
    (closes : bodyStep quote raw after = .closes width) :
    width = quote.width ∧ quote.chars <+: after := by
  unfold bodyStep at closes
  split at closes
  · rename_i stands
    exact ⟨(Step.closes.inj closes).symm, List.isPrefixOf_iff_prefix.mp stands⟩
  · split at closes
    · split at closes <;> cases closes
    · split at closes <;> cases closes
    · split at closes <;> cases closes
    · cases closes

theorem bodyStep_breaks_iff (quote : Quote) (raw : Bool) (after : List Char) :
    bodyStep quote raw after = .breaks ↔
      quote.triple = false ∧ quote.mark ≠ '\n' ∧ after.head? = some '\n' := by
  have stands (single : quote.triple = false) (newline : after.head? = some '\n') :
      quote.chars.isPrefixOf after = true ↔ quote.mark = '\n' := by
    obtain ⟨rest, rfl⟩ := List.head?_eq_some_iff.mp newline
    simp [Quote.chars, single]
  rw [bodyStep_eq]
  constructor
  · intro breaks
    repeat' split at breaks
    all_goals try cases breaks
    rename_i unclosed newline triple
    have single : quote.triple = false := by simpa using triple
    exact ⟨single, fun mark => unclosed ((stands single newline).mpr mark), newline⟩
  · rintro ⟨single, mark, newline⟩
    have unclosed := (stands single newline).not.mpr mark
    rw [if_neg unclosed, if_pos newline, single, if_neg Bool.false_ne_true]

theorem settle_newline {quote : Quote} {c : Cursor} (single : quote.triple = false)
    (visible : quote.mark ≠ '\n') (newline : c.after.head? = some '\n') (raw closed : Bool) :
    settle [.body quote raw] closed c = (c, false) := by
  have more : c.after ≠ [] := by
    intro ends
    rw [ends] at newline
    cases newline
  have breaks : step (.body quote raw) c = .breaks :=
    (bodyStep_breaks_iff quote raw c.after).mpr ⟨single, visible, newline⟩
  rw [settle_breaks [] closed more breaks, settle]

/-- The frame at the bottom of the stack is the last one to be settled. -/
theorem settle_closes_last {quote : Quote} {raw : Bool} (stack : List Frame) (closed : Bool)
    (c : Cursor) (last : stack.getLast? = some (.body quote raw))
    (ended : (settle stack closed c).2 = true) :
    ∃ n, (settle stack closed c).1 = c.forward (n + quote.width) ∧
      quote.chars <+: (c.forward n).after := by
  have later {c d : Cursor} {width : Nat}
      (found : ∃ n, d = (c.forward width).forward (n + quote.width) ∧
        quote.chars <+: ((c.forward width).forward n).after) :
      ∃ n, d = c.forward (n + quote.width) ∧ quote.chars <+: (c.forward n).after := by
    obtain ⟨n, moved, stands⟩ := found
    rw [Cursor.forward_forward] at moved stands
    exact ⟨width + n, by rw [moved, Nat.add_assoc], stands⟩
  fun_induction settle stack closed c with
  | case1 => simp at last
  | case2 => cases ended
  | case3 closed c frame outer _ width taken ih =>
    cases outer with
    | cons next others => exact later (ih (by simpa using last) ended)
    | nil =>
      obtain rfl : frame = .body quote raw := by simpa using last
      obtain ⟨rfl, stands⟩ := bodyStep_closes taken
      rw [settle]
      exact ⟨0, by rw [Nat.zero_add], stands⟩
  | case4 closed c frame outer _ width inner _ ih => exact later (ih (by simpa using last) ended)
  | case5 closed c frame outer _ width _ ih => exact later (ih last ended)
  | case6 closed c frame outer _ taken ih =>
    cases outer with
    | cons next others => exact ih (by simpa using last) ended
    | nil =>
      rw [settle] at ended
      cases ended

theorem settle_breaks_last {quote : Quote} {raw : Bool} (stack : List Frame) (closed : Bool)
    (c : Cursor) (last : stack.getLast? = some (.body quote raw))
    (ended : (settle stack closed c).2 = false) :
    (settle stack closed c).1.after = [] ∨
      quote.triple = false ∧ (settle stack closed c).1.after.head? = some '\n' := by
  fun_induction settle stack closed c with
  | case1 => simp at last
  | case2 closed c frame outer ends => exact Or.inl ends
  | case3 closed c frame outer _ width taken ih =>
    cases outer with
    | cons next others => exact ih (by simpa using last) ended
    | nil =>
      rw [settle] at ended
      cases ended
  | case4 closed c frame outer _ width inner _ ih => exact ih (by simpa using last) ended
  | case5 closed c frame outer _ width _ ih => exact ih last ended
  | case6 closed c frame outer _ taken ih =>
    cases outer with
    | cons next others => exact ih (by simpa using last) ended
    | nil =>
      obtain rfl : frame = .body quote raw := by simpa using last
      have breaks := (bodyStep_breaks_iff quote raw c.after).mp taken
      rw [settle]
      exact Or.inr ⟨breaks.1, breaks.2.2⟩

theorem closed_literal_shape {c : Cursor} {quote : Quote} (opens : quoteAt? c.after = some quote)
    (closed : (skipLiteral quote c).2 = true) :
    ∃ body, (skipLiteral quote c).1 = c.forward (2 * quote.width + body.length) ∧
      quote.chars ++ body ++ quote.chars <+: c.after := by
  obtain ⟨n, moved, stands⟩ := settle_closes_last [.body quote (isRaw c.before)] false
    (c.forward quote.width) rfl closed
  rw [Cursor.forward_forward] at moved stands
  rw [Cursor.after_forward] at stands
  obtain ⟨inner, ahead⟩ := (quoteAt?_eq_some opens).2
  have inside : c.after.drop (quote.width + n) = inner.drop n := by
    rw [← ahead, ← List.drop_drop, ← quote.length_chars, List.drop_left]
  rw [inside] at stands
  have bound := stands.length_le
  rw [quote.length_chars, List.length_drop] at bound
  have width_pos := quote.width_pos
  have body_length : (inner.take n).length = n := by
    rw [List.length_take]
    omega
  refine ⟨inner.take n, ?_, ?_⟩
  · rw [skipLiteral, moved, body_length]
    congr 1
    omega
  · rw [← ahead, List.append_assoc, List.prefix_append_right_inj]
    obtain ⟨rest, behind⟩ := stands
    exact ⟨rest, by rw [List.append_assoc, behind, List.take_append_drop]⟩

theorem unclosed_literal_stop {quote : Quote} {c : Cursor}
    (unclosed : (skipLiteral quote c).2 = false) :
    (skipLiteral quote c).1.after = [] ∨
      quote.triple = false ∧ (skipLiteral quote c).1.after.head? = some '\n' :=
  settle_breaks_last [.body quote (isRaw c.before)] false (c.forward quote.width) rfl unclosed

theorem shown_closed (quote : Quote) (body : List Char) :
    (Token.literal quote true).shown (quote.chars ++ body ++ quote.chars) =
      quote.chars ++ blank body ++ quote.chars := by
  have bodyEnd : (quote.chars ++ body ++ quote.chars).length - quote.width =
      (quote.chars ++ body).length := by
    simp only [List.length_append, quote.length_chars]
    omega
  have head : (quote.chars ++ body ++ quote.chars).take quote.width = quote.chars := by
    rw [List.append_assoc, ← quote.length_chars, List.take_left]
  have inner : (quote.chars ++ body).drop quote.width = body := by
    rw [← quote.length_chars, List.drop_left]
  simp only [Token.shown, ↓reduceIte]
  rw [bodyEnd, head, List.take_left, List.drop_left, inner]

theorem shown_unclosed (quote : Quote) (body : List Char) :
    (Token.literal quote false).shown (quote.chars ++ body) = quote.chars ++ blank body := by
  have head : (quote.chars ++ body).take quote.width = quote.chars := by
    rw [← quote.length_chars, List.take_left]
  have inner : (quote.chars ++ body).drop quote.width = body := by
    rw [← quote.length_chars, List.drop_left]
  simp only [Token.shown, Bool.false_eq_true, ↓reduceIte, List.take_length, List.drop_length,
    List.append_nil, head, inner]

theorem taken_of_closed {c : Cursor} {quote : Quote} (opens : quoteAt? c.after = some quote)
    (closed : (skipLiteral quote c).2 = true) :
    ∃ body, c.after.take (token c).2 = quote.chars ++ body ++ quote.chars := by
  obtain ⟨body, moved, stands⟩ := closed_literal_shape opens closed
  have bound := stands.length_le
  have length : (quote.chars ++ body ++ quote.chars).length = 2 * quote.width + body.length := by
    simp only [List.length_append, quote.length_chars]
    omega
  refine ⟨body, ?_⟩
  rw [token_literal opens, moved, Cursor.left_sub_forward (length ▸ bound), ← length]
  exact (List.prefix_iff_eq_take.mp stands).symm

theorem taken_of_literal {c : Cursor} {quote : Quote} (opens : quoteAt? c.after = some quote) :
    ∃ body, c.after.take (token c).2 = quote.chars ++ body := by
  obtain ⟨n, moved⟩ := skipLiteral_forward quote c
  obtain ⟨inner, ahead⟩ := (quoteAt?_eq_some opens).2
  have wide : quote.width ≤ (token c).2 := by
    have length := congrArg List.length ahead
    rw [List.length_append, quote.length_chars] at length
    rw [token_literal opens, moved, Cursor.left_eq, Cursor.left_eq, Cursor.length_after_forward]
    omega
  refine ⟨inner.take ((token c).2 - quote.width), ?_⟩
  rw [← ahead, List.take_append, quote.length_chars, List.take_of_length_le]
  rwa [quote.length_chars]

theorem veils_shown (c : Cursor) :
    List.Forall₂ Veils ((token c).1.shown (c.after.take (token c).2)) (c.after.take (token c).2) := by
  rcases text_cases c.after with ⟨rest, ahead⟩ | ⟨rest, ahead⟩ | ⟨quote, opens⟩ | plain
  · rw [token_line ahead]
    exact veils_blank _
  · rw [token_block ahead]
    exact veils_blank _
  · have kind := congrArg Prod.fst (token_literal opens)
    cases closed : (skipLiteral quote c).2 with
    | false =>
      obtain ⟨body, taken⟩ := taken_of_literal opens
      rw [kind, closed, taken, shown_unclosed]
      exact veils_append (veils_refl _) (veils_blank body)
    | true =>
      obtain ⟨body, taken⟩ := taken_of_closed opens closed
      rw [kind, closed, taken, shown_closed]
      exact veils_append (veils_append (veils_refl _) (veils_blank body)) (veils_refl _)
  · rw [token_plain plain]
    exact veils_refl _

theorem veils_stripFrom (c : Cursor) : List.Forall₂ Veils (stripFrom c) c.after := by
  fun_induction stripFrom c with
  | case1 c ends =>
    rw [ends]
    exact .nil
  | case2 c more found ih =>
    have split := veils_append (veils_shown c) ih
    rwa [Cursor.after_forward, List.take_append_drop] at split

theorem veils_strip (text : List Char) : List.Forall₂ Veils (strip text) text :=
  veils_stripFrom (Cursor.start text)

theorem length_strip (text : List Char) : (strip text).length = text.length :=
  (veils_strip text).length_eq

theorem stripFrom_plain {c : Cursor} (unquoted : ∀ x ∈ c.after, x ≠ '\'' ∧ x ≠ '"')
    (noLine : ¬ ['/', '/'] <:+: c.after) (noBlock : ¬ ['/', '*'] <:+: c.after) :
    stripFrom c = c.after := by
  fun_induction stripFrom c with
  | case1 c ends => exact ends.symm
  | case2 c more found ih =>
    rcases text_cases c.after with ⟨rest, ahead⟩ | ⟨rest, ahead⟩ | ⟨quote, opens⟩ | plain
    · exact absurd ⟨[], rest, by rw [ahead]; rfl⟩ noLine
    · exact absurd ⟨[], rest, by rw [ahead]; rfl⟩ noBlock
    · obtain ⟨member, rest, ahead⟩ := quoteAt?_eq_some opens
      obtain ⟨others, chars⟩ := quote.chars_cons
      have first := unquoted quote.mark (by rw [← ahead, chars]; simp)
      rcases mark_of_mem_quotes member with mark | mark
      · exact absurd mark first.1
      · exact absurd mark first.2
    · have behind : (c.forward found.2).after <:+: c.after := by
        rw [Cursor.after_forward]
        exact (List.drop_suffix _ _).isInfix
      rw [ih (fun x member => unquoted x (behind.subset member))
        (fun inside => noLine (inside.trans behind))
        (fun inside => noBlock (inside.trans behind)), Cursor.after_forward]
      simp only [found, token_plain plain, Token.shown, List.take_append_drop]

theorem stripFrom_step {c : Cursor} (more : c.after ≠ []) :
    stripFrom c =
      (token c).1.shown (c.after.take (token c).2) ++ stripFrom (c.forward (token c).2) := by
  rw [stripFrom, dif_neg more]

theorem stripFrom_taken {c : Cursor} {taken rest : List Char} {kind : Token} (more : taken ≠ [])
    (ahead : c.after = taken ++ rest) (found : token c = (kind, taken.length)) :
    stripFrom c = kind.shown taken ++ stripFrom (c.forward taken.length) := by
  have further : c.after ≠ [] := by
    rw [ahead]
    exact List.append_ne_nil_of_left_ne_nil more rest
  rw [stripFrom_step further, found, ahead, List.take_left]

theorem stripFrom_plain_cons {c : Cursor} {x : Char} {rest : List Char}
    (ahead : c.after = x :: rest) (plain : Plain (x :: rest)) :
    stripFrom c = x :: stripFrom (c.forward 1) := by
  have found : token c = (.plain, 1) := token_plain (ahead ▸ plain)
  exact stripFrom_taken (List.cons_ne_nil x []) ahead found

theorem strip_nil : strip [] = [] := by
  rw [strip, stripFrom]
  rfl

theorem length_shown {c : Cursor} (more : c.after ≠ []) :
    ((token c).1.shown (c.after.take (token c).2)).length = (token c).2 := by
  rw [(veils_shown c).length_eq, List.length_take, Nat.min_eq_left (token_width_le c more)]

theorem drop_strip {text : List Char} {place : Nat} (start : TokenStart text place) :
    (strip text).drop place = stripFrom (Cursor.within text place) := by
  induction start with
  | first => rfl
  | @next place earlier more ih =>
    have more := within_ne_nil more
    rw [tokenEnd, ← List.drop_drop, ih, stripFrom_step more, Cursor.forward_within]
    exact List.drop_left' (length_shown more)

theorem take_strip_next {text : List Char} {place : Nat} (start : TokenStart text place)
    (more : place < text.length) :
    (strip text).take (tokenEnd text place) = (strip text).take place ++
      (token (Cursor.within text place)).1.shown
        ((text.drop place).take (token (Cursor.within text place)).2) := by
  have more := within_ne_nil more
  rw [tokenEnd, List.take_add, drop_strip start, stripFrom_step more, Cursor.after_within]
  congr 1
  apply List.take_left'
  rw [← Cursor.after_within]
  exact length_shown more

end SourceCensus.Literal
