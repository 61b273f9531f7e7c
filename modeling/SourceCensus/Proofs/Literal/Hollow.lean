import Mathlib
import SourceCensus.Proofs.Literal.Idle

/-! Texts with nothing left to strip: no comments, and nothing but blanks between the marks of literals.
   Stripping shows such a text as it is, and makes every text one, unless a closed literal with a
   one-mark delimiter holds a newline: its blanked body no longer says where it ends. -/
namespace SourceCensus.Literal
open Text

/-- A text that is made up of plain characters and hollow literals. -/
inductive Hollow : List Char → Prop where
  | nil : Hollow []
  | plain {c : Char} {rest : List Char} (plain : Plain (c :: rest)) (tail : Hollow rest) :
      Hollow (c :: rest)
  | closed {quote : Quote} {body rest : List Char}
      (opens : quoteAt? (quote.chars ++ blank body ++ quote.chars ++ rest) = some quote)
      (flat : quote.triple = false → '\n' ∉ body) (tail : Hollow rest) :
      Hollow (quote.chars ++ blank body ++ quote.chars ++ rest)
  | unclosed {quote : Quote} {body rest : List Char}
      (opens : quoteAt? (quote.chars ++ blank body ++ rest) = some quote)
      (flat : quote.triple = false → '\n' ∉ body)
      (stop : rest = [] ∨ quote.triple = false ∧ rest.head? = some '\n') (tail : Hollow rest) :
      Hollow (quote.chars ++ blank body ++ rest)

theorem mem_blank {text : List Char} {x : Char} (member : x ∈ blank text) :
    x = ' ' ∨ x = '\n' ∧ '\n' ∈ text := by
  obtain ⟨c, found, rfl⟩ := List.mem_map.mp member
  by_cases newline : c = '\n'
  · subst newline
    exact Or.inr ⟨rfl, found⟩
  · exact Or.inl (if_neg newline)

theorem blank_blank (text : List Char) : blank (blank text) = blank text := by
  unfold blank
  rw [List.map_map]
  apply List.map_congr_left
  intro c _
  by_cases newline : c = '\n'
  · simp [newline]
  · simp [newline]

theorem blank_append (text rest : List Char) : blank (text ++ rest) = blank text ++ blank rest :=
  List.map_append

theorem plain_of_mem_blank {text : List Char} {x : Char} (member : x ∈ blank text)
    (rest : List Char) : Plain (x :: rest) := by
  rcases mem_blank member with rfl | ⟨rfl, _⟩
  · exact plain_cons rest (by decide) (by decide) (by decide)
  · exact plain_cons rest (by decide) (by decide) (by decide)

theorem Hollow.blank_append {rest : List Char} (tail : Hollow rest) (text : List Char) :
    Hollow (blank text ++ rest) := by
  induction text with
  | nil => exact tail
  | cons c text ih =>
    have first : (if c = '\n' then c else ' ') ∈ blank (c :: text) := List.mem_cons_self
    exact .plain (plain_of_mem_blank first _) ih

theorem idle_of_mem_blank {quote : Quote} (member : quote ∈ quotes) {body : List Char}
    (flat : quote.triple = false → '\n' ∉ body) : ∀ x ∈ blank body, quote.Idle x := by
  intro x found
  have visible : x = ' ' ∨ x = '\n' ∧ '\n' ∈ body := mem_blank found
  have line : quote.triple = false → x ≠ '\n' := by
    intro single newline
    rcases visible with space | ⟨_, inside⟩
    · rw [newline] at space
      exact absurd space (by decide)
    · exact flat single inside
  obtain ⟨noSpace, noNewline, _⟩ := mark_ne_of_mem_quotes quote member
  rcases visible with rfl | ⟨rfl, _⟩
  · exact ⟨noSpace.symm, by decide, by decide, line⟩
  · exact ⟨noNewline.symm, by decide, by decide, line⟩

/-- Whatever stands before a hollow text, stripping leaves it alone. -/
theorem Hollow.stripFrom_eq {text : List Char} (hollow : Hollow text) {c : Cursor}
    (ahead : c.after = text) : stripFrom c = text := by
  induction hollow generalizing c with
  | nil => rw [stripFrom, dif_pos ahead]
  | @plain x rest plain tail ih =>
    have next : (c.forward 1).after = rest := by
      rw [Cursor.after_forward, ahead]
      rfl
    rw [stripFrom_plain_cons ahead plain, ih next]
  | @closed quote body rest opens flat tail ih =>
    have idle := idle_of_mem_blank (quoteAt?_eq_some opens).1 flat
    have found := token_idle_closed (ahead ▸ opens) idle ahead
    have more : quote.chars ++ blank body ++ quote.chars ≠ [] := by simp [chars_ne_nil]
    rw [stripFrom_taken more ahead found, ih (Cursor.after_forward_left ahead), shown_closed,
      blank_blank]
  | @unclosed quote body rest opens flat stop tail ih =>
    have idle := idle_of_mem_blank (quoteAt?_eq_some opens).1 flat
    have found := token_idle_unclosed (ahead ▸ opens) idle stop ahead
    have more : quote.chars ++ blank body ≠ [] := by simp [chars_ne_nil]
    rw [stripFrom_taken more ahead found, ih (Cursor.after_forward_left ahead), shown_unclosed,
      blank_blank]

section
variable {shown text : List Char}

theorem solid_of_mem_quotes {quote : Quote} (member : quote ∈ quotes) :
    ∀ c ∈ quote.chars, c ≠ ' ' := by
  have visible := (mark_ne_of_mem_quotes quote member).1
  unfold Quote.chars
  split <;> simpa using visible

theorem quoteAt?_of_veils {quote : Quote} (veiled : List.Forall₂ Veils shown text)
    (opens : quoteAt? text = some quote) (stands : quote.chars <+: shown) :
    quoteAt? shown = some quote := by
  unfold quoteAt? at opens ⊢
  rw [List.find?_eq_some_iff_append] at opens ⊢
  obtain ⟨_, earlier, later, split, refused⟩ := opens
  refine ⟨List.isPrefixOf_iff_prefix.mpr stands, earlier, later, split, ?_⟩
  intro other before
  have member : other ∈ quotes := by
    rw [split]
    exact List.mem_append_left _ before
  have absent := refused other before
  rw [Bool.not_eq_true', ← Bool.not_eq_true, List.isPrefixOf_iff_prefix] at absent ⊢
  intro visible
  exact absent (prefix_of_veils veiled visible (solid_of_mem_quotes member))

theorem plain_of_veils (veiled : List.Forall₂ Veils shown text) (plain : Plain text) :
    Plain shown := by
  obtain ⟨unquoted, uncommented⟩ := plain
  constructor
  · unfold quoteAt? at unquoted ⊢
    rw [List.find?_eq_none] at unquoted ⊢
    intro quote member stands
    have visible := List.isPrefixOf_iff_prefix.mp stands
    have also := prefix_of_veils veiled visible (solid_of_mem_quotes member)
    exact unquoted quote member (List.isPrefixOf_iff_prefix.mpr also)
  · intro rest
    constructor
    · intro line
      have stands : ['/', '/'] <+: shown := ⟨rest, line.symm⟩
      obtain ⟨others, ahead⟩ := prefix_of_veils veiled stands (by simp)
      exact (uncommented others).1 ahead.symm
    · intro block
      have stands : ['/', '*'] <+: shown := ⟨rest, block.symm⟩
      obtain ⟨others, ahead⟩ := prefix_of_veils veiled stands (by simp)
      exact (uncommented others).2 ahead.symm

theorem head?_of_veils {c : Char} (veiled : List.Forall₂ Veils shown (c :: text))
    (newline : c = '\n') : shown.head? = some '\n' := by
  cases veiled with
  | cons head _ =>
    rcases head with same | ⟨_, visible⟩
    · rw [same, newline]
      rfl
    · exact absurd newline visible

end

/-- An open literal with a one-mark delimiter ends at the first newline that its blanked body shows. -/
theorem hollow_unclosed {quote : Quote} {body rest : List Char}
    (opens : quoteAt? (quote.chars ++ blank body ++ rest) = some quote)
    (stop : rest = [] ∨ quote.triple = false ∧ rest.head? = some '\n') (tail : Hollow rest) :
    Hollow (quote.chars ++ blank body ++ rest) := by
  by_cases broken : quote.triple = false ∧ '\n' ∈ body
  · obtain ⟨single, newline⟩ := broken
    obtain ⟨near, far, rfl, flat⟩ := List.eq_append_cons_of_mem newline
    have split : quote.chars ++ blank (near ++ '\n' :: far) ++ rest =
        quote.chars ++ blank near ++ (blank ('\n' :: far) ++ rest) := by
      rw [Literal.blank_append, ← List.append_assoc, List.append_assoc]
    rw [split] at opens ⊢
    exact .unclosed opens (fun _ => flat) (Or.inr ⟨single, rfl⟩) (tail.blank_append _)
  · refine .unclosed opens ?_ stop tail
    intro single newline
    exact broken ⟨single, newline⟩

/-- No closed literal of the scan with a one-mark delimiter holds a newline. -/
def OneLined (text : List Char) : Prop :=
  ∀ place quote, TokenStart text place →
    (token (Cursor.within text place)).1 = .literal quote true → quote.triple = false →
      '\n' ∉ (text.drop place).take (token (Cursor.within text place)).2

theorem hollow_token {c : Cursor} (more : c.after ≠ [])
    (flat : ∀ quote, (token c).1 = .literal quote true → quote.triple = false →
      '\n' ∉ c.after.take (token c).2)
    (tail : Hollow (stripFrom (c.forward (token c).2))) : Hollow (stripFrom c) := by
  have veiled := veils_stripFrom c
  have behind := veils_stripFrom (c.forward (token c).2)
  rw [stripFrom_step more] at veiled ⊢
  rcases text_cases c.after with ⟨rest, ahead⟩ | ⟨rest, ahead⟩ | ⟨quote, opens⟩ | plain
  · rw [token_line ahead] at tail ⊢
    exact tail.blank_append _
  · rw [token_block ahead] at tail ⊢
    exact tail.blank_append _
  · have kind := congrArg Prod.fst (token_literal opens)
    cases closed : (skipLiteral quote c).2 with
    | true =>
      obtain ⟨body, taken⟩ := taken_of_closed opens closed
      rw [closed] at kind
      rw [kind, taken, shown_closed] at veiled ⊢
      have stands : quote.chars <+: quote.chars ++ blank body ++ quote.chars ++
          stripFrom (c.forward (token c).2) := by
        rw [List.append_assoc, List.append_assoc]
        exact List.prefix_append _ _
      refine .closed (quoteAt?_of_veils veiled opens stands) ?_ tail
      intro single newline
      apply flat quote kind single
      rw [taken]
      simp [newline]
    | false =>
      obtain ⟨body, taken⟩ := taken_of_literal opens
      rw [closed] at kind
      rw [kind, taken, shown_unclosed] at veiled ⊢
      have stands : quote.chars <+: quote.chars ++ blank body ++
          stripFrom (c.forward (token c).2) := by
        rw [List.append_assoc]
        exact List.prefix_append _ _
      have stop := unclosed_literal_stop closed
      rw [← forward_token_literal opens] at stop
      refine hollow_unclosed (quoteAt?_of_veils veiled opens stands) ?_ tail
      rcases stop with ends | ⟨single, newline⟩
      · rw [ends] at behind
        exact Or.inl (List.forall₂_nil_right_iff.mp behind)
      · obtain ⟨others, ahead⟩ := List.head?_eq_some_iff.mp newline
        rw [ahead] at behind
        exact Or.inr ⟨single, head?_of_veils behind rfl⟩
  · obtain ⟨x, rest, ahead⟩ := List.exists_cons_of_ne_nil more
    have visible := plain_of_veils veiled plain
    rw [token_plain plain, ahead] at visible ⊢
    rw [token_plain plain] at tail
    exact .plain visible tail

theorem hollow_stripFrom {text : List Char} (oneLined : OneLined text) {place : Nat}
    (start : TokenStart text place) : Hollow (stripFrom (Cursor.within text place)) := by
  induction left : text.length - place using Nat.strongRecOn generalizing place with
  | ind k ih =>
    by_cases more : place < text.length
    · have further := lt_tokenEnd more
      have tail : Hollow (stripFrom (Cursor.within text (tokenEnd text place))) :=
        ih _ (by omega) (.next start more) rfl
      apply hollow_token (within_ne_nil more)
      · intro quote closed single
        rw [Cursor.after_within]
        exact oneLined place quote start closed single
      · rw [Cursor.forward_within]
        exact tail
    · have ends : (Cursor.within text place).after = [] := by
        rw [Cursor.after_within]
        exact List.drop_eq_nil_of_le (by omega)
      rw [stripFrom, dif_pos ends]
      exact .nil

/-- Where literals with a one-mark delimiter are closed on the line on which they open, nothing is left
    to strip in the stripped text, and it is stripped to itself. -/
theorem strip_strip_of_oneLined {text : List Char} (oneLined : OneLined text) :
    Hollow (strip text) ∧ strip (strip text) = strip text := by
  have hollow : Hollow (strip text) := hollow_stripFrom oneLined .first
  exact ⟨hollow, hollow.stripFrom_eq rfl⟩

def twoOverLines : List Char := "'''\n\x7b'''\n'\\\n\x7d".toList

theorem strip_strip_of_oneLined_overLines :
    OneLined twoOverLines ∧ Hollow (strip twoOverLines) ∧
      strip (strip twoOverLines) = strip twoOverLines := by
  have first : token (Cursor.within twoOverLines 0) = (.literal ⟨'\'', true⟩ true, 8) := by cbv
  have second : token (Cursor.within twoOverLines 8) = (.plain, 1) := by cbv
  have third : token (Cursor.within twoOverLines 9) = (.literal ⟨'\'', false⟩ false, 4) := by cbv
  have starts {place : Nat} (found : TokenStart twoOverLines place) :
      place = 0 ∨ place = 8 ∨ place = 9 ∨ twoOverLines.length ≤ place := by
    induction found with
    | first => exact Or.inl rfl
    | next earlier more ih =>
      rcases ih with rfl | rfl | rfl | ends
      · rw [tokenEnd, first]
        exact Or.inr (Or.inl rfl)
      · rw [tokenEnd, second]
        exact Or.inr (Or.inr (Or.inl rfl))
      · rw [tokenEnd, third]
        exact Or.inr (Or.inr (Or.inr (by decide)))
      · omega
  have oneLined : OneLined twoOverLines := by
    intro place quote found closed single
    rcases starts found with rfl | rfl | rfl | ends
    · rw [first] at closed
      cases closed
      cases single
    · rw [second] at closed
      cases closed
    · rw [third] at closed
      cases closed
    · rw [List.drop_eq_nil_of_le ends, List.take_nil]
      exact List.not_mem_nil
  exact ⟨oneLined, strip_strip_of_oneLined oneLined⟩

/-- A newline in a closed literal opens the rest of its line to the second pass. -/
example : strip (strip "'\\\n';".toList) ≠ strip "'\\\n';".toList := by
  have once : strip "'\\\n';".toList = "' \n';".toList := by cbv
  have twice : strip "' \n';".toList = "' \n' ".toList := by cbv
  rw [once, twice]
  decide

end SourceCensus.Literal
