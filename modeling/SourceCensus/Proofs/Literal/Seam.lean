import SourceCensus.Proofs.Literal.Strip

/-! Texts with the same start. Ahead of a cursor the scan sees no more than the longest delimiter, so
   two texts have the same tokens up to a seam that no delimiter looks across. -/
namespace SourceCensus.Literal
open Text

/-- Two ends of a text that nothing before them can tell apart. -/
structure Seam (s t : List Char) : Prop where
  head : s.head? = t.head?
  quotes : ∀ quote ∈ quotes, ∀ x,
    quote.chars.isPrefixOf (x :: s) = quote.chars.isPrefixOf (x :: t)

section
variable {s t rest : List Char}

theorem Seam.symm (seam : Seam s t) : Seam t s :=
  ⟨seam.head.symm, fun quote member x => (seam.quotes quote member x).symm⟩

theorem Seam.head_append (seam : Seam s t) (rest : List Char) :
    (rest ++ s).head? = (rest ++ t).head? := by
  cases rest with
  | nil => exact seam.head
  | cons x others => rfl

theorem Seam.isPrefixOf (seam : Seam s t) {quote : Quote} (member : quote ∈ Literal.quotes)
    (more : rest ≠ []) :
    quote.chars.isPrefixOf (rest ++ s) = quote.chars.isPrefixOf (rest ++ t) := by
  have single (m : Char) (text : List Char) : [m].isPrefixOf text = (text.head? == some m) := by
    cases text with
    | nil => rfl
    | cons c others =>
      rw [Bool.eq_iff_iff, List.isPrefixOf_iff_prefix, List.cons_prefix_cons, beq_iff_eq,
        List.head?_cons, Option.some.injEq]
      exact ⟨fun same => same.1.symm, fun same => ⟨same.symm, List.nil_prefix⟩⟩
  match rest, more with
  | [x], _ => exact seam.quotes quote member x
  | x :: y :: others, _ =>
    have head := seam.head_append others
    unfold Quote.chars
    split
    · simp only [List.cons_append, List.isPrefixOf_cons_cons, single, head]
    · simp only [List.cons_append, single, List.head?_cons]

theorem Seam.quoteAt? (seam : Seam s t) (more : rest ≠ []) :
    Literal.quoteAt? (rest ++ s) = Literal.quoteAt? (rest ++ t) := by
  have same {quote : Quote} (member : quote ∈ Literal.quotes) :=
    seam.isPrefixOf member more
  unfold Literal.quoteAt?
  simp only [Literal.quotes, List.find?_cons, List.find?_nil] at same ⊢
  rw [same (by simp), same (by simp), same (by simp), same (by simp)]

theorem seam_cons {m : Char} {s t : List Char}
    (marks : m = '\'' ∨ m = '"' → s.head? ≠ some m ∧ t.head? ≠ some m) :
    Seam (m :: s) (m :: t) := by
  -- A character that is not the second of three marks hides what follows it.
  have third {text : List Char} (other : text.head? ≠ some m) : [m].isPrefixOf text = false := by
    cases text with
    | nil => rfl
    | cons x rest =>
      have differ : (m == x) = false := beq_eq_false_iff_ne.mpr fun same =>
        other (congrArg some same.symm)
      rw [List.isPrefixOf_cons_cons, differ, Bool.false_and]
  refine ⟨rfl, ?_⟩
  intro quote member x
  unfold Quote.chars
  split
  · by_cases same : quote.mark = m
    · obtain ⟨first, second⟩ := marks (same ▸ mark_of_mem_quotes member)
      simp only [List.isPrefixOf_cons_cons, same, third first, third second]
    · have differ : (quote.mark == m) = false := beq_eq_false_iff_ne.mpr same
      simp only [List.isPrefixOf_cons_cons, differ, Bool.false_and, Bool.and_false]
  · simp only [List.isPrefixOf_cons_cons, List.isPrefixOf_nil_left]

theorem bodyStep_seam (seam : Seam s t) {quote : Quote} (member : quote ∈ Literal.quotes)
    (raw : Bool) (more : rest ≠ []) :
    bodyStep quote raw (rest ++ s) = bodyStep quote raw (rest ++ t) := by
  rw [bodyStep_eq, bodyStep_eq, seam.isPrefixOf member more, seam.head_append rest]
  cases rest with
  | nil => exact absurd rfl more
  | cons x others => rw [List.cons_append, List.cons_append, List.tail_cons, List.tail_cons,
      seam.head_append others]

theorem bracesStep_seam (seam : Seam s t) {c d : Cursor} (more : rest ≠ [])
    (first : c.after = rest ++ s) (second : d.after = rest ++ t) (before : c.before = d.before) :
    bracesStep c = bracesStep d := by
  rw [bracesStep_eq, bracesStep_eq, first, second, before, seam.quoteAt? more,
    seam.head_append rest]

end

/-- The same way up to the cursors and from there to the seam, each with its own end behind it. -/
def Beside (s t : List Char) (c d : Cursor) : Prop :=
  ∃ rest, c.after = rest ++ s ∧ d.after = rest ++ t ∧ c.before = d.before

section
variable {s t : List Char} {c d : Cursor}

theorem Beside.forward (beside : Beside s t c d) (seam : Seam s t) {n : Nat}
    (inside : s.length ≤ (c.forward n).after.length) :
    Beside s t (c.forward n) (d.forward n) := by
  obtain ⟨rest, first, second, before⟩ := beside
  by_cases empty : s = []
  · have also : t = [] := by
      have head := seam.head
      rw [empty] at head
      exact List.head?_eq_none_iff.mp head.symm
    have same : c = d := Cursor.ext_text (by rw [before]) (by rw [first, second, empty, also])
    refine ⟨(c.forward n).after, ?_, ?_, ?_⟩
    · rw [empty, List.append_nil]
    · rw [also, List.append_nil, same]
    · rw [same]
  · have visible := List.length_pos_iff.mpr empty
    have within : n ≤ rest.length := by
      rw [Cursor.length_after_forward, first, List.length_append] at inside
      omega
    refine ⟨rest.drop n, ?_, ?_, ?_⟩
    · rw [Cursor.after_forward, first, List.drop_append_of_le_length within]
    · rw [Cursor.after_forward, second, List.drop_append_of_le_length within]
    · rw [Cursor.before_forward, Cursor.before_forward, first, second, before,
        List.take_append_of_le_length within, List.take_append_of_le_length within]

/-- No frame but one that the scan itself can open. -/
def Frame.Regular : Frame → Prop
  | .body quote _ => quote ∈ quotes
  | .braces => True

theorem step_opens_regular {frame inner : Frame} {width : Nat}
    (opens : step frame c = .opens width inner) : inner.Regular := by
  cases frame with
  | body quote raw =>
    rw [step, bodyStep_eq] at opens
    repeat' split at opens
    all_goals cases opens
    trivial
  | braces =>
    rw [step, bracesStep_eq] at opens
    split at opens
    · rename_i quote found
      cases opens
      exact (quoteAt?_eq_some found).1
    · repeat' split at opens
      all_goals cases opens
      trivial

theorem step_seam (seam : Seam s t) {frame : Frame} (regular : frame.Regular)
    (beside : Beside s t c d) (inside : s.length < c.after.length) :
    step frame c = step frame d := by
  obtain ⟨rest, first, second, before⟩ := beside
  have more : rest ≠ [] := by
    rintro rfl
    rw [first, List.nil_append] at inside
    exact Nat.lt_irrefl _ inside
  cases frame with
  | body quote raw => rw [step, step, first, second, bodyStep_seam seam regular raw more]
  | braces => exact bracesStep_seam seam more first second before

theorem step_breaks_seam (seam : Seam s t) {frame : Frame} (beside : Beside s t c d)
    (breaks : step frame c = .breaks) : step frame d = .breaks := by
  obtain ⟨rest, first, second, _⟩ := beside
  cases frame with
  | body quote raw =>
    rw [step, bodyStep_breaks_iff] at breaks ⊢
    rwa [second, ← seam.head_append rest, ← first]
  | braces =>
    rw [step, bracesStep_eq] at breaks
    repeat' split at breaks
    all_goals cases breaks

theorem Beside.symm (beside : Beside s t c d) : Beside t s d c := by
  obtain ⟨rest, first, second, before⟩ := beside
  exact ⟨rest, second, first, before.symm⟩

theorem Beside.more (beside : Beside s t c d) (seam : Seam s t) (more : c.after ≠ []) :
    d.after ≠ [] := by
  obtain ⟨rest, first, second, _⟩ := beside
  intro ends
  have head := seam.head_append rest
  rw [← first, ← second, ends, List.head?_nil, List.head?_eq_none_iff] at head
  exact more head

theorem Beside.step (beside : Beside s t c d) (seam : Seam s t) {frame : Frame}
    (regular : frame.Regular) (more : c.after ≠ []) {taken : Step}
    (takes : Literal.step frame c = taken) (moves : taken ≠ .breaks)
    (inside : s.length ≤ (c.forward taken.width).after.length) :
    Literal.step frame d = taken ∧ d.after ≠ [] ∧
      Beside s t (c.forward taken.width) (d.forward taken.width) := by
  have width_pos := step_width_pos frame c
  rw [takes] at width_pos
  have before : s.length < c.after.length := by
    have visible := List.length_pos_iff.mpr more
    have width := width_pos.resolve_left moves
    rw [Cursor.length_after_forward] at inside
    omega
  refine ⟨?_, beside.more seam more, beside.forward seam inside⟩
  rw [← takes]
  exact (step_seam seam regular beside before).symm

/-- A scan that leaves its frames before the seam leaves them at the same place in both texts. A
    literal that breaks off takes no character, so it may do so at the seam. -/
theorem settle_seam (seam : Seam s t) {stack : List Frame}
    (regular : ∀ frame ∈ stack, frame.Regular) (closed : Bool) (beside : Beside s t c d)
    (inside : s.length ≤ (settle stack closed c).1.after.length) :
    Beside s t (settle stack closed c).1 (settle stack closed d).1 ∧
      (settle stack closed c).2 = (settle stack closed d).2 := by
  have within {stack : List Frame} {closed : Bool} {c : Cursor}
      (inside : s.length ≤ (settle stack closed c).1.after.length) : s.length ≤ c.after.length :=
    Nat.le_trans inside (length_after_settle stack closed c)
  fun_induction settle stack closed c generalizing d with
  | case1 closed c =>
    rw [settle]
    exact ⟨beside, rfl⟩
  | case2 closed c frame outer ends =>
    have also : d.after = [] := by
      by_contra more
      exact beside.symm.more seam.symm more ends
    rw [settle_ends outer closed also]
    exact ⟨beside, rfl⟩
  | case3 closed c frame outer more width taken ih =>
    obtain ⟨same, also, onward⟩ := beside.step seam (regular frame List.mem_cons_self) more taken
      (by simp) (within inside)
    rw [settle_closes outer closed also same]
    exact ih (fun f member => regular f (List.mem_cons_of_mem _ member)) onward inside
  | case4 closed c frame outer more width inner taken ih =>
    obtain ⟨same, also, onward⟩ := beside.step seam (regular frame List.mem_cons_self) more taken
      (by simp) (within inside)
    rw [settle_opens outer closed also same]
    refine ih ?_ onward inside
    intro f member
    rcases List.mem_cons.mp member with rfl | outside
    · exact step_opens_regular taken
    · exact regular f outside
  | case5 closed c frame outer more width taken ih =>
    obtain ⟨same, also, onward⟩ := beside.step seam (regular frame List.mem_cons_self) more taken
      (by simp) (within inside)
    rw [settle_skips outer closed also same]
    exact ih regular onward inside
  | case6 closed c frame outer more taken ih =>
    rw [settle_breaks outer closed (beside.more seam more) (step_breaks_seam seam beside taken)]
    exact ih (fun f member => regular f (List.mem_cons_of_mem _ member)) beside inside

end

section
variable {s t rest : List Char}

theorem takeWhile_seam (seam : Seam s t) {p : Char → Bool}
    (inside : ((rest ++ s).takeWhile p).length ≤ rest.length) :
    ((rest ++ t).takeWhile p).length = ((rest ++ s).takeWhile p).length := by
  rw [List.takeWhile_append] at inside ⊢
  rw [List.takeWhile_append]
  by_cases all : (rest.takeWhile p).length = rest.length
  · rw [if_pos all, List.length_append] at inside
    have head := seam.head
    rw [if_pos all, if_pos all]
    cases s with
    | nil => rw [List.head?_eq_none_iff.mp head.symm]
    | cons x others =>
      obtain ⟨behind, rfl⟩ := List.head?_eq_some_iff.mp head.symm
      have stops : p x = false := by
        by_contra passes
        rw [List.takeWhile_cons_of_pos (by simpa using passes), List.length_cons] at inside
        omega
      rw [List.takeWhile_cons_of_neg (by simp [stops]), List.takeWhile_cons_of_neg (by simp [stops])]
  · rw [if_neg all, if_neg all]

theorem blockCommentRest_cons (x : Char) (rest : List Char) :
    blockCommentRest (x :: rest) =
      if x = '*' ∧ rest.head? = some '/' then 2 else blockCommentRest rest + 1 := by
  by_cases closes : x = '*' ∧ rest.head? = some '/'
  · obtain ⟨rfl, head⟩ := closes
    obtain ⟨others, rfl⟩ := List.head?_eq_some_iff.mp head
    rfl
  · rw [if_neg closes, blockCommentRest]
    rintro others rfl
    rintro rfl
    exact closes ⟨rfl, rfl⟩

theorem blockCommentRest_seam (seam : Seam s t)
    (inside : blockCommentRest (rest ++ s) ≤ rest.length) :
    blockCommentRest (rest ++ t) = blockCommentRest (rest ++ s) := by
  induction rest with
  | nil =>
    cases s with
    | nil => rw [List.head?_eq_none_iff.mp seam.head.symm]
    | cons x others =>
      rw [List.nil_append, blockCommentRest_cons] at inside
      split at inside <;> simp at inside
  | cons x rest ih =>
    rw [List.cons_append, blockCommentRest_cons] at inside ⊢
    rw [List.cons_append, blockCommentRest_cons, seam.head_append rest]
    rw [seam.head_append rest] at inside
    by_cases closes : x = '*' ∧ (rest ++ t).head? = some '/'
    · rw [if_pos closes, if_pos closes]
    · rw [if_neg closes, List.length_cons] at inside
      rw [if_neg closes, if_neg closes, ih (by omega)]

theorem Seam.starts (seam : Seam s t) (more : rest ≠ []) (second : Char) :
    (∃ others, rest ++ s = '/' :: second :: others) ↔
      ∃ others, rest ++ t = '/' :: second :: others := by
  have starts (x : Char) (text : List Char) :
      (∃ others, x :: text = '/' :: second :: others) ↔ x = '/' ∧ text.head? = some second := by
    rw [List.head?_eq_some_iff]
    constructor
    · rintro ⟨others, same⟩
      exact ⟨(List.cons.inj same).1, others, (List.cons.inj same).2⟩
    · rintro ⟨rfl, others, rfl⟩
      exact ⟨others, rfl⟩
  cases rest with
  | nil => exact absurd rfl more
  | cons x inner => rw [List.cons_append, List.cons_append, starts, starts, seam.head_append inner]

theorem Seam.plain (seam : Seam s t) (more : rest ≠ []) (plain : Plain (rest ++ s)) :
    Plain (rest ++ t) := by
  refine ⟨(seam.quoteAt? more).symm.trans plain.1, ?_⟩
  intro others
  constructor
  · intro ahead
    obtain ⟨behind, starts⟩ := (seam.starts more '/').mpr ⟨others, ahead⟩
    exact (plain.2 behind).1 starts
  · intro ahead
    obtain ⟨behind, starts⟩ := (seam.starts more '*').mpr ⟨others, ahead⟩
    exact (plain.2 behind).2 starts

theorem cons_cons_of_append {x y : Char} {others : List Char} (ahead : rest ++ s = x :: y :: others)
    (long : 2 ≤ rest.length) : ∃ inner, rest = x :: y :: inner ∧ others = inner ++ s := by
  match rest, long with
  | u :: v :: inner, _ =>
    simp only [List.cons_append, List.cons.injEq] at ahead
    obtain ⟨rfl, rfl, rfl⟩ := ahead
    exact ⟨inner, rfl, rfl⟩

theorem skipLiteral_seam (seam : Seam s t) {c d : Cursor} (beside : Beside s t c d) {quote : Quote}
    (member : quote ∈ Literal.quotes) (inside : s.length ≤ (skipLiteral quote c).1.after.length) :
    Beside s t (skipLiteral quote c).1 (skipLiteral quote d).1 ∧
      (skipLiteral quote c).2 = (skipLiteral quote d).2 := by
  have shorter := length_after_settle [.body quote (isRaw c.before)] false (c.forward quote.width)
  have opened := beside.forward seam (Nat.le_trans inside shorter)
  obtain ⟨_, _, _, before⟩ := beside
  unfold skipLiteral
  rw [← before]
  refine settle_seam seam ?_ false opened inside
  intro frame member
  rw [List.mem_singleton.mp member]
  assumption

theorem token_seam (seam : Seam s t) {c d : Cursor} (first : c.after = rest ++ s)
    (second : d.after = rest ++ t) (before : c.before = d.before) (more : rest ≠ [])
    (inside : (token c).2 ≤ rest.length) : token c = token d := by
  rcases text_cases c.after with ⟨others, ahead⟩ | ⟨others, ahead⟩ | ⟨quote, opens⟩ | plain
  · rw [token_line ahead] at inside
    obtain ⟨inner, rfl, rfl⟩ := cons_cons_of_append (first ▸ ahead) (by omega)
    simp only [List.length_cons] at inside
    simp only [List.cons_append] at second
    rw [token_line ahead, token_line second, takeWhile_seam seam (by omega)]
  · rw [token_block ahead] at inside
    obtain ⟨inner, rfl, rfl⟩ := cons_cons_of_append (first ▸ ahead) (by omega)
    simp only [List.length_cons] at inside
    simp only [List.cons_append] at second
    rw [token_block ahead, token_block second, blockCommentRest_seam seam (by omega)]
  · have beside : Beside s t c d := ⟨rest, first, second, before⟩
    have also : quoteAt? d.after = some quote := by rw [second, ← seam.quoteAt? more, ← first, opens]
    have left : s.length ≤ (skipLiteral quote c).1.after.length := by
      rw [← forward_token_literal opens, Cursor.length_after_forward, first, List.length_append]
      omega
    obtain ⟨⟨end', later, later', _⟩, closed⟩ :=
      skipLiteral_seam seam beside (quoteAt?_eq_some opens).1 left
    rw [token_literal opens, token_literal also, closed]
    simp only [Cursor.left_eq, first, second, later, later', List.length_append]
    rw [Nat.add_sub_add_right, Nat.add_sub_add_right]
  · rw [token_plain plain, token_plain (second ▸ seam.plain more (first ▸ plain))]

/-- Up to the seam both texts have the same tokens, so the stripped texts start alike. -/
theorem strip_seam (seam : Seam s t) {before : List Char} {place : Nat}
    (start : TokenStart (before ++ s) place) (inside : place ≤ before.length) :
    TokenStart (before ++ t) place ∧
      (strip (before ++ s)).take place = (strip (before ++ t)).take place := by
  induction start with
  | first => exact ⟨.first, rfl⟩
  | @next place earlier more ih =>
    have further := lt_tokenEnd more
    obtain ⟨other, same⟩ := ih (by omega)
    have ahead (rest : List Char) : (before ++ rest).drop place = before.drop place ++ rest :=
      List.drop_append_of_le_length (by omega)
    have first : (Cursor.within (before ++ s) place).after = before.drop place ++ s := by
      rw [Cursor.after_within, ahead]
    have second : (Cursor.within (before ++ t) place).after = before.drop place ++ t := by
      rw [Cursor.after_within, ahead]
    have behind : (Cursor.within (before ++ s) place).before =
        (Cursor.within (before ++ t) place).before := by
      rw [Cursor.before_within, Cursor.before_within, List.take_append_of_le_length (by omega),
        List.take_append_of_le_length (by omega)]
    have token : token (Cursor.within (before ++ s) place) =
        token (Cursor.within (before ++ t) place) := by
      apply token_seam seam first second behind
      · exact List.drop_eq_nil_iff.not.mpr (by omega)
      · rw [List.length_drop]
        unfold tokenEnd at inside
        omega
    have stop : tokenEnd (before ++ s) place = tokenEnd (before ++ t) place := by
      rw [tokenEnd, tokenEnd, token]
    have also : place < (before ++ t).length := by
      rw [List.length_append]
      omega
    have fits : (Literal.token (Cursor.within (before ++ t) place)).2 ≤
        (before.drop place).length := by
      rw [List.length_drop]
      unfold tokenEnd at stop inside
      omega
    refine ⟨stop ▸ .next other also, ?_⟩
    rw [take_strip_next earlier more, stop, take_strip_next other also, same, token, ahead, ahead,
      List.take_append_of_le_length fits, List.take_append_of_le_length fits]

end

end SourceCensus.Literal
