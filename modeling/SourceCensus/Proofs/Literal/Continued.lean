import SourceCensus.Proofs.Literal.Grammar
import SourceCensus.Proofs.Literal.Line
import SourceCensus.Proofs.Text.Run

/-! Literals that are to end with their line, those whose delimiter is one mark. An escape takes the
   character behind the backslash whatever it is, so an escaped line end does not end the literal, and
   nothing else without an interpolation leads out of its line. -/
namespace SourceCensus.Literal
open Text

/-- An odd number of backslashes stands right before the place. -/
def Escaped (text : List Char) (place : Nat) : Prop :=
  ((text.take place).reverse.takeWhile (· == '\\')).length % 2 = 1

instance (text : List Char) (place : Nat) : Decidable (Escaped text place) :=
  inferInstanceAs (Decidable (_ = 1))

theorem escaped_succ_iff {text : List Char} {place : Nat} {c : Char}
    (here : text[place]? = some c) :
    Escaped text (place + 1) ↔ c = '\\' ∧ ¬ Escaped text place := by
  have before : (text.take (place + 1)).reverse = c :: (text.take place).reverse := by
    rw [List.take_add_one, here]
    simp
  unfold Escaped
  rw [before]
  by_cases backslash : c = '\\'
  · rw [List.takeWhile_cons_of_pos (by simp [backslash]), List.length_cons]
    simp only [backslash, true_and]
    omega
  · rw [List.takeWhile_cons_of_neg (by simp [backslash])]
    simp [backslash]

def lineEnd (text : List Char) (place : Nat) : Nat := runEnd (· != '\n') text place

theorem getElem?_ne_newline {text : List Char} {place i : Nat} (after : place ≤ i)
    (before : i < lineEnd text place) : ∃ c, text[i]? = some c ∧ c ≠ '\n' := by
  obtain ⟨c, here, line⟩ := of_lt_runEnd after before
  exact ⟨c, here, by simpa using line⟩

theorem lineEnd_of_le {text : List Char} {place i : Nat} (after : place ≤ i)
    (before : i ≤ lineEnd text place) : lineEnd text i = lineEnd text place :=
  runEnd_of_le after before

theorem newline_or_ends (text : List Char) (place : Nat) :
    text[lineEnd text place]? = some '\n' ∨ text.length ≤ lineEnd text place := by
  cases here : text[lineEnd text place]? with
  | none => exact Or.inr (List.getElem?_eq_none_iff.mp here)
  | some c =>
    have stops := runEnd_stops here
    have newline : c = '\n' := by simpa using stops
    exact Or.inl (congrArg some newline)

/-- From a place in the body of a literal on: the line end is escaped, and every mark before it that
    could close the literal is escaped, too. -/
structure EscapesLine (text : List Char) (place : Nat) (mark : Char) : Prop where
  newline : text[lineEnd text place]? = some '\n'
  escaped : Escaped text (lineEnd text place)
  marks : ∀ i, place ≤ i → i < lineEnd text place → text[i]? = some mark → Escaped text i

def Uninterpolated (text : List Char) (place : Nat) : Prop :=
  ∀ i, place ≤ i → i < lineEnd text place → ¬ Stands text i ['$', '{']

section
variable {text : List Char} {place : Nat} {mark : Char} {raw : Bool} {c : Char}

theorem EscapesLine.step_iff {next : Nat} (after : place ≤ next)
    (before : next ≤ lineEnd text place)
    (between : ∀ i, place ≤ i → i < next → text[i]? = some mark → Escaped text i) :
    EscapesLine text place mark ↔ EscapesLine text next mark := by
  have same := lineEnd_of_le after before
  constructor
  · intro escapes
    refine ⟨same ▸ escapes.newline, same ▸ escapes.escaped, ?_⟩
    intro i later earlier
    exact escapes.marks i (by omega) (same ▸ earlier)
  · intro escapes
    refine ⟨same ▸ escapes.newline, same ▸ escapes.escaped, ?_⟩
    intro i later earlier here
    by_cases early : i < next
    · exact between i later early here
    · exact escapes.marks i (by omega) (same ▸ earlier) here

theorem le_position_settle (stack : List Frame) (closed : Bool) (text : List Char) (place : Nat) :
    min place text.length ≤ (settle stack closed (Cursor.within text place)).1.position := by
  obtain ⟨n, moved⟩ := settle_forward stack closed (Cursor.within text place)
  rw [moved, Cursor.forward_within, Cursor.position_within_eq]
  omega

theorem position_settle_le (stack : List Frame) (closed : Bool) (text : List Char) (place : Nat) :
    (settle stack closed (Cursor.within text place)).1.position ≤ text.length := by
  obtain ⟨n, moved⟩ := settle_forward stack closed (Cursor.within text place)
  rw [moved, Cursor.forward_within, Cursor.position_within_eq]
  omega

theorem settle_at_mark (here : text[place]? = some mark) (closed : Bool) :
    (settle [.body ⟨mark, false⟩ raw] closed (Cursor.within text place)).1 =
      Cursor.within text (place + 1) := by
  have closes : step (.body ⟨mark, false⟩ raw) (Cursor.within text place) = .closes 1 := by
    rw [step, Cursor.after_within, drop_of_getElem? here]
    exact bodyStep_of_stands ⟨text.drop (place + 1), rfl⟩
  rw [settle_closes [] closed (within_ne_nil (lt_of_getElem? here)) closes, settle,
    Cursor.forward_within]

theorem settle_at_newline (here : text[place]? = some '\n') (other : mark ≠ '\n') (closed : Bool) :
    (settle [.body ⟨mark, false⟩ raw] closed (Cursor.within text place)).1 =
      Cursor.within text place := by
  have newline : (Cursor.within text place).after.head? = some '\n' := by
    rw [Cursor.after_within, List.head?_drop, here]
  rw [settle_newline rfl other newline]

theorem settle_at_escape (here : text[place]? = some '\\') (other : mark ≠ '\\') (closed : Bool) :
    settle [.body ⟨mark, false⟩ false] closed (Cursor.within text place) =
      settle [.body ⟨mark, false⟩ false] false (Cursor.within text (place + 2)) := by
  have skips : step (.body ⟨mark, false⟩ false) (Cursor.within text place) = .skips 2 := by
    rw [step, Cursor.after_within, drop_of_getElem? here]
    apply bodyStep_escape
    intro stands
    exact other (List.cons_prefix_cons.mp stands).1
  rw [settle_skips [] closed (within_ne_nil (lt_of_getElem? here)) skips, Cursor.forward_within]

theorem settle_at_character (here : text[place]? = some c) (other : c ≠ mark) (line : c ≠ '\n')
    (plain : raw = false → c ≠ '\\') (unopened : ¬ Stands text place ['$', '{']) (closed : Bool) :
    settle [.body ⟨mark, false⟩ raw] closed (Cursor.within text place) =
      settle [.body ⟨mark, false⟩ raw] false (Cursor.within text (place + 1)) := by
  have ahead := drop_of_getElem? here
  have skips : step (.body ⟨mark, false⟩ raw) (Cursor.within text place) = .skips 1 := by
    rw [Stands, ahead] at unopened
    rw [step, Cursor.after_within, ahead]
    apply bodyStep_character
    · intro stands
      exact other (List.cons_prefix_cons.mp stands).1.symm
    · intro _
      exact line
    · intro escapes
      exact ⟨plain escapes, unopened⟩
  rw [settle_skips [] closed (within_ne_nil (lt_of_getElem? here)) skips, Cursor.forward_within]

theorem Uninterpolated.later {next : Nat} (plain : Uninterpolated text place) (after : place ≤ next)
    (before : next ≤ lineEnd text place) : Uninterpolated text next := by
  intro i later earlier
  rw [lineEnd_of_le after before] at earlier
  exact plain i (by omega) earlier

/-- The scan goes on from one place of a body to another on the line, behind no open escape, and over
    no mark that could close the literal. -/
structure Passes (text : List Char) (mark : Char) (raw : Bool) (place next : Nat) : Prop where
  onward : place < next
  inLine : next ≤ lineEnd text place
  clear : raw = false → ¬ Escaped text next
  marks : ∀ i, place ≤ i → i < next → text[i]? = some mark → Escaped text i
  settled : ∀ closed, settle [.body ⟨mark, false⟩ raw] closed (Cursor.within text place) =
    settle [.body ⟨mark, false⟩ raw] false (Cursor.within text next)

theorem passes_escape (here : text[place]? = some '\\') (other : mark ≠ '\\')
    (clear : ¬ Escaped text place) (room : place + 2 ≤ lineEnd text place) :
    Passes text mark false place (place + 2) := by
  have escaped : Escaped text (place + 1) := (escaped_succ_iff here).mpr ⟨rfl, clear⟩
  obtain ⟨d, there, _⟩ := getElem?_ne_newline (i := place + 1) (by omega) room
  refine ⟨by omega, room, ?_, ?_, settle_at_escape here other⟩
  · intro _ again
    exact ((escaped_succ_iff there).mp again).2 escaped
  · intro i later earlier found
    by_cases first : i = place
    · subst first
      exact absurd (Option.some.inj (found.symm.trans here)) other
    · have second : i = place + 1 := by omega
      subst second
      exact escaped

theorem passes_character (here : text[place]? = some c) (other : c ≠ mark) (line : c ≠ '\n')
    (plain : raw = false → c ≠ '\\') (unopened : ¬ Stands text place ['$', '{']) :
    Passes text mark raw place (place + 1) := by
  have onward : place < lineEnd text place := lt_runEnd_iff.mpr ⟨c, here, by simpa using line⟩
  refine ⟨Nat.lt_succ_self place, onward, ?_, ?_,
    settle_at_character here other line plain unopened⟩
  · intro escaping escaped
    exact plain escaping ((escaped_succ_iff here).mp escaped).1
  · intro i later earlier found
    have first : i = place := by omega
    subst first
    exact absurd (Option.some.inj (here.symm.trans found)) other

theorem Passes.escapesLine_iff {next : Nat} (passes : Passes text mark raw place next) :
    EscapesLine text place mark ↔ EscapesLine text next mark :=
  EscapesLine.step_iff passes.onward.le passes.inLine passes.marks

theorem settle_at_last_escape (here : text[place]? = some '\\') (other : mark ≠ '\\')
    (last : lineEnd text place = place + 1) (closed : Bool) :
    lineEnd text place <
        (settle [.body ⟨mark, false⟩ false] closed (Cursor.within text place)).1.position ↔
      text[lineEnd text place]? = some '\n' := by
  -- A backslash at the end of the line takes the newline, if there is one.
  have before := le_position_settle [.body ⟨mark, false⟩ false] false text (place + 2)
  have bound := position_settle_le [.body ⟨mark, false⟩ false] false text (place + 2)
  rw [settle_at_escape here other]
  constructor
  · intro beyond
    rcases newline_or_ends text place with newline | ends
    · exact newline
    · omega
  · intro newline
    have more := lt_of_getElem? newline
    omega

theorem escapesLine_of_last (here : text[place]? = some '\\') (other : mark ≠ '\\')
    (clear : ¬ Escaped text place) (last : lineEnd text place = place + 1) :
    EscapesLine text place mark ↔ text[lineEnd text place]? = some '\n' := by
  constructor
  · exact EscapesLine.newline
  · intro newline
    refine ⟨newline, ?_, ?_⟩
    · rw [last, escaped_succ_iff here]
      exact ⟨rfl, clear⟩
    · intro i later earlier found
      have first : i = place := by omega
      subst first
      exact absurd (Option.some.inj (found.symm.trans here)) other

theorem settle_leaves_line_iff (quote : mark = '\'' ∨ mark = '"') (inside : place ≤ text.length)
    (clear : raw = false → ¬ Escaped text place) (plain : Uninterpolated text place)
    (closed : Bool) :
    lineEnd text place <
        (settle [.body ⟨mark, false⟩ raw] closed (Cursor.within text place)).1.position ↔
      raw = false ∧ EscapesLine text place mark := by
  -- A literal leaves its line exactly by an escape of the line end. What carries the induction is
  -- that the scan never stops right behind an odd number of backslashes.
  induction left : lineEnd text place - place using Nat.strongRecOn generalizing place closed with
  | ind k ih =>
    have behind : place ≤ lineEnd text place := le_runEnd _ text place
    have short : lineEnd text place ≤ text.length := runEnd_le_length inside
    have goOn {next : Nat} (passes : Passes text mark raw place next) :
        lineEnd text place <
            (settle [.body ⟨mark, false⟩ raw] closed (Cursor.within text place)).1.position ↔
          raw = false ∧ EscapesLine text place mark := by
      have onward := passes.onward
      have inLine := passes.inLine
      have same := lineEnd_of_le onward.le inLine
      rw [passes.settled, passes.escapesLine_iff, ← same]
      exact ih _ (by omega) (by omega) passes.clear (plain.later onward.le inLine) false rfl
    cases here : text[place]? with
    | none =>
      have ends := List.getElem?_eq_none_iff.mp here
      have bound := position_settle_le [.body ⟨mark, false⟩ raw] closed text place
      apply iff_of_false
      · omega
      · rintro ⟨_, escapes⟩
        have more := lt_of_getElem? escapes.newline
        omega
    | some c =>
      by_cases newline : c = '\n'
      · subst newline
        have other : mark ≠ '\n' := by
          rcases quote with rfl | rfl <;> decide
        have ends : lineEnd text place = place := runEnd_of_refused here (by simp)
        rw [settle_at_newline here other, ends, Cursor.position_within_eq]
        apply iff_of_false
        · omega
        · rintro ⟨escaping, escapes⟩
          exact clear escaping (ends ▸ escapes.escaped)
      · have next : place < lineEnd text place :=
          lt_runEnd_iff.mpr ⟨c, here, by simpa using newline⟩
        by_cases closes : c = mark
        · subst closes
          rw [settle_at_mark here, Cursor.position_within_eq]
          apply iff_of_false
          · omega
          · rintro ⟨escaping, escapes⟩
            exact clear escaping (escapes.marks place (Nat.le_refl _) next here)
        · by_cases escape : raw = false ∧ c = '\\'
          · obtain ⟨rfl, rfl⟩ := escape
            have other : mark ≠ '\\' := Ne.symm closes
            by_cases last : lineEnd text place = place + 1
            · rw [settle_at_last_escape here other last,
                escapesLine_of_last here other (clear rfl) last]
              simp
            · exact goOn (passes_escape here other (clear rfl) (by omega))
          · have unescaped : raw = false → c ≠ '\\' := by
              intro escaping backslash
              exact escape ⟨escaping, backslash⟩
            exact goOn (passes_character here closes newline unescaped
              (plain place (Nat.le_refl _) next))

end

section
variable {text : List Char} {start : Nat} {mark : Char}

structure Continued (text : List Char) (start : Nat) (mark : Char) : Prop where
  escaping : ¬ Prefixed text start
  escapes : EscapesLine text (start + 1) mark

theorem skipLiteral_leaves_line_iff (quote : mark = '\'' ∨ mark = '"')
    (opens : text[start]? = some mark) (plain : Uninterpolated text start) :
    lineEnd text start < (skipLiteral ⟨mark, false⟩ (Cursor.within text start)).1.position ↔
      Continued text start mark := by
  have more := lt_of_getElem? opens
  have visible : mark ≠ '\n' ∧ mark ≠ '\\' := by
    rcases quote with rfl | rfl <;> decide
  have next : start < lineEnd text start :=
    lt_runEnd_iff.mpr ⟨mark, opens, by simpa using visible.1⟩
  have same : lineEnd text (start + 1) = lineEnd text start := lineEnd_of_le (by omega) next
  have clear : ¬ Escaped text (start + 1) := by
    intro escaped
    exact visible.2 ((escaped_succ_iff opens).mp escaped).1
  have later : Uninterpolated text (start + 1) := plain.later (Nat.le_succ start) next
  have prefixed := isRaw_iff_prefixed more.le
  have leaves := @settle_leaves_line_iff text (start + 1) mark
    (isRaw (Cursor.within text start).before) quote more (fun _ => clear) later false
  rw [same] at leaves
  rw [skipLiteral, Cursor.forward_within]
  refine leaves.trans ?_
  constructor
  · rintro ⟨escaping, escapes⟩
    refine ⟨?_, escapes⟩
    rw [← prefixed, escaping]
    exact Bool.false_ne_true
  · intro continued
    refine ⟨?_, continued.escapes⟩
    rw [← Bool.not_eq_true, prefixed]
    exact continued.escaping

theorem skipLiteral_within {quote : Quote} (found : quoteAt? (text.drop start) = some quote) :
    (skipLiteral quote (Cursor.within text start)).1 =
      Cursor.within text (tokenEnd text start) := by
  have opens : quoteAt? (Cursor.within text start).after = some quote := by
    rwa [Cursor.after_within]
  rw [← forward_token_literal opens, Cursor.forward_within]
  rfl

theorem tokenEnd_of_unclosed {quote : Quote} (more : start < text.length)
    (found : quoteAt? (text.drop start) = some quote)
    (unclosed : (token (Cursor.within text start)).1 = .literal quote false)
    (inLine : tokenEnd text start ≤ lineEnd text start) :
    tokenEnd text start = lineEnd text start := by
  have opens : quoteAt? (Cursor.within text start).after = some quote := by
    rwa [Cursor.after_within]
  rw [token_literal opens, Token.literal.injEq] at unclosed
  have stop := unclosed_literal_stop unclosed.2
  rw [skipLiteral_within found, Cursor.after_within, List.head?_drop] at stop
  have further := lt_tokenEnd more
  by_contra early
  have inside : tokenEnd text start < lineEnd text start := Nat.lt_of_le_of_ne inLine early
  obtain ⟨c, here, visible⟩ := getElem?_ne_newline further.le inside
  rcases stop with ends | ⟨_, newline⟩
  · have bound := lt_of_getElem? here
    rw [List.drop_eq_nil_iff] at ends
    omega
  · exact visible (Option.some.inj (here.symm.trans newline))

theorem drop_strip_lineEnd (last : TokenStart text (lineEnd text start)) :
    (strip text).drop (lineEnd text start + 1) = strip (text.drop (lineEnd text start + 1)) := by
  rcases newline_or_ends text start with newline | ends
  · rw [← List.drop_drop, drop_strip_newline last newline]
    rfl
  · have nothing : text.drop (lineEnd text start + 1) = [] := List.drop_eq_nil_of_le (by omega)
    rw [nothing, strip_nil, List.drop_eq_nil_iff, length_strip]
    omega

end

/-- A literal with a one-mark delimiter and no interpolation on its line stays on the line, unless an
    escape of the line end continues it. If it stays and is left open, the lines behind it are stripped
    as if they stood alone. -/
theorem literals_stay_on_their_line {text : List Char} {start : Nat} {mark : Char}
    (quote : mark = '\'' ∨ mark = '"') (opens : text[start]? = some mark)
    (plain : Uninterpolated text start) :
    ((skipLiteral ⟨mark, false⟩ (Cursor.within text start)).1.position ≤ lineEnd text start ↔
      ¬ Continued text start mark) ∧
    (TokenStart text start → quoteAt? (text.drop start) = some ⟨mark, false⟩ →
      ¬ Continued text start mark → tokenEnd text start ≤ lineEnd text start ∧
        ((token (Cursor.within text start)).1 = .literal ⟨mark, false⟩ false →
          (strip text).drop (lineEnd text start + 1) =
            strip (text.drop (lineEnd text start + 1)))) := by
  have leaves := skipLiteral_leaves_line_iff quote opens plain
  constructor
  · rw [← leaves, Nat.not_lt]
  · intro begins found ends
    have more := lt_of_getElem? opens
    have inLine : tokenEnd text start ≤ lineEnd text start := by
      rw [← leaves, skipLiteral_within found, Cursor.position_within (tokenEnd_le more)] at ends
      omega
    refine ⟨inLine, ?_⟩
    intro unclosed
    apply drop_strip_lineEnd
    rw [← tokenEnd_of_unclosed more found unclosed inLine]
    exact .next begins more

def openUntilLineEnd : List Char := "'\\'\\\\\n\x7b".toList

theorem literals_stay_on_their_line_even :
    openUntilLineEnd[0]? = some '\'' ∧ Uninterpolated openUntilLineEnd 0 ∧
      ¬ Continued openUntilLineEnd 0 '\'' ∧
      (skipLiteral ⟨'\'', false⟩ (Cursor.within openUntilLineEnd 0)).1.position ≤ 5 ∧
      (strip openUntilLineEnd).drop 6 = strip ['\x7b'] := by
  have opens : openUntilLineEnd[0]? = some '\'' := rfl
  have plain : Uninterpolated openUntilLineEnd 0 := by
    have all : ∀ i < 5, ¬ Stands openUntilLineEnd i ['$', '{'] := by decide
    intro i _ inside
    exact all i inside
  have ends : ¬ Continued openUntilLineEnd 0 '\'' := by
    intro continued
    exact absurd continued.escapes.escaped (by decide)
  have unclosed : (token (Cursor.within openUntilLineEnd 0)).1 = .literal ⟨'\'', false⟩ false := by
    cbv
  have stays := literals_stay_on_their_line (Or.inl rfl) opens plain
  exact ⟨opens, plain, ends, stays.1.mpr ends, (stays.2 .first rfl ends).2 unclosed⟩

def openBehindLineEnd : List Char := "'\\\n\x7b".toList

/-- One backslash at the end of its line, and a literal that is never closed hides the next line. -/
theorem escaped_line_end_hides_next_line :
    openBehindLineEnd[0]? = some '\'' ∧ Uninterpolated openBehindLineEnd 0 ∧
      (skipLiteral ⟨'\'', false⟩ (Cursor.within openBehindLineEnd 0)).2 = false ∧
      lineEnd openBehindLineEnd 0 <
        (skipLiteral ⟨'\'', false⟩ (Cursor.within openBehindLineEnd 0)).1.position ∧
      strip openBehindLineEnd = "' \n ".toList := by
  have skipped : skipLiteral ⟨'\'', false⟩ (Cursor.within openBehindLineEnd 0) =
      (Cursor.within openBehindLineEnd 4, false) := by cbv
  refine ⟨rfl, ?_, by rw [skipped], by rw [skipped]; decide, by cbv⟩
  have all : ∀ i < 2, ¬ Stands openBehindLineEnd i ['$', '{'] := by decide
  intro i _ inside
  exact all i inside

end SourceCensus.Literal
