import SourceCensus.Proofs.Literal.Grammar
import SourceCensus.Proofs.Literal.Line

/-! How far a scan goes. Each of its steps takes text or drops a frame, so it makes no more steps than
   it has characters and frames to take twice and once. It never leaves the text, and where it stops
   tells why it stopped. -/
namespace SourceCensus.Literal
open Text

/-- A scan on its way: the frames it is inside of, the innermost first, and its place. -/
structure Scan where
  frames : List Frame
  cursor : Cursor

inductive Scan.Advances : Scan → Scan → Prop where
  | closes {frame : Frame} {outer : List Frame} {c : Cursor} {width : Nat} (more : c.after ≠ [])
      (taken : step frame c = .closes width) : Advances ⟨frame :: outer, c⟩ ⟨outer, c.forward width⟩
  | opens {frame inner : Frame} {outer : List Frame} {c : Cursor} {width : Nat}
      (more : c.after ≠ []) (taken : step frame c = .opens width inner) :
      Advances ⟨frame :: outer, c⟩ ⟨inner :: frame :: outer, c.forward width⟩
  | skips {frame : Frame} {outer : List Frame} {c : Cursor} {width : Nat} (more : c.after ≠ [])
      (taken : step frame c = .skips width) :
      Advances ⟨frame :: outer, c⟩ ⟨frame :: outer, c.forward width⟩
  | breaks {frame : Frame} {outer : List Frame} {c : Cursor} (more : c.after ≠ [])
      (taken : step frame c = .breaks) : Advances ⟨frame :: outer, c⟩ ⟨outer, c⟩

inductive Scan.Run : Nat → Scan → Scan → Prop where
  | stay (now : Scan) : Run 0 now now
  | go {steps : Nat} {now next later : Scan} (first : Advances now next)
      (rest : Run steps next later) : Run (steps + 1) now later

/-- An opening step takes a character and adds a frame, so a character counts twice. -/
def Scan.weight (s : Scan) : Nat := 2 * s.cursor.after.length + s.frames.length

def Scan.Done (s : Scan) : Prop := s.frames = [] ∨ s.cursor.after = []

theorem Scan.Advances.lighter {now next : Scan} (advances : Advances now next) :
    next.weight < now.weight := by
  have shorter {frame : Frame} {c : Cursor} {taken : Step} (more : c.after ≠ [])
      (steps : step frame c = taken) (moves : taken ≠ .breaks) :
      (c.forward taken.width).after.length < c.after.length := by
    have text_left := List.length_pos_iff.mpr more
    have width_pos := (step_width_pos frame c).resolve_left (by rwa [steps])
    rw [steps] at width_pos
    rw [Cursor.length_after_forward]
    omega
  cases advances with
  | closes more taken =>
    have less := shorter more taken Step.noConfusion
    simp only [weight, Step.width, List.length_cons] at less ⊢
    omega
  | opens more taken =>
    have less := shorter more taken Step.noConfusion
    simp only [weight, Step.width, List.length_cons] at less ⊢
    omega
  | skips more taken =>
    have less := shorter more taken Step.noConfusion
    simp only [weight, Step.width, List.length_cons] at less ⊢
    omega
  | breaks more taken =>
    simp only [weight, List.length_cons]
    omega

theorem Scan.Run.weight_le {steps : Nat} {now later : Scan} (run : Run steps now later) :
    steps + later.weight ≤ now.weight := by
  induction run with
  | stay => omega
  | go first _ ih =>
    have less := first.lighter
    omega

theorem Scan.Advances.forward {now next : Scan} (advances : Advances now next) :
    ∃ n, next.cursor = now.cursor.forward n := by
  cases advances with
  | closes => exact ⟨_, rfl⟩
  | opens => exact ⟨_, rfl⟩
  | skips => exact ⟨_, rfl⟩
  | breaks => exact ⟨0, rfl⟩

theorem Scan.Run.forward {steps : Nat} {now later : Scan} (run : Run steps now later) :
    ∃ n, later.cursor = now.cursor.forward n := by
  induction run with
  | stay => exact ⟨0, rfl⟩
  | go first _ ih =>
    obtain ⟨m, moved⟩ := first.forward
    obtain ⟨n, further⟩ := ih
    exact ⟨m + n, by rw [further, moved, Cursor.forward_forward]⟩

theorem settle_run (stack : List Frame) (closed : Bool) (c : Cursor) :
    ∃ steps rest, Scan.Run steps ⟨stack, c⟩ ⟨rest, (settle stack closed c).1⟩ ∧
      (Scan.mk rest (settle stack closed c).1).Done := by
  fun_induction settle stack closed c with
  | case1 closed c => exact ⟨0, [], .stay _, Or.inl rfl⟩
  | case2 closed c frame outer ends => exact ⟨0, frame :: outer, .stay _, Or.inr ends⟩
  | case3 closed c frame outer more width taken ih =>
    obtain ⟨steps, rest, run, ended⟩ := ih
    exact ⟨steps + 1, rest, .go (.closes more taken) run, ended⟩
  | case4 closed c frame outer more width inner taken ih =>
    obtain ⟨steps, rest, run, ended⟩ := ih
    exact ⟨steps + 1, rest, .go (.opens more taken) run, ended⟩
  | case5 closed c frame outer more width taken ih =>
    obtain ⟨steps, rest, run, ended⟩ := ih
    exact ⟨steps + 1, rest, .go (.skips more taken) run, ended⟩
  | case6 closed c frame outer more taken ih =>
    obtain ⟨steps, rest, run, ended⟩ := ih
    exact ⟨steps + 1, rest, .go (.breaks more taken) run, ended⟩

theorem bracesStep_closes {c : Cursor} {width : Nat} (closes : bracesStep c = .closes width) :
    width = 1 ∧ c.after.head? = some '}' := by
  rw [bracesStep_eq] at closes
  cases opens : quoteAt? c.after with
  | some quote => simp [opens] at closes
  | none =>
    simp only [opens] at closes
    split at closes
    · cases closes
    · split at closes
      · rename_i brace
        exact ⟨(Step.closes.inj closes).symm, brace⟩
      · cases closes

theorem bracesStep_ne_breaks (c : Cursor) : bracesStep c ≠ .breaks := by
  rw [bracesStep_eq]
  cases quoteAt? c.after with
  | some quote => exact Step.noConfusion
  | none =>
    dsimp only
    split
    · exact Step.noConfusion
    · split <;> exact Step.noConfusion

theorem settle_braces_last (stack : List Frame) (closed : Bool) (c : Cursor)
    (last : stack.getLast? = some .braces) (more : (settle stack closed c).1.after ≠ []) :
    ∃ n, (settle stack closed c).1 = c.forward (n + 1) ∧
      (c.forward n).after.head? = some '}' := by
  have later {c d : Cursor} {width : Nat}
      (found : ∃ n, d = (c.forward width).forward (n + 1) ∧
        ((c.forward width).forward n).after.head? = some '}') :
      ∃ n, d = c.forward (n + 1) ∧ (c.forward n).after.head? = some '}' := by
    obtain ⟨n, moved, brace⟩ := found
    rw [Cursor.forward_forward] at moved brace
    exact ⟨width + n, by rw [moved, Nat.add_assoc], brace⟩
  fun_induction settle stack closed c with
  | case1 => simp at last
  | case2 closed c frame outer ends => exact absurd ends more
  | case3 closed c frame outer _ width taken ih =>
    cases outer with
    | cons next others => exact later (ih (by simpa using last) more)
    | nil =>
      obtain rfl : frame = .braces := by simpa using last
      obtain ⟨rfl, brace⟩ := bracesStep_closes taken
      rw [settle]
      exact ⟨0, rfl, brace⟩
  | case4 closed c frame outer _ width inner _ ih => exact later (ih (by simpa using last) more)
  | case5 closed c frame outer _ width _ ih => exact later (ih last more)
  | case6 closed c frame outer _ taken ih =>
    cases outer with
    | cons next others => exact ih (by simpa using last) more
    | nil =>
      obtain rfl : frame = .braces := by simpa using last
      exact absurd taken (bracesStep_ne_breaks c)

section
variable {text : List Char}

theorem within_min (text : List Char) (place : Nat) :
    Cursor.within text (min place text.length) = Cursor.within text place :=
  Cursor.forward_min place (Cursor.start text)

theorem forward_within_inside {place : Nat} (inside : place ≤ text.length) (n : Nat) :
    ∃ stop, (Cursor.within text place).forward n = Cursor.within text stop ∧
      place ≤ stop ∧ stop ≤ text.length := by
  refine ⟨min (place + n) text.length, ?_, by omega, Nat.min_le_right _ _⟩
  rw [within_min, Cursor.forward_within]

theorem within_injective {place stop : Nat} (first : place ≤ text.length)
    (second : stop ≤ text.length) (same : Cursor.within text place = Cursor.within text stop) :
    place = stop := by
  rw [← Cursor.position_within first, same, Cursor.position_within second]

theorem skipLiteral_eq_settle (text : List Char) (start : Nat) (quote : Quote) :
    skipLiteral quote (Cursor.within text start) =
      settle [.body quote (isRaw (Cursor.within text start).before)] false
        (Cursor.within text (start + quote.width)) := by
  rw [skipLiteral, Cursor.forward_within]

theorem settle_closed_inside {quote : Quote} {raw closed : Bool} {place : Nat}
    (ended : (settle [.body quote raw] closed (Cursor.within text place)).2 = true) :
    ∃ n, (settle [.body quote raw] closed (Cursor.within text place)).1 =
        Cursor.within text (place + n + quote.width) ∧
      Stands text (place + n) quote.chars ∧ place + n + quote.width ≤ text.length := by
  obtain ⟨n, moved, stands⟩ :=
    settle_closes_last [.body quote raw] closed (Cursor.within text place) rfl ended
  rw [Cursor.forward_within, ← Nat.add_assoc] at moved
  rw [Cursor.forward_within, Cursor.after_within] at stands
  have bound := Stands.bound stands (chars_ne_nil quote)
  rw [quote.length_chars] at bound
  exact ⟨n, moved, stands, bound⟩

theorem settle_unclosed_inside {quote : Quote} {raw closed : Bool} {place : Nat}
    (inside : place ≤ text.length)
    (ended : (settle [.body quote raw] closed (Cursor.within text place)).2 = false) :
    ∃ stop, (settle [.body quote raw] closed (Cursor.within text place)).1 =
        Cursor.within text stop ∧ place ≤ stop ∧ stop ≤ text.length ∧
      (stop = text.length ∨ quote.triple = false ∧ text[stop]? = some '\n') := by
  obtain ⟨n, moved⟩ := settle_forward [.body quote raw] closed (Cursor.within text place)
  obtain ⟨stop, here, after, before⟩ := forward_within_inside inside n
  have stops := settle_breaks_last [.body quote raw] closed (Cursor.within text place) rfl ended
  rw [moved, here, Cursor.after_within, List.head?_drop] at stops
  refine ⟨stop, moved.trans here, after, before, stops.imp_left fun ends => ?_⟩
  have bound := List.drop_eq_nil_iff.mp ends
  omega

theorem skipLiteral_inside {start : Nat} {quote : Quote} (opens : Stands text start quote.chars) :
    ∃ stop closed, skipLiteral quote (Cursor.within text start) = (Cursor.within text stop, closed) ∧
      start + quote.width ≤ stop ∧ stop ≤ text.length ∧
      (closed = true →
        start + 2 * quote.width ≤ stop ∧ Stands text (stop - quote.width) quote.chars) ∧
      (closed = false → stop = text.length ∨ quote.triple = false ∧ text[stop]? = some '\n') := by
  have opening := opens.bound (chars_ne_nil quote)
  rw [quote.length_chars] at opening
  rw [skipLiteral_eq_settle]
  cases ended : (settle [.body quote (isRaw (Cursor.within text start).before)] false
      (Cursor.within text (start + quote.width))).2 with
  | true =>
    obtain ⟨n, moved, stands, bound⟩ := settle_closed_inside ended
    refine ⟨start + quote.width + n + quote.width, true, Prod.ext moved ended, by omega, bound, ?_,
      Bool.noConfusion⟩
    intro _
    rw [Nat.add_sub_cancel]
    exact ⟨by omega, stands⟩
  | false =>
    obtain ⟨stop, moved, after, before, stops⟩ := settle_unclosed_inside opening ended
    exact ⟨stop, false, Prod.ext moved ended, after, before, Bool.noConfusion, fun _ => stops⟩

theorem skipInterpolation_inside {start : Nat} (inside : start ≤ text.length) :
    ∃ stop, skipInterpolation (Cursor.within text start) = Cursor.within text stop ∧
      start ≤ stop ∧ stop ≤ text.length ∧
      (stop < text.length → start < stop ∧ text[stop - 1]? = some '}') := by
  obtain ⟨n, moved⟩ := settle_forward [.braces] false (Cursor.within text start)
  obtain ⟨stop, here, after, before⟩ := forward_within_inside inside n
  have stopped : skipInterpolation (Cursor.within text start) = Cursor.within text stop :=
    moved.trans here
  refine ⟨stop, stopped, after, before, ?_⟩
  intro short
  have more : (skipInterpolation (Cursor.within text start)).after ≠ [] := by
    rw [stopped]
    exact within_ne_nil short
  obtain ⟨m, passed, brace⟩ := settle_braces_last [.braces] false (Cursor.within text start) rfl more
  rw [Cursor.forward_within] at passed brace
  rw [Cursor.after_within, List.head?_drop] at brace
  have room := lt_of_getElem? brace
  have place : stop = start + (m + 1) :=
    within_injective before (by omega) (stopped.symm.trans passed)
  subst place
  exact ⟨by omega, brace⟩

/-- Whatever stack a scan starts with, it is over after no more steps than its weight, and on the way
    it stands at places of the text only. -/
theorem run_inside {stack : List Frame} {place steps : Nat} {later : Scan}
    (inside : place ≤ text.length)
    (run : Scan.Run steps ⟨stack, Cursor.within text place⟩ later) :
    steps ≤ 2 * (text.length - place) + stack.length ∧
      ∃ stop, later.cursor = Cursor.within text stop ∧ place ≤ stop ∧ stop ≤ text.length := by
  constructor
  · have bound := run.weight_le
    simp only [Scan.weight, Cursor.after_within, List.length_drop] at bound
    omega
  · obtain ⟨n, moved⟩ := run.forward
    obtain ⟨stop, here, bounds⟩ := forward_within_inside inside n
    exact ⟨stop, moved.trans here, bounds⟩

theorem TokenStart.le_length {place : Nat} (start : TokenStart text place) :
    place ≤ text.length := by
  induction start with
  | first => exact Nat.zero_le _
  | next _ more _ => exact tokenEnd_le more

theorem tokenStart_length (text : List Char) : TokenStart text text.length := by
  rcases TokenStart.first.reaches_or_crosses (Nat.zero_le _) (Nat.le_refl _) with
    start | ⟨i, more, _, across⟩
  · exact start
  · have bound := tokenEnd_le more
    omega

end

/-- A literal is left behind its delimiter or, unclosed, at the end of the text or of its line; an
    interpolation behind its brace or at the end of the text. Both scans come to an end within the
    text, after a number of steps that what is left of the text bounds, and the scan from token to
    token moves on until it is through. -/
theorem scans_stay_inside (text : List Char) :
    (∀ start quote, Stands text start quote.chars → ∃ stop closed,
      skipLiteral quote (Cursor.within text start) = (Cursor.within text stop, closed) ∧
      start + quote.width ≤ stop ∧ stop ≤ text.length ∧
      (closed = true →
        start + 2 * quote.width ≤ stop ∧ Stands text (stop - quote.width) quote.chars) ∧
      (closed = false → stop = text.length ∨ quote.triple = false ∧ text[stop]? = some '\n')) ∧
    (∀ start ≤ text.length, ∃ stop,
      skipInterpolation (Cursor.within text start) = Cursor.within text stop ∧
      start ≤ stop ∧ stop ≤ text.length ∧
      (stop < text.length → start < stop ∧ text[stop - 1]? = some '}')) ∧
    (∀ place ≤ text.length, ∀ stack closed,
      (∃ steps rest, Scan.Run steps ⟨stack, Cursor.within text place⟩
        ⟨rest, (settle stack closed (Cursor.within text place)).1⟩ ∧
        (Scan.mk rest (settle stack closed (Cursor.within text place)).1).Done) ∧
      ∀ steps later, Scan.Run steps ⟨stack, Cursor.within text place⟩ later →
        steps ≤ 2 * (text.length - place) + stack.length ∧
        ∃ stop, later.cursor = Cursor.within text stop ∧ place ≤ stop ∧ stop ≤ text.length) ∧
    TokenStart text text.length ∧
    ∀ place, TokenStart text place → place ≤ text.length ∧
      (place < text.length → place < tokenEnd text place ∧ tokenEnd text place ≤ text.length) := by
  refine ⟨?_, ?_, ?_, tokenStart_length text, ?_⟩
  · intro start quote opens
    exact skipLiteral_inside opens
  · intro start inside
    exact skipInterpolation_inside inside
  · intro place inside stack closed
    refine ⟨settle_run stack closed (Cursor.within text place), ?_⟩
    intro steps later run
    exact run_inside inside run
  · intro place start
    exact ⟨start.le_length, fun more => ⟨lt_tokenEnd more, tokenEnd_le more⟩⟩

theorem scans_stay_inside_escape_last :
    Stands "x'$\x7b\"\\".toList 1 ['\''] ∧
      (∃ stop closed, skipLiteral ⟨'\'', false⟩ (Cursor.within "x'$\x7b\"\\".toList 1) =
        (Cursor.within "x'$\x7b\"\\".toList stop, closed) ∧ 2 ≤ stop ∧ stop ≤ 6) ∧
      (∃ stop, skipInterpolation (Cursor.within "x'$\x7b\"\\".toList 4) =
        Cursor.within "x'$\x7b\"\\".toList stop ∧ 4 ≤ stop ∧ stop ≤ 6) ∧
      (∀ steps later,
        Scan.Run steps ⟨[.braces], Cursor.within "x'$\x7b\"\\".toList 4⟩ later → steps ≤ 5) ∧
      TokenStart "x'$\x7b\"\\".toList 1 ∧ 1 < tokenEnd "x'$\x7b\"\\".toList 1 ∧
      tokenEnd "x'$\x7b\"\\".toList 1 ≤ 6 := by
  obtain ⟨literal, interpolation, scan, _, tokens⟩ := scans_stay_inside "x'$\x7b\"\\".toList
  have opens : Stands "x'$\x7b\"\\".toList 1 ['\''] := by decide
  have first : tokenEnd "x'$\x7b\"\\".toList 0 = 1 := by cbv
  have start : TokenStart "x'$\x7b\"\\".toList 1 := first ▸ .next .first (by decide)
  obtain ⟨stop, closed, skipped, after, before, _⟩ := literal 1 ⟨'\'', false⟩ opens
  obtain ⟨other, passed, later, earlier, _⟩ := interpolation 4 (by decide)
  refine ⟨opens, ⟨stop, closed, skipped, after, before⟩, ⟨other, passed, later, earlier⟩, ?_, start,
    (tokens 1 start).2 (by decide)⟩
  intro steps later run
  exact ((scan 4 (by decide) [.braces] false).2 steps later run).1

end SourceCensus.Literal
