import SourceCensus.Proofs.Color.Call

/-! Typed assignments by their places in a text. The parts of a declaration leave no choice: each run of
   characters ends where the next part starts, so the pattern gains nothing from a shorter run. -/
namespace SourceCensus.Color
open Text Pattern

section
variable (text : List Char) (place : Nat)

def nameEnd : Nat := runEnd isAsciiWord text (place + 7)

def signPlace : Nat := runEnd isAsciiBlank text (nameEnd text place)

def valuePlace : Nat := runEnd isAsciiBlank text (signPlace text place + 1)

def closePlace : Nat := runEnd (· != ';') text (valuePlace text place)

/-- Behind a character of no word, a name is declared with the type and set equal to something. -/
structure Binds : Prop where
  edge : ∃ c, text[place]? = some c ∧ isAsciiWord c = false
  typed : "Color ".toList <+: text.drop (place + 1)
  named : place + 7 < nameEnd text place
  sign : text[signPlace text place]? = some '='

structure Assigns : Prop extends Binds text place where
  value : ∃ c, text[valuePlace text place]? = some c ∧ isAsciiWord c = true
  closes : text[closePlace text place]? = some ';'

def assignmentText : List Char := (text.drop place).take (closePlace text place + 1 - place)

end

/-- What an assignment leaves when all that binds is taken out from left to right. -/
def ValueOf (called key : List Char) : Prop :=
  ∃ bindings, Passage id (valuePlace called) (Binds called) bindings ∧
    key = leftFrom called id (valuePlace called) 0 bindings

/-- A value starts with a word character, and its only semicolon is at its end. -/
structure IsValue (key : List Char) : Prop where
  starts : ∃ c, key.head? = some c ∧ isAsciiWord c = true
  ends : key.getLast? = some ';'
  once : key.count ';' = 1

section
variable {text : List Char} {place : Nat}

theorem Binds.order (binds : Binds text place) :
    place + 7 < nameEnd text place ∧ nameEnd text place ≤ signPlace text place ∧
      signPlace text place < valuePlace text place :=
  ⟨binds.named, le_runEnd _ _ _, le_runEnd _ _ _⟩

theorem Binds.inside (binds : Binds text place) : valuePlace text place ≤ text.length := by
  obtain ⟨sign, _⟩ := List.getElem?_eq_some_iff.mp binds.sign
  exact runEnd_le_length sign

theorem Assigns.inside (assigns : Assigns text place) : closePlace text place + 1 ≤ text.length := by
  obtain ⟨close, _⟩ := List.getElem?_eq_some_iff.mp assigns.closes
  exact close

theorem Assigns.order (assigns : Assigns text place) :
    place + 7 < nameEnd text place ∧ nameEnd text place ≤ signPlace text place ∧
      signPlace text place < valuePlace text place ∧
      valuePlace text place < closePlace text place := by
  obtain ⟨name, sign, value⟩ := assigns.toBinds.order
  obtain ⟨c, here, word⟩ := assigns.value
  refine ⟨name, sign, value, lt_runEnd_iff.mpr ⟨c, here, bne_iff_ne.mpr ?_⟩⟩
  rintro rfl
  exact absurd word (by decide)

end

theorem not_isAsciiBlank_of_isAsciiWord {c : Char} (word : isAsciiWord c = true) :
    isAsciiBlank c = false := by
  rw [← Bool.not_eq_true]
  intro blank
  simp only [isAsciiBlank, Bool.or_eq_true, beq_iff_eq, or_assoc] at blank
  rcases blank with rfl | rfl | rfl | rfl | rfl | rfl <;> exact absurd word (by decide)

theorem single_word : Single (fun p next => (asciiSet false .word).run p next) isAsciiWord := by
  simpa [asciiSet, Category.holds] using single_category .word false

theorem single_blank : Single (fun p next => (asciiSet false .blank).run p next) isAsciiBlank := by
  simpa [asciiSet, Category.holds] using single_category .blank false

section
variable {text : List Char} {place : Nat} {accept : Accepts}

theorem run_sign (text : List Char) (place : Nat) (accept : Accepts) :
    (literally "=").run (.within text place) accept =
      if text[place]? = some '=' then accept (.within text (place + 1)) else none := by
  have ahead : "=".toList <+: (Progress.within text place).cursor.after ↔ text[place]? = some '=' := by
    rw [Progress.within, Cursor.after_within]
    exact prefix_drop_iff
  rw [run_literally, Progress.skip_within]
  simp only [ahead]
  rfl

theorem run_blankRun
    (settled : accept (.within text (runEnd isAsciiBlank text place)) = none →
      ∀ i, place ≤ i → i < runEnd isAsciiBlank text place → accept (.within text i) = none) :
    blankRun.run (.within text place) accept =
      accept (.within text (runEnd isAsciiBlank text place)) :=
  (loopRun_run single_blank settled).trans (if_pos (le_runEnd _ _ _))

theorem run_wordRun
    (settled : accept (.within text (runEnd isAsciiWord text place)) = none →
      ∀ i, place + 1 ≤ i → i < runEnd isAsciiWord text place → accept (.within text i) = none) :
    wordRun.run (.within text place) accept =
      if place < runEnd isAsciiWord text place then
        accept (.within text (runEnd isAsciiWord text place))
      else none :=
  loopRun_run single_word settled

theorem run_gap (text : List Char) (place : Nat) (accept : Accepts) :
    blankRun.run (.within text place) (fun q => (literally "=").run q accept) =
      if text[runEnd isAsciiBlank text place]? = some '=' then
        accept (.within text (runEnd isAsciiBlank text place + 1))
      else none := by
  -- White space ends at the sign, so no shorter run of it does.
  rw [run_blankRun, run_sign]
  intro _ i after before
  obtain ⟨c, here, blank⟩ := of_lt_runEnd after before
  rw [run_sign, here, if_neg]
  rintro ⟨⟩
  exact absurd blank (by decide)

theorem run_name (text : List Char) (place : Nat) (accept : Accepts) :
    wordRun.run (.within text place)
        (fun q => blankRun.run q fun r => (literally "=").run r accept) =
      if place < runEnd isAsciiWord text place ∧
          text[runEnd isAsciiBlank text (runEnd isAsciiWord text place)]? = some '=' then
        accept (.within text (runEnd isAsciiBlank text (runEnd isAsciiWord text place) + 1))
      else none := by
  -- Inside a name there is neither white space nor the sign.
  rw [run_wordRun, run_gap, ite_and]
  intro _ i after before
  obtain ⟨c, here, word⟩ := of_lt_runEnd (by omega) before
  rw [run_gap, runEnd_of_refused here (not_isAsciiBlank_of_isAsciiWord word), here, if_neg]
  rintro ⟨⟩
  exact absurd word (by decide)

theorem run_assignmentOpening (p : Progress) (accept : Accepts) :
    assignmentOpening.run p accept = notWord.run p fun q => (literally "Color ").run q fun r =>
      wordRun.run r fun s => blankRun.run s fun t => (literally "=").run t fun u =>
        blankRun.run u accept := rfl

theorem run_assignmentOpening_of_binds (binds : Binds text place) :
    assignmentOpening.run (.within text place) accept =
      blankRun.run (.within text (signPlace text place + 1)) accept := by
  obtain ⟨c, here, edge⟩ := binds.edge
  have typed : "Color ".toList <+: (Progress.within text (place + 1)).cursor.after := by
    rw [Progress.within, Cursor.after_within]
    exact binds.typed
  rw [run_assignmentOpening, single_notWord.run_within, if_pos, run_literally, if_pos typed,
    Progress.skip_within, run_name, if_pos ⟨binds.named, binds.sign⟩]
  · rfl
  · exact lt_runEnd_iff.mpr ⟨c, here, by rw [edge]; rfl⟩

theorem run_assignmentOpening_eq_none (apart : ¬ Binds text place) :
    assignmentOpening.run (.within text place) accept = none := by
  rw [run_assignmentOpening, single_notWord.run_within]
  split
  · rename_i more
    obtain ⟨c, here, edge⟩ := lt_runEnd_iff.mp more
    rw [run_literally]
    split
    · rename_i typed
      rw [Progress.within, Cursor.after_within] at typed
      rw [Progress.skip_within, run_name, if_neg]
      rintro ⟨named, sign⟩
      exact apart ⟨⟨c, here, by simpa using edge⟩, typed, named, sign⟩
    · rfl
  · rfl

def valueNode : Node := seqOf [wordRun, .loop 0 none .lazy (.any true), literally ";"]

theorem run_remainder (text : List Char) (place : Nat) :
    (Node.loop 0 none .lazy (.any true)).run (.within text place) (fun q => (literally ";").run q some) =
      if text[runEnd (· != ';') text place]? = some ';' then
        some (.within text (runEnd (· != ';') text place + 1))
      else none := by
  have closing : (fun q => (literally ";").run q some) =
      fun q => if [';'] <+: q.cursor.after then some (q.skip 1) else none := by
    funext q
    exact run_literally ";" q some
  have loop : (Node.loop 0 none .lazy (.any true)).run (.within text place)
      (fun q => (literally ";").run q some) =
    loopRun (fun p next => (Node.any true).run p next) 0 none .lazy (.within text place)
      fun q => if [';'] <+: q.cursor.after then some (q.skip 1) else none := by
    rw [← closing]
    rfl
  rw [loop]
  split
  · rename_i here
    obtain ⟨n, ends⟩ := Nat.exists_eq_add_of_le (le_runEnd (· != ';') text place)
    rw [ends] at here
    rw [loopRun_any_closes rfl (Nat.zero_le n) here, Progress.skip_within, ends]
    · rfl
    · intro m _ before
      obtain ⟨c, found, other⟩ := @of_lt_runEnd (· != ';') text place (place + m) (by omega) (by omega)
      rw [found]
      rintro ⟨⟩
      cases other
  · rename_i never
    apply loopRun_any_eq_none rfl
    intro n _ here
    exact never (getElem?_runEnd_ne (Nat.le_add_right place n) here)

theorem run_valueNode (text : List Char) (place : Nat) :
    valueNode.run (.within text place) some =
      if place < runEnd isAsciiWord text place ∧
          text[runEnd (· != ';') text place]? = some ';' then
        some (.within text (runEnd (· != ';') text place + 1))
      else none := by
  -- Wherever the first word of a value is cut, the same semicolon closes it.
  have parts : valueNode.run (.within text place) some = wordRun.run (.within text place) fun q =>
    (Node.loop 0 none .lazy (.any true)).run q fun r => (literally ";").run r some := rfl
  have other (c : Char) (word : isAsciiWord c = true) : (c != ';') = true := by
    rw [bne_iff_ne]
    rintro rfl
    exact absurd word (by decide)
  have same (i : Nat) (after : place ≤ i) (before : i ≤ runEnd isAsciiWord text place) :
      runEnd (· != ';') text i = runEnd (· != ';') text place :=
    runEnd_of_le after (before.trans (runEnd_le_runEnd other))
  have whole := same _ (le_runEnd _ _ _) (Nat.le_refl _)
  rw [parts, run_wordRun, run_remainder, whole, ite_and]
  intro refused i after before
  rw [run_remainder, whole] at refused
  rw [run_remainder, same i (by omega) before.le, refused]

theorem run_gap_valueNode (text : List Char) (place : Nat) :
    blankRun.run (.within text place) (fun q => valueNode.run q some) =
      valueNode.run (.within text (runEnd isAsciiBlank text place)) some := by
  -- No value starts with white space.
  apply run_blankRun
  intro _ i after before
  obtain ⟨c, here, blank⟩ := of_lt_runEnd after before
  rw [run_valueNode, if_neg]
  rintro ⟨more, -⟩
  obtain ⟨d, found, word⟩ := lt_runEnd_iff.mp more
  obtain rfl := Option.some.inj (here.symm.trans found)
  rw [not_isAsciiBlank_of_isAsciiWord word] at blank
  cases blank

theorem run_assignment (p : Progress) :
    assignment.run p some = assignmentOpening.run p fun q => valueNode.run q some := rfl

theorem run_assignment_of_assigns (assigns : Assigns text place) :
    assignment.run (.within text place) some = some (.within text (closePlace text place + 1)) := by
  have value := lt_runEnd_iff.mpr assigns.value
  rw [run_assignment, run_assignmentOpening_of_binds assigns.toBinds, run_gap_valueNode, run_valueNode,
    if_pos ⟨value, assigns.closes⟩]
  rfl

theorem run_assignment_eq_none (apart : ¬ Assigns text place) :
    assignment.run (.within text place) some = none := by
  rw [run_assignment]
  by_cases binds : Binds text place
  · rw [run_assignmentOpening_of_binds binds, run_gap_valueNode, run_valueNode, if_neg]
    rintro ⟨value, closes⟩
    exact apart ⟨binds, lt_runEnd_iff.mp value, closes⟩
  · exact run_assignmentOpening_eq_none binds

end

theorem finds_bindings (text : List Char) :
    Finds assignmentOpening text id (valuePlace text) (Binds text) where
  onward place binds := by
    have order := binds.order
    simp only [id]
    omega
  inside _ binds := binds.inside
  found place binds := by
    have run : assignmentOpening.run (.within text place) some =
        some (.within text (valuePlace text place)) := by
      rw [run_assignmentOpening_of_binds binds]
      exact run_blankRun fun refused => by cases refused
    rw [matchAt?_still]
    exact congrArg (Option.map _) run
  missed place _ elsewhere := by
    rw [matchAt?_still]
    exact congrArg (Option.map _)
      (run_assignmentOpening_eq_none fun binds => elsewhere place binds rfl)

theorem finds_assignments (text : List Char) :
    Finds assignment text id (closePlace text · + 1) (Assigns text) where
  onward place assigns := by
    have order := assigns.order
    simp only [id]
    omega
  inside _ assigns := assigns.inside
  found place assigns := by
    rw [matchAt?_still]
    exact congrArg (Option.map _) (run_assignment_of_assigns assigns)
  missed place _ elsewhere := by
    rw [matchAt?_still]
    exact congrArg (Option.map _) (run_assignment_eq_none fun assigns => elsewhere place assigns rfl)

section
variable {text : List Char} {place last : Nat}

theorem Binds.valuePlace_le (binds : Binds text place) (ends : text[last]? = some ';')
    (length : text.length = last + 1) : valuePlace text place ≤ last := by
  -- Nothing binds across a semicolon at the end.
  obtain ⟨inside, _⟩ := List.getElem?_eq_some_iff.mp binds.sign
  have other : signPlace text place ≠ last := by
    intro same
    have sign := binds.sign
    rw [same, ends] at sign
    cases sign
  exact runEnd_le (by omega) ends (by decide)

theorem semicolon_not_mem {stop : Nat} (bound : stop ≤ last)
    (plain : ∀ i, place ≤ i → i < last → text[i]? ≠ some ';') :
    ';' ∉ (text.drop place).take (stop - place) := by
  rw [mem_take_drop_iff]
  rintro ⟨i, after, before, here⟩
  exact plain i after (by omega) here

theorem leftFrom_closed {bindings : List Nat} (ends : text[last]? = some ';')
    (length : text.length = last + 1)
    (passes : LeftToRight id (valuePlace text) (Binds text) place bindings) (before : place ≤ last)
    (plain : ∀ i, place ≤ i → i < last → text[i]? ≠ some ';') :
    ∃ body, leftFrom text id (valuePlace text) place bindings = body ++ [';'] ∧ ';' ∉ body := by
  induction passes with
  | @done place nothing =>
    have tail : (text.drop place).drop (last - place) = [';'] := by
      rw [List.drop_drop, Nat.add_sub_cancel' before, drop_of_getElem? ends,
        List.drop_eq_nil_of_le length.le]
    refine ⟨(text.drop place).take (last - place), ?_, semicolon_not_mem (Nat.le_refl _) plain⟩
    rw [leftFrom, ← tail, List.take_append_drop]
  | @next place hit rest binds after first later ih =>
    have order := binds.order
    have inside := binds.valuePlace_le ends length
    simp only [id] at after
    obtain ⟨body, left, clean⟩ := ih inside fun i onward sooner => plain i (by omega) sooner
    refine ⟨(text.drop place).take (hit - place) ++ body, ?_, ?_⟩
    · rw [leftFrom, left, List.append_assoc]
      rfl
    · rw [List.mem_append, not_or]
      exact ⟨semicolon_not_mem (by omega) plain, clean⟩

end

namespace Assigns

variable {text : List Char} {place : Nat}

theorem length_part (assigns : Assigns text place) :
    (assignmentText text place).length = closePlace text place - place + 1 := by
  have order := assigns.order
  have inside := assigns.inside
  rw [assignmentText, List.length_take, List.length_drop]
  omega

theorem getElem?_part {i : Nat} (inside : i < closePlace text place + 1 - place) :
    (assignmentText text place)[i]? = text[place + i]? := by
  rw [assignmentText, List.getElem?_take_of_lt inside, List.getElem?_drop]

theorem places_part (assigns : Assigns text place) :
    place + nameEnd (assignmentText text place) 0 = nameEnd text place ∧
      place + signPlace (assignmentText text place) 0 = signPlace text place ∧
      place + valuePlace (assignmentText text place) 0 = valuePlace text place := by
  have order := assigns.order
  have run {test : Char → Bool} {i stop : Nat} (ends : runEnd test text (place + i) = stop)
      (before : stop ≤ closePlace text place) :
      place + runEnd test (assignmentText text place) i = stop := by
    rw [← ends]
    exact runEnd_take_drop (by omega)
  have name : place + nameEnd (assignmentText text place) 0 = nameEnd text place :=
    run rfl (by omega)
  have sign : place + signPlace (assignmentText text place) 0 = signPlace text place := by
    apply run _ (by omega)
    rw [name, signPlace]
  refine ⟨name, sign, ?_⟩
  apply run _ (by omega)
  rw [← Nat.add_assoc, sign, valuePlace]

theorem binds_part (assigns : Assigns text place) : Binds (assignmentText text place) 0 := by
  have order := assigns.order
  obtain ⟨name, sign, _⟩ := assigns.places_part
  constructor
  · rw [getElem?_part (by omega)]
    exact assigns.edge
  · rw [assignmentText, List.drop_take, List.drop_drop, List.prefix_take_iff]
    refine ⟨assigns.typed, ?_⟩
    have six : "Color ".toList.length = 6 := rfl
    omega
  · omega
  · rw [getElem?_part (by omega), sign]
    exact assigns.sign

theorem close_part (assigns : Assigns text place) :
    (assignmentText text place)[closePlace text place - place]? = some ';' := by
  have order := assigns.order
  rw [getElem?_part (by omega), Nat.add_sub_cancel' (by omega)]
  exact assigns.closes

theorem plain_part (assigns : Assigns text place) {i : Nat}
    (after : valuePlace (assignmentText text place) 0 ≤ i) (before : i < closePlace text place - place) :
    (assignmentText text place)[i]? ≠ some ';' := by
  obtain ⟨_, _, start⟩ := assigns.places_part
  obtain ⟨c, here, other⟩ := @of_lt_runEnd (· != ';') text (valuePlace text place) (place + i)
    (by omega) (show place + i < closePlace text place by omega)
  rw [getElem?_part (by omega), here]
  rintro ⟨⟩
  cases other

/-- The assignment itself is the first thing that binds, so what is left starts with the value. -/
theorem exists_leftFrom (assigns : Assigns text place) {key : List Char}
    (value : ValueOf (assignmentText text place) key) :
    ∃ rest, LeftToRight id (valuePlace (assignmentText text place)) (Binds (assignmentText text place))
        (valuePlace (assignmentText text place) 0) rest ∧
      key = leftFrom (assignmentText text place) id (valuePlace (assignmentText text place))
        (valuePlace (assignmentText text place) 0) rest := by
  have binds := assigns.binds_part
  obtain ⟨bindings, passage, rfl⟩ := value
  cases (passage bindings).mpr rfl with
  | done nothing => exact absurd (Nat.le_refl 0) (nothing 0 binds)
  | @next _ hit rest _ _ least later =>
    obtain rfl : hit = 0 := Nat.le_zero.mp (least 0 binds (Nat.le_refl 0))
    exact ⟨rest, later, rfl⟩

theorem isValue (assigns : Assigns text place) {key : List Char}
    (value : ValueOf (assignmentText text place) key) : IsValue key := by
  have order := assigns.order
  obtain ⟨_, _, start⟩ := assigns.places_part
  obtain ⟨c, here, word⟩ := assigns.value
  have there : (assignmentText text place)[valuePlace (assignmentText text place) 0]? = some c := by
    rw [getElem?_part (by omega), start, here]
  obtain ⟨rest, passes, rfl⟩ := assigns.exists_leftFrom value
  have onward (hit : Nat) (member : hit ∈ rest) : valuePlace (assignmentText text place) 0 < hit := by
    have bound := (passes.apart (finds_bindings _).onward).1 hit member
    obtain ⟨d, found, edge⟩ := (passes.mem member).edge
    refine Nat.lt_of_le_of_ne bound ?_
    rintro rfl
    obtain rfl := Option.some.inj (there.symm.trans found)
    exact Bool.false_ne_true (edge.symm.trans word)
  have head := @head?_leftFrom _ _ id (valuePlace (assignmentText text place)) _ rest c there onward
  obtain ⟨body, left, clean⟩ := leftFrom_closed assigns.close_part assigns.length_part passes (by omega)
    fun i after before => assigns.plain_part after before
  rw [left] at head ⊢
  refine ⟨⟨c, head, word⟩, by simp, ?_⟩
  rw [List.count_append, List.count_eq_zero.mpr clean]
  rfl

end Assigns

/-- The typed assignments of a text, read directly from left to right, give the keys in their order. Each
    is the first from where the one before it was closed. One inside the value of another gives no key,
    and the other's key lacks all of it that stands before its own value. -/
theorem assigned_is_direct (text : List Char) :
    ∃ places, Passage id (closePlace text · + 1) (Assigns text) places ∧
      List.Forall₂ (fun place key => ValueOf (assignmentText text place) key ∧ IsValue key) places
        (assigned text) := by
  obtain ⟨places, passes, found⟩ := (finds_assignments text).findAll
  refine ⟨places, passes.passage fun _ _ _ _ same => same, ?_⟩
  rw [assigned, found, List.map_map, List.forall₂_map_right_iff, List.forall₂_same]
  intro place member
  have assigns := passes.mem member
  have part : (between text place (closePlace text place + 1)).text = assignmentText text place :=
    text_between assigns.inside
  have value : ValueOf (assignmentText text place) (erase assignmentOpening (assignmentText text place)) := by
    obtain ⟨bindings, ran, erased⟩ := (finds_bindings (assignmentText text place)).erase
    exact ⟨bindings, ran.passage fun _ _ _ _ same => same, erased⟩
  rw [Function.comp]
  simp only [id]
  rw [part]
  exact ⟨value, assigns.isValue value⟩

example : assigned " Color a = b, Color c = d; Color e == f;".toList = ["b,d;".toList] := by
  decide +kernel

end SourceCensus.Color
