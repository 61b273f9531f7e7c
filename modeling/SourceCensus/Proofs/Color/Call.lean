import Mathlib.Data.List.DropRight
import Mathlib.Data.List.Forall2
import SourceCensus.Color.Key
import SourceCensus.Proofs.Pattern.Loop
import SourceCensus.Proofs.Pattern.Search

/-! Constructor calls by their places in a text, apart from the pattern that finds them: where a call
   opens, the parenthesis that closes it, and what of it is its key. -/
namespace SourceCensus.Color
open Text Pattern

structure Opening where
  place : Nat
  argument : Nat
  deriving DecidableEq, Repr

/-- A call opens with the character before it, which belongs to no word, or with the text itself. -/
inductive Opening.StandsIn (text : List Char) : Opening → Prop
  | inner {place : Nat} {c : Char} (here : text[place]? = some c) (edge : isAsciiWord c = false)
      (word : "Color(".toList <+: text.drop (place + 1)) : StandsIn text ⟨place, place + 7⟩
  | first (word : "Color(".toList <+: text) : StandsIn text ⟨0, 6⟩

structure Opening.FirstFrom (o : Opening) (text : List Char) (place : Nat) : Prop where
  stands : o.StandsIn text
  after : place ≤ o.place
  first : ∀ other : Opening, other.StandsIn text → place ≤ other.place → o.place ≤ other.place

/-- The first closing parenthesis that leaves at least one character to the argument. -/
structure Closes (text : List Char) (argument close : Nat) : Prop where
  after : argument + 1 ≤ close
  here : text[close]? = some ')'
  first : ∀ i, argument + 1 ≤ i → i < close → text[i]? ≠ some ')'

structure Call where
  opening : Opening
  close : Nat
  deriving DecidableEq, Repr

/-- The calls from a place on. Behind an opening that is never closed there are none. -/
inductive Calls (text : List Char) : Nat → List Call → Prop
  | done {place : Nat} (nothing : ∀ o : Opening, o.StandsIn text → ¬ place ≤ o.place) :
      Calls text place []
  | unclosed {place : Nat} {o : Opening} (opens : o.FirstFrom text place)
      (never : ∀ close, ¬ Closes text o.argument close) : Calls text place []
  | next {place close : Nat} {o : Opening} {rest : List Call} (opens : o.FirstFrom text place)
      (closes : Closes text o.argument close) (later : Calls text (close + 1) rest) :
      Calls text place (⟨o, close⟩ :: rest)

def Call.text (call : Call) (text : List Char) : List Char :=
  (text.drop call.opening.place).take (call.close + 1 - call.opening.place)

def keep (text : List Char) : Nat → List Opening → List Char
  | place, [] => text.drop place
  | place, o :: rest => (text.drop place).take (o.place - place) ++ keep text o.argument rest

/-- What a call leaves when its openings are taken out from left to right, and the closing parentheses
    at its end. -/
def KeyOf (called key : List Char) : Prop :=
  ∃ openings, Passage Opening.place Opening.argument (·.StandsIn called) openings ∧
    key = (keep called 0 openings).rdropWhile (· == ')')

section
variable {text : List Char} {place close : Nat} {o other : Opening}

theorem no_word_at_edge {c : Char} {rest : List Char} (edge : isAsciiWord c = false) :
    ¬ "Color(".toList <+: c :: rest := by
  intro word
  obtain ⟨rfl, _⟩ := List.cons_prefix_cons.mp word
  exact absurd edge (by decide)

theorem Opening.StandsIn.unique (stands : o.StandsIn text) (also : other.StandsIn text)
    (same : o.place = other.place) : o = other := by
  cases stands with
  | @inner place c here edge word =>
    cases also with
    | inner =>
      obtain rfl : place = _ := same
      rfl
    | first start =>
      obtain rfl : place = 0 := same
      rw [← List.drop_zero (l := text), drop_of_getElem? here] at start
      exact absurd start (no_word_at_edge edge)
  | first start =>
    cases also with
    | @inner place c here edge word =>
      obtain rfl : 0 = place := same
      rw [← List.drop_zero (l := text), drop_of_getElem? here] at start
      exact absurd start (no_word_at_edge edge)
    | first => rfl

theorem Opening.StandsIn.bounds (stands : o.StandsIn text) :
    o.place < o.argument ∧ o.argument ≤ text.length := by
  cases stands with
  | @inner place c here edge word =>
    have length := word.length_le
    rw [List.length_drop] at length
    have six : "Color(".toList.length = 6 := rfl
    simp only
    omega
  | first word => exact ⟨Nat.succ_pos 5, word.length_le⟩

theorem Opening.StandsIn.argument_le (stands : o.StandsIn text) (also : other.StandsIn text)
    (order : o.place ≤ other.place) : o.argument ≤ other.argument := by
  rcases Nat.eq_or_lt_of_le order with same | before
  · rw [stands.unique also same]
  · have near : o.argument ≤ o.place + 7 := by
      cases stands <;> simp
    cases also with
    | inner =>
      simp only at before ⊢
      omega
    | first => exact absurd before (Nat.not_lt_zero _)

theorem Opening.FirstFrom.unique (first : o.FirstFrom text place)
    (also : other.FirstFrom text place) : o = other :=
  first.stands.unique also.stands
    (Nat.le_antisymm (first.first _ also.stands also.after) (also.first _ first.stands first.after))

theorem Opening.StandsIn.exists_firstFrom (stands : o.StandsIn text) (after : place ≤ o.place) :
    ∃ first : Opening, first.FirstFrom text place := by
  classical
  have some : ∃ n, ∃ o : Opening, o.StandsIn text ∧ place ≤ o.place ∧ o.place = n :=
    ⟨_, o, stands, after, rfl⟩
  obtain ⟨first, stands, later, same⟩ := Nat.find_spec some
  refine ⟨first, stands, later, fun other also behind => ?_⟩
  rw [same]
  exact Nat.find_min' some ⟨other, also, behind, rfl⟩

theorem Closes.unique {argument other : Nat} (closes : Closes text argument close)
    (also : Closes text argument other) : close = other := by
  rcases Nat.lt_trichotomy close other with before | same | after
  · exact absurd closes.here (also.first close closes.after before)
  · exact same
  · exact absurd also.here (closes.first other also.after after)

theorem exists_closes {argument : Nat} (after : argument + 1 ≤ close)
    (here : text[close]? = some ')') : ∃ first, Closes text argument first := by
  obtain ⟨first, _, later, found, sooner⟩ := exists_first after here
  exact ⟨first, later, found, sooner⟩

theorem Closes.of_later {argument later : Nat} (order : argument ≤ later)
    (closes : Closes text later close) : ∃ first, Closes text argument first :=
  exists_closes (by have after := closes.after; omega) closes.here

theorem Calls.unique {calls others : List Call} (left : Calls text place calls)
    (right : Calls text place others) : calls = others := by
  induction left generalizing others with
  | done nothing =>
    cases right with
    | done => rfl
    | unclosed => rfl
    | next opens => exact absurd opens.after (nothing _ opens.stands)
  | unclosed opens never =>
    cases right with
    | done => rfl
    | unclosed => rfl
    | next opens' closes =>
      obtain rfl := opens.unique opens'
      exact absurd closes (never _)
  | next opens closes later ih =>
    cases right with
    | done nothing => exact absurd opens.after (nothing _ opens.stands)
    | unclosed opens' never =>
      obtain rfl := opens.unique opens'
      exact absurd closes (never _)
    | next opens' closes' later' =>
      obtain rfl := opens.unique opens'
      obtain rfl := closes.unique closes'
      rw [ih later']

end

section
variable {text : List Char} {p : Progress} {o : Opening} {accept : Accepts}

theorem single_notWord : Single (fun p next => notWord.run p next) (!isAsciiWord ·) := by
  simpa [notWord, asciiSet, Category.holds] using single_category .word true

def afterEdge (p : Progress) (accept : Accepts) : Accepts :=
  fun q => (literally "Color(").run (q.remember 1 p.cursor) accept

theorem run_callOpening (p : Progress) (accept : Accepts) :
    callOpening.run p accept =
      ((p.take? (!isAsciiWord ·)).bind (afterEdge p accept)).or
        (if p.cursor.before.isEmpty then afterEdge p accept p else none) := by
  have edges : callOpening.run p accept = (notWord.run p (afterEdge p accept)).or
      ((Node.anchor .textStart).run p (afterEdge p accept)) := run_alt _ _ p _
  have edge : notWord.run p (afterEdge p accept) =
      (p.take? (!isAsciiWord ·)).bind (afterEdge p accept) := single_notWord p _
  rw [edges, edge]
  rfl

theorem afterEdge_eq (p q : Progress) (accept : Accepts) :
    afterEdge p accept q =
      if "Color(".toList <+: q.cursor.after then accept ((q.remember 1 p.cursor).skip 6) else none :=
  run_literally "Color(" _ accept

theorem run_callOpening_of_standsIn (at_place : p.cursor = Cursor.within text o.place)
    (stands : o.StandsIn text) : ∃ q : Progress, q.cursor = Cursor.within text o.argument ∧
      ∀ accept, callOpening.run p accept = accept q := by
  have after : p.cursor.after = text.drop o.place := by rw [at_place, Cursor.after_within]
  cases stands with
  | @inner place c here edge word =>
    simp only at at_place after
    rw [drop_of_getElem? here] at after
    refine ⟨((p.skip 1).remember 1 p.cursor).skip 6, ?_, fun accept => ?_⟩
    · have moved : (((p.skip 1).remember 1 p.cursor).skip 6).cursor = (p.skip 7).cursor := rfl
      rw [moved, Progress.cursor_skip, at_place, Cursor.forward_within]
    · have taken : p.take? (!isAsciiWord ·) = some (p.skip 1) := by
        rw [Progress.take?_of_cons _ after, edge]
        rfl
      -- if the text starts here, it does not start with the word
      have outside : ¬ "Color(".toList <+: p.cursor.after := by
        rw [after]
        exact no_word_at_edge edge
      have inside : "Color(".toList <+: (p.skip 1).cursor.after := by
        rwa [Progress.after_skip at_place]
      rw [run_callOpening, taken, Option.bind_some, afterEdge_eq, afterEdge_eq, if_pos inside,
        if_neg outside, ite_self, Option.or_none]
  | first word =>
    simp only at at_place after
    rw [List.drop_zero] at after
    refine ⟨(p.remember 1 p.cursor).skip 6, ?_, fun accept => ?_⟩
    · rw [Progress.cursor_skip]
      have same : (p.remember 1 p.cursor).cursor = p.cursor := rfl
      rw [same, at_place, Cursor.forward_within]
    · obtain ⟨rest, whole⟩ := word
      have taken : p.take? (!isAsciiWord ·) = none := by
        rw [Progress.take?_of_cons _ (after.trans whole.symm)]
        rfl
      have start : p.cursor.before.isEmpty = true := by
        rw [at_place]
        rfl
      rw [run_callOpening, taken, Option.bind_none, Option.none_or, if_pos start, afterEdge_eq,
        if_pos ⟨rest, whole.trans after.symm⟩]

theorem run_callOpening_eq_none {place : Nat} (at_place : p.cursor = Cursor.within text place)
    (inside : place ≤ text.length) (elsewhere : ∀ o : Opening, o.StandsIn text → o.place ≠ place)
    (accept : Accepts) : callOpening.run p accept = none := by
  have behind : (p.take? (!isAsciiWord ·)).bind (afterEdge p accept) = none := by
    cases here : text[place]? with
    | none =>
      have ends : p.cursor.after = [] := by
        rw [at_place, Cursor.after_within, List.drop_eq_nil_iff]
        exact List.getElem?_eq_none_iff.mp here
      unfold Progress.take?
      rw [ends]
      rfl
    | some c =>
      have after : p.cursor.after = c :: text.drop (place + 1) := by
        rw [at_place, Cursor.after_within, drop_of_getElem? here]
      rw [Progress.take?_of_cons _ after]
      cases edge : isAsciiWord c with
      | true => rfl
      | false =>
        rw [Bool.not_false, if_pos rfl, Option.bind_some, afterEdge_eq, if_neg]
        rw [Progress.after_skip at_place]
        exact fun word => elsewhere _ (.inner here edge word) rfl
  have start : (if p.cursor.before.isEmpty then afterEdge p accept p else none) = none := by
    split
    · rename_i first
      rw [at_place, Cursor.before_within, List.isEmpty_iff, List.reverse_eq_nil_iff,
        List.take_eq_nil_iff] at first
      obtain rfl : place = 0 := by
        rcases first with zero | rfl
        · exact zero
        · exact Nat.le_zero.mp inside
      rw [afterEdge_eq, at_place, Cursor.after_within, if_neg]
      exact fun word => elsewhere _ (.first word) rfl
    · rfl
  rw [run_callOpening, behind, start]
  rfl

theorem finds_openings (text : List Char) :
    Finds callOpening text Opening.place Opening.argument fun o => o.StandsIn text where
  onward _ stands := stands.bounds.1
  inside _ stands := stands.bounds.2
  found o stands := by
    have at_place : (Progress.mk (Cursor.within text o.place) []).cursor =
      Cursor.within text o.place := rfl
    obtain ⟨q, moved, ran⟩ := run_callOpening_of_standsIn at_place stands
    rw [matchAt?_still, ran, Option.map_some, moved]
    rfl
  missed place inside elsewhere := by
    rw [matchAt?_still, run_callOpening_eq_none rfl inside elsewhere]
    rfl

def argumentNode : Node := .seq (.loop 1 none .lazy (.any true)) (literally ")")

theorem run_argumentNode (p : Progress) :
    argumentNode.run p some = loopRun (fun p next => (Node.any true).run p next) 1 none .lazy p
      fun q => if [')'] <+: q.cursor.after then some (q.skip 1) else none := by
  have closing : (fun q => (literally ")").run q some) =
      fun q => if [')'] <+: q.cursor.after then some (q.skip 1) else none := by
    funext q
    exact run_literally ")" q some
  rw [← closing]
  rfl

theorem run_argumentNode_of_closes {argument close : Nat}
    (at_argument : p.cursor = Cursor.within text argument) (closes : Closes text argument close) :
    argumentNode.run p some = some (p.skip (close + 1 - argument)) := by
  have after := closes.after
  have width : close + 1 - argument = close - argument + 1 := by omega
  rw [run_argumentNode, width]
  apply loopRun_any_closes at_argument (by omega)
  · rw [Nat.add_sub_cancel' (by omega)]
    exact closes.here
  · intro m least before
    exact closes.first _ (by omega) (by omega)

theorem run_argumentNode_eq_none {argument : Nat}
    (at_argument : p.cursor = Cursor.within text argument)
    (never : ∀ close, ¬ Closes text argument close) : argumentNode.run p some = none := by
  rw [run_argumentNode]
  apply loopRun_any_eq_none at_argument
  intro n least here
  obtain ⟨first, closes⟩ := exists_closes (show argument + 1 ≤ argument + n by omega) here
  exact never first closes

end

def Call.StandsIn (text : List Char) (call : Call) : Prop :=
  call.opening.StandsIn text ∧ Closes text call.opening.argument call.close

theorem Call.StandsIn.bounds {text : List Char} {call : Call} (stands : call.StandsIn text) :
    call.opening.place < call.close + 1 ∧ call.close + 1 ≤ text.length := by
  have opens := stands.1.bounds.1
  have after := stands.2.after
  obtain ⟨inside, _⟩ := List.getElem?_eq_some_iff.mp stands.2.here
  omega

theorem run_call (p : Progress) :
    call.run p some = callOpening.run p fun q => argumentNode.run q some := rfl

theorem finds_calls (text : List Char) :
    Finds call text (·.opening.place) (·.close + 1) (Call.StandsIn text) where
  onward _ stands := stands.bounds.1
  inside _ stands := stands.bounds.2
  found c stands := by
    have at_place : (Progress.mk (Cursor.within text c.opening.place) []).cursor =
      Cursor.within text c.opening.place := rfl
    obtain ⟨q, moved, ran⟩ := run_callOpening_of_standsIn at_place stands.1
    have after := stands.2.after
    rw [matchAt?_still, run_call, ran, run_argumentNode_of_closes moved stands.2, Option.map_some,
      Progress.cursor_skip, moved, Cursor.forward_within, Nat.add_sub_cancel' (by omega)]
    rfl
  missed place inside elsewhere := by
    rw [matchAt?_still, run_call, Option.map_eq_none_iff]
    by_cases opens : ∃ o : Opening, o.StandsIn text ∧ o.place = place
    · obtain ⟨o, stands, rfl⟩ := opens
      have at_place : (Progress.mk (Cursor.within text o.place) []).cursor =
        Cursor.within text o.place := rfl
      obtain ⟨q, moved, ran⟩ := run_callOpening_of_standsIn at_place stands
      rw [ran]
      exact run_argumentNode_eq_none moved fun close closes => elsewhere ⟨o, close⟩ ⟨stands, closes⟩ rfl
    · exact run_callOpening_eq_none rfl inside
        (fun o stands same => opens ⟨o, stands, same⟩) _

theorem calls_of_leftToRight {text : List Char} {place : Nat} {calls : List Call}
    (passes : LeftToRight (·.opening.place) (·.close + 1) (Call.StandsIn text) place calls) :
    Calls text place calls := by
  induction passes with
  | @done place nothing =>
    by_cases opens : ∃ o : Opening, o.StandsIn text ∧ place ≤ o.place
    · obtain ⟨o, stands, after⟩ := opens
      obtain ⟨first, opens⟩ := stands.exists_firstFrom after
      exact .unclosed opens fun close closes =>
        nothing ⟨first, close⟩ ⟨opens.stands, closes⟩ opens.after
    · exact .done fun o stands after => opens ⟨o, stands, after⟩
  | @next place call rest occurs after first later ih =>
    obtain ⟨o, close⟩ := call
    obtain ⟨stands, closes⟩ := occurs
    refine .next ⟨stands, after, fun other also behind => ?_⟩ closes ih
    -- an opening before the first call would be closed where that call is closed, or sooner
    rcases Nat.le_total o.place other.place with order | sooner
    · exact order
    · obtain ⟨last, ends⟩ := closes.of_later (also.argument_le stands sooner)
      exact first ⟨other, last⟩ ⟨also, ends⟩ behind

theorem keep_eq_leftFrom (text : List Char) (place : Nat) (openings : List Opening) :
    keep text place openings = leftFrom text Opening.place Opening.argument place openings := by
  induction openings generalizing place with
  | nil => rfl
  | cons o rest ih => rw [keep, leftFrom, ih]

theorem erase_callOpening (text : List Char) :
    ∃ openings, LeftToRight Opening.place Opening.argument (·.StandsIn text) 0 openings ∧
      erase callOpening text = keep text 0 openings := by
  obtain ⟨openings, passes, erased⟩ := (finds_openings text).erase
  exact ⟨openings, passes, by rw [erased, keep_eq_leftFrom]⟩

theorem keyOf_dropClosing_erase (called : List Char) :
    KeyOf called (dropClosing (erase callOpening called)) := by
  obtain ⟨openings, passes, erased⟩ := erase_callOpening called
  refine ⟨openings, passes.passage fun _ _ stands also => stands.unique also, ?_⟩
  rw [erased]
  rfl

/-- The constructor calls of a text, read directly from left to right, give the keys in their order.
    The calls do not overlap, and the reading leaves no choice. -/
theorem constructed_is_direct (text : List Char) :
    ∃ calls : List Call, (∀ others, Calls text 0 others ↔ others = calls) ∧
      List.Forall₂ (fun call key => KeyOf (call.text text) key) calls (constructed text) ∧
      calls.Pairwise fun a b => a.close < b.opening.place := by
  obtain ⟨calls, passes, found⟩ := (finds_calls text).findAll
  have direct := calls_of_leftToRight passes
  refine ⟨calls, fun others => ⟨fun also => also.unique direct, ?_⟩, ?_, ?_⟩
  · rintro rfl
    exact direct
  · rw [constructed, found, List.map_map, List.forall₂_map_right_iff, List.forall₂_same]
    intro c member
    have called : (between text c.opening.place (c.close + 1)).text = c.text text :=
      text_between (passes.mem member).bounds.2
    rw [Function.comp, called]
    exact keyOf_dropClosing_erase (c.text text)
  · exact (passes.apart (finds_calls text).onward).2

end SourceCensus.Color
