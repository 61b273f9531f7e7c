import SourceCensus.Proofs.Color.Call

/-! Keys by the arguments they come from. An argument takes at least one character, so a parenthesis
   right behind the opening does not close the call: it goes into the argument, with all that follows
   up to the next one. -/
namespace SourceCensus.Color
open Text Pattern

def Call.argument (call : Call) (text : List Char) : List Char :=
  (text.drop call.opening.argument).take (call.close - call.opening.argument)

def OpensWith (c : Char) (rest : List Char) : Prop :=
  isAsciiWord c = false ∧ "Color(".toList <+: rest

instance (c : Char) (rest : List Char) : Decidable (OpensWith c rest) :=
  inferInstanceAs (Decidable (_ ∧ _))

/-- What further openings leave of an argument. -/
def bare : List Char → List Char
  | [] => []
  | c :: rest => if OpensWith c rest then bare (rest.drop 6) else c :: bare rest
  termination_by text => text.length
  decreasing_by
    · simp only [List.length_drop, List.length_cons]
      omega
    · simp

/-- The call swallows a parenthesis that was meant to close it. -/
def Swallows (argument : List Char) : Prop :=
  ∃ rest, argument = ')' :: rest ∧ ¬ OpensWith ')' rest

inductive OnlyOpenings : List Char → Prop
  | nil : OnlyOpenings []
  | cons {c : Char} {rest : List Char} (opens : OpensWith c rest)
      (more : OnlyOpenings (rest.drop 6)) : OnlyOpenings (c :: rest)

theorem mem_of_mem_bare {c : Char} {text : List Char} (member : c ∈ bare text) : c ∈ text := by
  fun_induction bare text with
  | case1 => exact member
  | case2 d rest opens ih => exact List.mem_cons_of_mem d (List.mem_of_mem_drop (ih member))
  | case3 d rest plain ih =>
    rcases List.mem_cons.mp member with rfl | later
    · simp
    · simp [ih later]

theorem bare_eq_nil_iff (text : List Char) : bare text = [] ↔ OnlyOpenings text := by
  fun_induction bare text with
  | case1 => simp [OnlyOpenings.nil]
  | case2 c rest opens ih =>
    rw [ih]
    constructor
    · intro more
      exact .cons opens more
    · intro only
      cases only with
      | cons _ more => exact more
  | case3 c rest plain ih =>
    simp only [List.cons_ne_nil, false_iff]
    intro only
    cases only with
    | cons opens => exact plain opens

theorem opensWith_append_iff (c : Char) (rest : List Char) :
    OpensWith c (rest ++ [')']) ↔ OpensWith c rest := by
  have last : ¬ "Color(".toList = rest ++ [')'] := by
    intro same
    have ends := congrArg List.getLast? same
    simp at ends
  simp only [OpensWith, List.prefix_concat_iff, last, false_or]

theorem bare_append (text : List Char) : bare (text ++ [')']) = bare text ++ [')'] := by
  fun_induction bare text with
  | case1 => simp [bare, OpensWith]
  | case2 c rest opens ih =>
    have long : 6 ≤ rest.length := opens.2.length_le
    rw [List.cons_append, bare, if_pos ((opensWith_append_iff c rest).mpr opens),
      List.drop_append_of_le_length long, ih]
  | case3 c rest plain ih =>
    rw [List.cons_append, bare, if_neg (fun opens => plain ((opensWith_append_iff c rest).mp opens)),
      ih, List.cons_append]

section
variable {text : List Char} {place : Nat}

theorem opensWith_iff_standsIn {c : Char} (here : text[place]? = some c) :
    OpensWith c (text.drop (place + 1)) ↔ (Opening.mk place (place + 7)).StandsIn text := by
  constructor
  · intro opens
    exact .inner here opens.1 opens.2
  · intro stands
    cases stands with
    | inner found edge word =>
      obtain rfl := Option.some.inj (here.symm.trans found)
      exact ⟨edge, word⟩

theorem bare_drop_opening {o : Opening} (stands : o.StandsIn text) (behind : 0 < o.place) :
    bare (text.drop o.place) = bare (text.drop o.argument) := by
  cases stands with
  | inner here edge word =>
    rw [drop_of_getElem? here, bare, if_pos ⟨edge, word⟩, List.drop_drop]
  | first => exact absurd behind (Nat.lt_irrefl 0)

theorem bare_drop_plain (text : List Char) (place n : Nat)
    (plain : ∀ o : Opening, o.StandsIn text → place ≤ o.place → place + n ≤ o.place) :
    bare (text.drop place) = (text.drop place).take n ++ bare (text.drop (place + n)) := by
  induction n generalizing place with
  | zero => simp
  | succ n ih =>
    cases here : text[place]? with
    | none =>
      have ends : text.length ≤ place := List.getElem?_eq_none_iff.mp here
      simp [List.drop_eq_nil_of_le ends, List.drop_eq_nil_of_le (Nat.le_add_right_of_le ends), bare]
    | some c =>
      have closed : ¬ OpensWith c (text.drop (place + 1)) := by
        intro opens
        have far := plain _ ((opensWith_iff_standsIn here).mp opens) (Nat.le_refl place)
        simp only at far
        omega
      have later := ih (place + 1) (by
        intro o stands after
        have far := plain o stands (by omega)
        omega)
      have shift : place + 1 + n = place + (n + 1) := by omega
      rw [drop_of_getElem? here, bare, if_neg closed, later, List.take_succ_cons, List.cons_append,
        shift]

theorem keep_eq_bare {openings : List Opening} (behind : 0 < place)
    (passes : LeftToRight Opening.place Opening.argument (·.StandsIn text) place openings) :
    keep text place openings = bare (text.drop place) := by
  induction passes with
  | @done place nothing =>
    have plain := bare_drop_plain text place (text.length - place) (by
      intro o stands after
      exact absurd after (nothing o stands))
    have ends : text.length ≤ place + (text.length - place) := by omega
    rw [keep, plain, List.drop_eq_nil_of_le ends, bare, List.append_nil, List.take_of_length_le]
    simp
  | @next place o rest stands after first later ih =>
    have bounds := stands.bounds.1
    have plain := bare_drop_plain text place (o.place - place) (by
      intro other also onward
      have far := first other also onward
      omega)
    rw [Nat.add_sub_cancel' after] at plain
    rw [keep, ih (by omega), plain, bare_drop_opening stands (by omega)]

end

namespace Call
variable {text : List Char} {call : Call}

theorem StandsIn.opening_text (stands : call.StandsIn text) :
    ∃ o : Opening, o.StandsIn (call.text text) ∧ o.place = 0 ∧
      call.opening.place + o.argument = call.opening.argument := by
  obtain ⟨opens, closes⟩ := stands
  obtain ⟨⟨place, argument⟩, close⟩ := call
  have after := closes.after
  have six : "Color(".toList.length = 6 := rfl
  cases opens with
  | @inner _ c here edge word =>
    simp only [Call.text] at after ⊢
    refine ⟨⟨0, 7⟩, .inner (c := c) ?_ edge ?_, rfl, rfl⟩
    · rw [List.getElem?_take_of_lt (by omega), List.getElem?_drop]
      exact here
    · rw [List.drop_take, List.drop_drop, List.prefix_take_iff]
      exact ⟨word, by omega⟩
  | first word =>
    simp only [Call.text] at after ⊢
    refine ⟨⟨0, 6⟩, .first ?_, rfl, rfl⟩
    rw [List.drop_zero, List.prefix_take_iff]
    exact ⟨word, by omega⟩

theorem StandsIn.drop_text (stands : call.StandsIn text) :
    (call.text text).drop (call.opening.argument - call.opening.place) =
      call.argument text ++ [')'] := by
  have opens := stands.1.bounds.1
  have after := stands.2.after
  have here := stands.2.here
  have start : call.opening.place + (call.opening.argument - call.opening.place) =
      call.opening.argument := by omega
  have width : call.close + 1 - call.opening.place - (call.opening.argument - call.opening.place) =
      call.close - call.opening.argument + 1 := by omega
  have last : (text.drop call.opening.argument)[call.close - call.opening.argument]? = some ')' := by
    rw [List.getElem?_drop, Nat.add_sub_cancel' (by omega)]
    exact here
  rw [Call.text, Call.argument, List.drop_take, List.drop_drop, start, width, List.take_add_one, last]
  rfl

/-- An argument takes at least one character, and behind that one holds no parenthesis. -/
theorem StandsIn.argument_shape (stands : call.StandsIn text) :
    ∃ c rest, call.argument text = c :: rest ∧ ')' ∉ rest := by
  obtain ⟨-, closes⟩ := stands
  obtain ⟨inside, -⟩ := List.getElem?_eq_some_iff.mp closes.here
  have after := closes.after
  cases shape : call.argument text with
  | nil =>
    have length := congrArg List.length shape
    simp only [Call.argument, List.length_take, List.length_drop, List.length_nil] at length
    omega
  | cons c rest =>
    refine ⟨c, rest, rfl, ?_⟩
    intro member
    obtain ⟨i, found⟩ := List.mem_iff_getElem?.mp member
    have place : (call.argument text)[i + 1]? = some ')' := by
      rw [shape, List.getElem?_cons_succ, found]
    rw [Call.argument, List.getElem?_take] at place
    split at place
    · rw [List.getElem?_drop] at place
      exact closes.first _ (by omega) (by omega) place
    · cases place

end Call

theorem dropClosing_erase_text {text : List Char} {call : Call} (stands : call.StandsIn text) :
    dropClosing (erase callOpening (call.text text)) =
      (bare (call.argument text)).rdropWhile (· == ')') := by
  obtain ⟨first, opens, start, width⟩ := stands.opening_text
  obtain ⟨openings, passes, erased⟩ := erase_callOpening (call.text text)
  have left : keep (call.text text) 0 openings = bare (call.argument text) ++ [')'] := by
    cases passes with
    | done nothing => exact absurd (Nat.zero_le _) (nothing first opens)
    | @next _ o rest occurs after least later =>
      have sooner := least first opens (Nat.zero_le _)
      obtain rfl : o = first := occurs.unique opens (by omega)
      have moved := opens.bounds.1
      have offset : o.argument = call.opening.argument - call.opening.place := by omega
      rw [keep, keep_eq_bare (by omega) later, offset, stands.drop_text, bare_append, start]
      rfl
  rw [erased, left, dropClosing, ← List.rdropWhile, List.rdropWhile_concat_pos _ _ _ rfl]

theorem rdropWhile_of_notMem {left : List Char} (none : ')' ∉ left) :
    left.rdropWhile (· == ')') = left := by
  rw [List.rdropWhile_eq_self_iff]
  intro nonempty
  simp only [beq_iff_eq]
  intro last
  exact none (last ▸ List.getLast_mem nonempty)

theorem plain_rdropWhile_iff {argument : List Char} {c : Char} {rest : List Char}
    (shape : argument = c :: rest) (none : ')' ∉ rest) :
    ((bare argument).rdropWhile (· == ')') ≠ [] ∧ ')' ∉ (bare argument).rdropWhile (· == ')')) ↔
      ¬ Swallows argument ∧ ¬ OnlyOpenings argument := by
  subst shape
  rw [← bare_eq_nil_iff]
  by_cases opens : OpensWith c rest
  · have left : bare (c :: rest) = bare (rest.drop 6) := by rw [bare, if_pos opens]
    have free : ')' ∉ bare (rest.drop 6) := by
      intro member
      exact none (List.mem_of_mem_drop (mem_of_mem_bare member))
    have sound : ¬ Swallows (c :: rest) := by
      rintro ⟨other, same, closed⟩
      obtain ⟨rfl, rfl⟩ := List.cons.inj same
      exact closed opens
    rw [left, rdropWhile_of_notMem free]
    simp [free, sound]
  · have left : bare (c :: rest) = c :: bare rest := by rw [bare, if_neg opens]
    have free : ')' ∉ bare rest := by
      intro member
      exact none (mem_of_mem_bare member)
    rw [left]
    by_cases swallowed : c = ')'
    · subst swallowed
      have swallows : Swallows (')' :: rest) := ⟨rest, rfl, opens⟩
      simp only [swallows, not_true_eq_false, false_and, iff_false, not_and, not_not]
      intro nonempty
      obtain ⟨d, more, kept⟩ := List.exists_cons_of_ne_nil nonempty
      have start := List.rdropWhile_prefix (· == ')') (l := ')' :: bare rest)
      rw [kept] at start ⊢
      obtain ⟨rfl, -⟩ := List.cons_prefix_cons.mp start
      simp
    · have sound : ¬ Swallows (c :: rest) := by
        rintro ⟨other, same, -⟩
        exact swallowed (List.cons.inj same).1
      have whole : ')' ∉ c :: bare rest := by simp [free, Ne.symm swallowed]
      rw [rdropWhile_of_notMem whole]
      simp [whole, sound]

theorem constructed_forall₂ {text : List Char} {holds : Call → List Char → Prop}
    (each : ∀ call : Call, call.StandsIn text →
      holds call ((bare (call.argument text)).rdropWhile (· == ')'))) :
    ∃ calls : List Call, (∀ others, Calls text 0 others ↔ others = calls) ∧
      List.Forall₂ holds calls (constructed text) := by
  obtain ⟨calls, passes, found⟩ := (finds_calls text).findAll
  have direct := calls_of_leftToRight passes
  refine ⟨calls, ?_, ?_⟩
  · intro others
    constructor
    · intro also
      exact also.unique direct
    · rintro rfl
      exact direct
  · rw [constructed, found, List.map_map, List.forall₂_map_right_iff, List.forall₂_same]
    intro call member
    have stands := passes.mem member
    have called : (between text call.opening.place (call.close + 1)).text = call.text text :=
      text_between stands.bounds.2
    rw [Function.comp, called, dropClosing_erase_text stands]
    exact each call stands

/-- The key of a call is what further openings leave of its argument, without the parentheses at its
    end. It is plain text exactly if the argument neither starts with a parenthesis, which the call
    swallows with all up to the next one, nor is made of openings only. -/
theorem constructed_plain_iff (text : List Char) :
    ∃ calls : List Call, (∀ others, Calls text 0 others ↔ others = calls) ∧
      List.Forall₂ (fun call key => key = (bare (call.argument text)).rdropWhile (· == ')') ∧
        ((key ≠ [] ∧ ')' ∉ key) ↔
          ¬ Swallows (call.argument text) ∧ ¬ OnlyOpenings (call.argument text)))
        calls (constructed text) := by
  apply constructed_forall₂
  intro call stands
  obtain ⟨c, rest, shape, none⟩ := stands.argument_shape
  exact ⟨rfl, plain_rdropWhile_iff shape none⟩

/-- A call without an argument takes the text behind it up to the next parenthesis for one. -/
theorem constructed_swallows :
    constructed "Color()\nx = f(1);".toList = [")\nx = f(1".toList] ∧
      constructed "Color())".toList = [[]] := by
  constructor
  · decide +kernel
  · decide +kernel

end SourceCensus.Color
