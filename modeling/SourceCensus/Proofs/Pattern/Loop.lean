import Mathlib.Data.List.TakeWhile
import Mathlib.Data.Nat.Find
import SourceCensus.Pattern.Match
import SourceCensus.Proofs.Text.Run

/-! Words, and loops over single characters. A greedy loop offers its rest the longest run first and then
   ever shorter ones, a lazy loop the shortest first; the first run that the rest accepts wins. -/
namespace SourceCensus.Pattern
open Text

namespace Progress

def skip (p : Progress) (n : Nat) : Progress := { p with cursor := p.cursor.forward n }

@[simp] theorem skip_zero (p : Progress) : p.skip 0 = p := rfl

@[simp] theorem cursor_skip (p : Progress) (n : Nat) : (p.skip n).cursor = p.cursor.forward n := rfl

@[simp] theorem skip_skip (p : Progress) (m n : Nat) : (p.skip m).skip n = p.skip (m + n) := by
  simp only [skip, Cursor.forward_forward]

theorem left_skip (p : Progress) (n : Nat) : (p.skip n).left = p.left - n := by
  simp only [left, skip, Cursor.left_eq, Cursor.length_after_forward]

/-- How many characters in a row the test allows from here on. -/
def reach (p : Progress) (test : Char → Bool) : Nat := (p.cursor.after.takeWhile test).length

theorem reach_le_left (p : Progress) (test : Char → Bool) : p.reach test ≤ p.left := by
  rw [left, Cursor.left_eq]
  exact (List.takeWhile_prefix test).length_le

theorem take?_of_cons {p : Progress} {c : Char} {rest : List Char} (test : Char → Bool)
    (ahead : p.cursor.after = c :: rest) :
    p.take? test = if test c then some (p.skip 1) else none := by
  unfold take?
  rw [ahead]
  rfl

theorem take?_of_reach_zero {p : Progress} {test : Char → Bool} (none : p.reach test = 0) :
    p.take? test = .none := by
  unfold reach at none
  cases ahead : p.cursor.after with
  | nil =>
    unfold take?
    rw [ahead]
  | cons c rest =>
    rw [ahead, List.takeWhile_cons] at none
    split at none
    · cases none
    · rename_i refused
      rw [take?_of_cons test ahead, if_neg refused]

theorem take?_of_reach_succ {p : Progress} {test : Char → Bool} {n : Nat}
    (some : p.reach test = n + 1) : p.take? test = .some (p.skip 1) ∧ (p.skip 1).reach test = n := by
  unfold reach at some
  cases ahead : p.cursor.after with
  | nil =>
    rw [ahead] at some
    cases some
  | cons c rest =>
    rw [ahead, List.takeWhile_cons] at some
    split at some
    · rename_i allowed
      refine ⟨by rw [take?_of_cons test ahead, if_pos allowed], ?_⟩
      rw [reach, cursor_skip, Cursor.after_forward, ahead]
      exact Nat.succ.inj some
    · cases some

theorem reach_skip {p : Progress} {test : Char → Bool} {n : Nat} (inside : n ≤ p.reach test) :
    (p.skip n).reach test + n = p.reach test := by
  induction n generalizing p with
  | zero => rfl
  | succ n ih =>
    cases reach : p.reach test with
    | zero => omega
    | succ more =>
      have later := (take?_of_reach_succ reach).2
      have rest : ((p.skip 1).skip n).reach test + n = (p.skip 1).reach test := ih (by omega)
      rw [skip_skip, Nat.add_comm 1] at rest
      omega

theorem le_reach_iff {p : Progress} {test : Char → Bool} {n : Nat} :
    n ≤ p.reach test ↔ ∀ i < n, ∃ c, p.cursor.after[i]? = some c ∧ test c = true :=
  le_length_takeWhile_iff

theorem reach_stops {p : Progress} {test : Char → Bool} {c : Char}
    (here : p.cursor.after[p.reach test]? = some c) : test c = false :=
  length_takeWhile_stops here

theorem reach_eq {p : Progress} {test : Char → Bool} {n : Nat}
    (allowed : ∀ i < n, ∃ c, p.cursor.after[i]? = some c ∧ test c = true)
    (ends : ∀ c, p.cursor.after[n]? = some c → test c = false) : p.reach test = n :=
  length_takeWhile_eq allowed ends

section
variable {p : Progress} {text : List Char} {place : Nat}

theorem after_skip (at_place : p.cursor = Cursor.within text place) (n : Nat) :
    (p.skip n).cursor.after = text.drop (place + n) := by
  rw [cursor_skip, at_place, Cursor.forward_within, Cursor.after_within]

theorem getElem?_after (at_place : p.cursor = Cursor.within text place) (i : Nat) :
    p.cursor.after[i]? = text[place + i]? := by
  rw [at_place, Cursor.after_within, List.getElem?_drop]

end

def within (text : List Char) (place : Nat) : Progress := ⟨Cursor.within text place, []⟩

theorem skip_within (text : List Char) (place n : Nat) :
    (within text place).skip n = within text (place + n) := by
  rw [skip, within, within, Cursor.forward_within]

theorem add_reach_within (text : List Char) (place : Nat) (test : Char → Bool) :
    place + (within text place).reach test = runEnd test text place := by
  rw [reach, within, Cursor.after_within, runEnd]

end Progress

def Single (body : Runner) (test : Char → Bool) : Prop :=
  ∀ p accept, body p accept = (p.take? test).bind accept

section
variable {body : Runner} {test : Char → Bool} {p : Progress} {accept : Accepts}

theorem Single.of_reach_zero (single : Single body test) (none : p.reach test = 0) :
    body p accept = .none := by
  rw [single, Progress.take?_of_reach_zero none]
  rfl

theorem Single.of_reach_succ {n : Nat} (single : Single body test) (some : p.reach test = n + 1) :
    body p accept = accept (p.skip 1) := by
  rw [single, (Progress.take?_of_reach_succ some).1]
  rfl

theorem Single.run_within (single : Single body test) (text : List Char) (place : Nat)
    (accept : Accepts) :
    body (.within text place) accept =
      if place < runEnd test text place then accept (.within text (place + 1)) else none := by
  have reached := Progress.add_reach_within text place test
  cases reach : (Progress.within text place).reach test with
  | zero => rw [single.of_reach_zero reach, if_neg (by omega)]
  | succ n => rw [single.of_reach_succ reach, if_pos (by omega), Progress.skip_within]

theorem times_single (single : Single body test) (count : Nat) :
    times body count p accept = if count ≤ p.reach test then accept (p.skip count) else none := by
  induction count generalizing p with
  | zero => rfl
  | succ count ih =>
    rw [times]
    cases reach : p.reach test with
    | zero => rw [single.of_reach_zero reach, if_neg (Nat.not_succ_le_zero count)]
    | succ n =>
      rw [single.of_reach_succ reach, ih, (Progress.take?_of_reach_succ reach).2,
        Progress.skip_skip, Nat.add_comm 1]
      simp only [Nat.add_le_add_iff_right]

/-- The numbers of turns in the order in which they are offered to what follows a loop. -/
def offers (greedy : Bool) (most : Nat) : List Nat :=
  if greedy then (List.range (most + 1)).reverse else List.range (most + 1)

theorem mem_offers {greedy : Bool} {most n : Nat} : n ∈ offers greedy most ↔ n ≤ most := by
  have inside : n ∈ List.range (most + 1) ↔ n ≤ most := List.mem_range.trans Nat.lt_succ_iff
  cases greedy with
  | true => exact List.mem_reverse.trans inside
  | false => exact inside

theorem findSome?_offers_succ {α : Type} (greedy : Bool) (most : Nat) (offer : Nat → Option α) :
    (offers greedy (most + 1)).findSome? offer =
      if greedy then ((offers greedy most).findSome? fun n => offer (1 + n)).or (offer 0)
      else (offer 0).or ((offers greedy most).findSome? fun n => offer (1 + n)) := by
  have shifted : List.range (most + 1 + 1) = 0 :: (List.range (most + 1)).map (1 + ·) := by
    rw [List.range_succ_eq_map]
    simp only [Nat.add_comm 1]
  cases greedy with
  | true =>
    simp only [offers, if_true, shifted, List.reverse_cons, ← List.map_reverse,
      List.findSome?_append, List.findSome?_map, List.findSome?_singleton]
    rfl
  | false =>
    simp only [offers, Bool.false_eq_true, if_false, shifted, List.findSome?_cons,
      List.findSome?_map]
    cases offer 0 <;> rfl

theorem turns_single (single : Single body test) (greedy : Bool) {bound : Nat} {last : Option Nat}
    (enough : p.left < bound) (fresh : last ≠ some p.left) :
    turns body greedy bound last p accept =
      (offers greedy (p.reach test)).findSome? fun n => accept (p.skip n) := by
  induction bound generalizing p last with
  | zero => exact absurd enough (Nat.not_lt_zero _)
  | succ bound ih =>
    -- a turn that takes a character is never where the turn before it was
    rw [turns, if_neg fresh]
    cases reach : p.reach test with
    | zero =>
      rw [single.of_reach_zero reach]
      cases greedy <;> cases accepted : accept p <;> simp [offers, accepted]
    | succ n =>
      have more := Progress.reach_le_left p test
      have later := (Progress.take?_of_reach_succ reach).2
      have left := p.left_skip 1
      have again : turns body greedy bound (some p.left) (p.skip 1) accept =
          (offers greedy n).findSome? fun m => accept (p.skip (1 + m)) := by
        rw [ih (by omega) (by rw [left, Ne, Option.some.injEq]; omega), later]
        simp only [Progress.skip_skip]
      rw [single.of_reach_succ reach, again, findSome?_offers_succ, Progress.skip_zero]
      cases greedy with
      | true => cases (offers true n).findSome? fun m => accept (p.skip (1 + m)) <;> rfl
      | false => cases accept p <;> rfl

theorem loopRun_single (single : Single body test) (least : Nat) (greedy : Bool) :
    loopRun body least none (if greedy then .greedy else .lazy) p accept =
      if least ≤ p.reach test then
        (offers greedy (p.reach test - least)).findSome? fun n => accept (p.skip (least + n))
      else none := by
  have turned (q : Progress) : turns body greedy (q.left + 1) none q accept =
      (offers greedy (q.reach test)).findSome? fun n => accept (q.skip n) :=
    turns_single single greedy (Nat.lt_succ_self _) (by simp)
  have unfolded : loopRun body least none (if greedy then .greedy else .lazy) p accept =
      times body least p fun q => turns body greedy (q.left + 1) none q accept := by
    cases greedy <;> rfl
  rw [unfolded, times_single single]
  split
  · rename_i inside
    have rest := Progress.reach_skip inside
    rw [turned, show (p.skip least).reach test = p.reach test - least by omega]
    simp only [Progress.skip_skip]
  · rfl

theorem loopRun_eq_none (single : Single body test) {least : Nat} (greedy : Bool)
    (refused : ∀ n, least ≤ n → n ≤ p.reach test → accept (p.skip n) = none) :
    loopRun body least none (if greedy then .greedy else .lazy) p accept = none := by
  rw [loopRun_single single]
  split
  · rw [List.findSome?_eq_none_iff]
    intro n member
    have inside := mem_offers.mp member
    exact refused (least + n) (by omega) (by omega)
  · rfl

theorem loopRun_greedy {least : Nat} {result : Progress} (single : Single body test)
    (inside : least ≤ p.reach test) (accepted : accept (p.skip (p.reach test)) = some result) :
    loopRun body least none .greedy p accept = some result := by
  have offered := @loopRun_single body test p accept single least true
  rw [if_pos rfl, if_pos inside] at offered
  rw [offered, offers, if_pos rfl, List.range_succ, List.reverse_append]
  simp only [List.reverse_singleton, List.singleton_append, List.findSome?_cons]
  rw [Nat.add_sub_cancel' inside, accepted]

theorem loopRun_lazy {least n : Nat} {result : Progress} (single : Single body test)
    (least_le : least ≤ n) (inside : n ≤ p.reach test) (accepted : accept (p.skip n) = some result)
    (refused : ∀ m, least ≤ m → m < n → accept (p.skip m) = none) :
    loopRun body least none .lazy p accept = some result := by
  have offered := @loopRun_single body test p accept single least false
  have parts : List.range (p.reach test - least + 1) =
      List.range (n - least) ++ (n - least) ::
        (List.range (p.reach test - n)).map (n - least + 1 + ·) := by
    rw [← List.singleton_append, ← List.append_assoc, ← List.range_succ, ← List.range_add]
    congr 1
    omega
  rw [if_neg Bool.false_ne_true, if_pos (by omega)] at offered
  rw [offered, List.findSome?_eq_some_iff]
  refine ⟨_, _, _, parts, ?_, ?_⟩
  · rw [Nat.add_sub_cancel' least_le, accepted]
  · intro m before
    have bound := List.mem_range.mp before
    exact refused (least + m) (by omega) (by omega)

/-- A greedy loop stays with its whole run where what follows, if it does not accept there, accepts
    nowhere inside the run. -/
theorem loopRun_run {text : List Char} {place least : Nat} (single : Single body test)
    (settled : accept (.within text (runEnd test text place)) = none →
      ∀ i, place + least ≤ i → i < runEnd test text place → accept (.within text i) = none) :
    loopRun body least none .greedy (.within text place) accept =
      if place + least ≤ runEnd test text place then accept (.within text (runEnd test text place))
      else none := by
  have reach := Progress.add_reach_within text place test
  have stays : (Progress.within text place).skip ((Progress.within text place).reach test) =
      .within text (runEnd test text place) := by rw [Progress.skip_within, reach]
  split
  · rename_i enough
    cases accepted : accept (.within text (runEnd test text place)) with
    | some result =>
      apply loopRun_greedy single (by omega)
      rw [stays, accepted]
    | none =>
      apply loopRun_eq_none single true
      intro n taken inside
      rw [Progress.skip_within]
      rcases Nat.lt_or_eq_of_le inside with shorter | whole
      · exact settled accepted (place + n) (by omega) (by omega)
      · rw [whole, reach, accepted]
  · apply loopRun_eq_none single true
    intro n taken inside
    omega

end

theorem prefix_drop_iff {text : List Char} {place : Nat} {c : Char} :
    [c] <+: text.drop place ↔ text[place]? = some c := by
  rw [← List.head?_drop]
  cases text.drop place with
  | nil => simp
  | cons d rest => simp [eq_comm]

theorem single_category (kind : Category) (negated : Bool) :
    Single (fun p next => (Node.set false [.category kind negated] .exact true).run p next)
      (kind.holds true · != negated) := by
  have same : inSet false [.category kind negated] .exact true = (kind.holds true · != negated) := by
    funext c
    simp [inSet, Member.holds]
  rw [← same]
  exact fun _ _ => rfl

theorem single_any : Single (fun p next => (Node.any true).run p next) fun _ => true :=
  fun _ _ => rfl

section
variable {text : List Char} {place least n : Nat} {close : Char} {p : Progress}

theorem loopRun_any_closes (at_place : p.cursor = Cursor.within text place) (least_le : least ≤ n)
    (here : text[place + n]? = some close)
    (first : ∀ m, least ≤ m → m < n → text[place + m]? ≠ some close) :
    loopRun (fun p next => (Node.any true).run p next) least none .lazy p
      (fun q => if [close] <+: q.cursor.after then some (q.skip 1) else none) =
        some (p.skip (n + 1)) := by
  obtain ⟨inside, _⟩ := List.getElem?_eq_some_iff.mp here
  rw [← Progress.skip_skip]
  apply loopRun_lazy single_any least_le
  · rw [Progress.le_reach_iff]
    intro i before
    rw [Progress.getElem?_after at_place]
    exact ⟨_, List.getElem?_eq_getElem (by omega), rfl⟩
  · apply if_pos
    rwa [Progress.after_skip at_place, prefix_drop_iff]
  · intro m enough before
    apply if_neg
    rw [Progress.after_skip at_place, prefix_drop_iff]
    exact first m enough before

theorem loopRun_any_eq_none (at_place : p.cursor = Cursor.within text place)
    (never : ∀ n, least ≤ n → text[place + n]? ≠ some close) :
    loopRun (fun p next => (Node.any true).run p next) least none .lazy p
      (fun q => if [close] <+: q.cursor.after then some (q.skip 1) else none) = none := by
  apply loopRun_eq_none single_any false
  intro n enough _
  apply if_neg
  rw [Progress.after_skip at_place, prefix_drop_iff]
  exact never n enough

end

theorem sameChar_exact (c d : Char) : sameChar .exact c.toNat d = (d == c) := by
  rw [Bool.eq_iff_iff, sameChar, beq_iff_eq, beq_iff_eq, Char.toNat_inj]

theorem run_alt (first second : Node) (p : Progress) (accept : Accepts) :
    (Node.alt first second).run p accept = (first.run p accept).or (second.run p accept) := by
  rw [Node.run]
  cases first.run p accept <;> rfl

theorem run_word (word : List Char) (nodes : List Node) (p : Progress) (accept : Accepts) :
    (seqOf (word.map (fun c => .char c.toNat .exact) ++ nodes)).run p accept =
      if word <+: p.cursor.after then (seqOf nodes).run (p.skip word.length) accept else none := by
  induction word generalizing p with
  | nil => simp
  | cons c word ih =>
    have step : (seqOf ((c :: word).map (fun c => .char c.toNat .exact) ++ nodes)).run p accept =
        (p.take? (sameChar .exact c.toNat)).bind fun q =>
          (seqOf (word.map (fun c => .char c.toNat .exact) ++ nodes)).run q accept := rfl
    rw [step]
    unfold Progress.take?
    cases ahead : p.cursor.after with
    | nil => simp
    | cons d rest =>
      have moved : (p.skip 1).cursor.after = rest := by
        rw [Progress.cursor_skip, Cursor.after_forward, ahead]
        rfl
      simp only [sameChar_exact, List.cons_prefix_cons]
      by_cases same : d = c
      · subst same
        have next : ({ p with cursor := p.cursor.next } : Progress) = p.skip 1 := rfl
        rw [if_pos (beq_self_eq_true d), Option.bind_some, next, ih, moved, Progress.skip_skip,
          List.length_cons, Nat.add_comm 1]
        simp
      · rw [if_neg (by simpa using same), if_neg fun both => same both.1.symm]
        rfl

theorem exists_first {text : List Char} {place there : Nat} {c : Char} (after : place ≤ there)
    (here : text[there]? = some c) :
    ∃ first ≤ there, place ≤ first ∧ text[first]? = some c ∧
      ∀ i, place ≤ i → i < first → text[i]? ≠ some c := by
  have stands : ∃ i, place ≤ i ∧ text[i]? = some c := ⟨there, after, here⟩
  obtain ⟨ahead, found⟩ := Nat.find_spec stands
  exact ⟨Nat.find stands, Nat.find_min' stands ⟨after, here⟩, ahead, found,
    fun i later before sooner => Nat.find_min stands before ⟨later, sooner⟩⟩

theorem run_literally (word : String) (p : Progress) (accept : Accepts) :
    (literally word).run p accept =
      if word.toList <+: p.cursor.after then accept (p.skip word.toList.length) else none := by
  have whole := run_word word.toList [] p accept
  rw [List.append_nil] at whole
  exact whole

end SourceCensus.Pattern
