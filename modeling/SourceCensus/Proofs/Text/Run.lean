import Mathlib.Data.List.TakeWhile
import SourceCensus.Proofs.Text.Cursor

/-! Runs of characters. From any place of a text on, the characters that pass a test come first, as many
   as there are in a row, and then comes one that fails it or the end of the text. -/
namespace SourceCensus.Text

variable {test : Char → Bool} {text : List Char}

theorem le_length_takeWhile_iff {n : Nat} :
    n ≤ (text.takeWhile test).length ↔ ∀ i < n, ∃ c, text[i]? = some c ∧ test c = true := by
  induction text generalizing n with
  | nil =>
    cases n with
    | zero => simp
    | succ n =>
      refine iff_of_false (Nat.not_succ_le_zero n) fun all => ?_
      obtain ⟨d, here, -⟩ := all 0 (Nat.succ_pos n)
      cases here
  | cons c rest ih =>
    cases n with
    | zero => simp
    | succ n =>
      rw [List.takeWhile_cons]
      split
      · rename_i allowed
        rw [List.length_cons, Nat.add_le_add_iff_right, ih, Nat.forall_lt_succ_left]
        simp [allowed]
      · rename_i refused
        refine iff_of_false (Nat.not_succ_le_zero n) fun all => ?_
        obtain ⟨d, here, allowed⟩ := all 0 (Nat.succ_pos n)
        obtain rfl : c = d := Option.some.inj here
        exact refused allowed

theorem length_takeWhile_stops {c : Char} (here : text[(text.takeWhile test).length]? = some c) :
    test c = false := by
  rw [← Bool.not_eq_true]
  intro allowed
  have more : (text.takeWhile test).length + 1 ≤ (text.takeWhile test).length := by
    rw [le_length_takeWhile_iff]
    intro i before
    rcases Nat.lt_succ_iff_lt_or_eq.mp before with earlier | rfl
    · exact le_length_takeWhile_iff.mp (Nat.le_refl _) i earlier
    · exact ⟨c, here, allowed⟩
  exact Nat.not_succ_le_self _ more

theorem length_takeWhile_eq {n : Nat} (allowed : ∀ i < n, ∃ c, text[i]? = some c ∧ test c = true)
    (ends : ∀ c, text[n]? = some c → test c = false) : (text.takeWhile test).length = n := by
  refine Nat.le_antisymm ?_ (le_length_takeWhile_iff.mpr allowed)
  rw [← Nat.not_lt]
  intro more
  obtain ⟨c, here, holds⟩ := le_length_takeWhile_iff.mp more n (Nat.lt_succ_self n)
  rw [ends c here] at holds
  cases holds

/-- Where the run of such characters from a place on ends; at the place itself if there are none. -/
def runEnd (test : Char → Bool) (text : List Char) (place : Nat) : Nat :=
  place + ((text.drop place).takeWhile test).length

variable {place stop : Nat}

theorem le_runEnd (test : Char → Bool) (text : List Char) (place : Nat) :
    place ≤ runEnd test text place := Nat.le_add_right _ _

theorem runEnd_le_length (inside : place ≤ text.length) : runEnd test text place ≤ text.length := by
  have short := (List.takeWhile_prefix (l := text.drop place) test).length_le
  rw [List.length_drop] at short
  unfold runEnd
  omega

theorem of_lt_runEnd {i : Nat} (after : place ≤ i) (before : i < runEnd test text place) :
    ∃ c, text[i]? = some c ∧ test c = true := by
  unfold runEnd at before
  obtain ⟨n, rfl⟩ := Nat.exists_eq_add_of_le after
  obtain ⟨c, here, allowed⟩ := le_length_takeWhile_iff.mp (Nat.le_refl _) n (Nat.lt_of_add_lt_add_left before)
  rw [List.getElem?_drop] at here
  exact ⟨c, here, allowed⟩

theorem runEnd_stops {c : Char} (here : text[runEnd test text place]? = some c) : test c = false := by
  rw [runEnd, ← List.getElem?_drop] at here
  exact length_takeWhile_stops here

theorem runEnd_eq (after : place ≤ stop)
    (allowed : ∀ i, place ≤ i → i < stop → ∃ c, text[i]? = some c ∧ test c = true)
    (ends : ∀ c, text[stop]? = some c → test c = false) : runEnd test text place = stop := by
  obtain ⟨n, rfl⟩ := Nat.exists_eq_add_of_le after
  rw [runEnd, Nat.add_left_cancel_iff]
  apply length_takeWhile_eq
  · intro i before
    rw [List.getElem?_drop]
    exact allowed (place + i) (Nat.le_add_right _ _) (by omega)
  · intro c here
    rw [List.getElem?_drop] at here
    exact ends c here

theorem runEnd_le {c : Char} (after : place ≤ stop) (here : text[stop]? = some c)
    (refused : test c = false) : runEnd test text place ≤ stop := by
  rw [← Nat.not_lt]
  intro beyond
  obtain ⟨d, found, allowed⟩ := of_lt_runEnd after beyond
  obtain rfl := Option.some.inj (here.symm.trans found)
  rw [refused] at allowed
  cases allowed

theorem getElem?_runEnd_ne {close : Char} (after : place ≤ stop) (here : text[stop]? = some close) :
    text[runEnd (· != close) text place]? = some close := by
  have bound := @runEnd_le (· != close) text place stop close after here (bne_self_eq_false' close)
  obtain ⟨inside, _⟩ := List.getElem?_eq_some_iff.mp here
  have found := List.getElem?_eq_getElem (Nat.lt_of_le_of_lt bound inside)
  have same := runEnd_stops found
  rw [found]
  simpa using same

theorem lt_runEnd_iff : place < runEnd test text place ↔ ∃ c, text[place]? = some c ∧ test c = true := by
  constructor
  · exact of_lt_runEnd (Nat.le_refl place)
  · rintro ⟨c, here, allowed⟩
    refine Nat.lt_of_le_of_ne (le_runEnd test text place) ?_
    intro same
    rw [same] at here
    rw [runEnd_stops here] at allowed
    cases allowed

theorem runEnd_of_refused {c : Char} (here : text[place]? = some c) (refused : test c = false) :
    runEnd test text place = place :=
  Nat.le_antisymm (runEnd_le (Nat.le_refl place) here refused) (le_runEnd test text place)

theorem runEnd_of_le {i : Nat} (after : place ≤ i) (before : i ≤ runEnd test text place) :
    runEnd test text i = runEnd test text place := by
  apply runEnd_eq before
  · intro j later earlier
    exact of_lt_runEnd (by omega) earlier
  · intro c here
    exact runEnd_stops here

theorem runEnd_le_runEnd {narrow : Char → Bool} (implied : ∀ c, narrow c = true → test c = true) :
    runEnd narrow text place ≤ runEnd test text place := by
  cases here : text[runEnd test text place]? with
  | none =>
    have ends : text.length ≤ runEnd test text place := List.getElem?_eq_none_iff.mp here
    by_cases inside : place ≤ text.length
    · exact (runEnd_le_length inside).trans ends
    · have nothing : text.drop place = [] := List.drop_eq_nil_of_le (by omega)
      rw [runEnd, runEnd, nothing]
      exact Nat.le_refl _
  | some c =>
    apply runEnd_le (le_runEnd test text place) here
    rw [← Bool.not_eq_true]
    intro allowed
    have refused := runEnd_stops here
    rw [implied c allowed] at refused
    cases refused

theorem runEnd_take_drop {width i : Nat} (inside : runEnd test text (place + i) < place + width) :
    place + runEnd test ((text.drop place).take width) i = runEnd test text (place + i) := by
  obtain ⟨stop, ends⟩ := Nat.exists_eq_add_of_le
    ((Nat.le_add_right place i).trans (le_runEnd test text (place + i)))
  have after := le_runEnd test text (place + i)
  have part (j : Nat) (before : j < width) : ((text.drop place).take width)[j]? = text[place + j]? := by
    rw [List.getElem?_take_of_lt before, List.getElem?_drop]
  rw [ends, Nat.add_left_cancel_iff]
  apply runEnd_eq (by omega)
  · intro j later earlier
    rw [part j (by omega)]
    exact @of_lt_runEnd test text (place + i) (place + j) (by omega) (by omega)
  · intro c here
    rw [part stop (by omega), ← ends] at here
    exact runEnd_stops here

theorem drop_runEnd (test : Char → Bool) (text : List Char) (place : Nat) :
    text.drop (runEnd test text place) = (text.drop place).dropWhile test := by
  have behind : ((text.drop place).takeWhile test ++ (text.drop place).dropWhile test).drop
      ((text.drop place).takeWhile test).length = (text.drop place).dropWhile test := List.drop_left
  rw [List.takeWhile_append_dropWhile, List.drop_drop] at behind
  exact behind

theorem take_runEnd (test : Char → Bool) (text : List Char) (place : Nat) :
    (text.drop place).take (runEnd test text place - place) = (text.drop place).takeWhile test := by
  have run : ((text.drop place).takeWhile test ++ (text.drop place).dropWhile test).take
      ((text.drop place).takeWhile test).length = (text.drop place).takeWhile test := List.take_left
  rw [List.takeWhile_append_dropWhile] at run
  rw [runEnd, Nat.add_sub_cancel_left]
  exact run

end SourceCensus.Text
