import SourceCensus.MagicNumber
import SourceCensus.Proofs.Pattern.Search
import SourceCensus.Proofs.Text.Digits
import SourceCensus.Proofs.Text.Run

/-! Magic numbers by their places in a text. Every maximal run of digits is looked at, and its value is
   listed exactly if a character follows that declares nothing, and the value can be read, fits and is
   not trivial. -/
namespace SourceCensus.MagicNumber
open Text Pattern

structure Run where
  start : Nat
  stop : Nat
  deriving DecidableEq, Repr

namespace Run

/-- Digits in a row, as many as there are on both sides. -/
structure StandsIn (r : Run) (text : List Char) : Prop where
  onward : r.start < r.stop
  digits : ∀ i, r.start ≤ i → i < r.stop → ∃ c, text[i]? = some c ∧ c.isDigit = true
  opens : ∀ i c, i + 1 = r.start → text[i]? = some c → c.isDigit = false
  ends : ∀ c, text[r.stop]? = some c → c.isDigit = false

def digits (r : Run) (text : List Char) : List Char := (text.drop r.start).take (r.stop - r.start)

def value (r : Run) (text : List Char) : Nat := Nat.ofDigitChars 10 (r.digits text) 0

/-- What makes the number of a run a magic one. -/
structure IsMagic (r : Run) (text : List Char) : Prop where
  undeclared : ∃ c, text[r.stop]? = some c ∧ c ≠ ';' ∧ c ≠ ','
  readable : r.stop - r.start ≤ 4300
  least : 3 ≤ r.value text
  most : r.value text ≤ 2147483647

variable {r other : Run} {text : List Char}

theorem StandsIn.runEnd_start (stands : r.StandsIn text) :
    runEnd Char.isDigit text r.start = r.stop :=
  runEnd_eq stands.onward.le stands.digits stands.ends

theorem StandsIn.inside (stands : r.StandsIn text) : r.stop ≤ text.length := by
  have onward := stands.onward
  obtain ⟨c, here, _⟩ := stands.digits (r.stop - 1) (by omega) (by omega)
  obtain ⟨inside, _⟩ := List.getElem?_eq_some_iff.mp here
  omega

theorem StandsIn.unique (stands : r.StandsIn text) (also : other.StandsIn text)
    (same : r.start = other.start) : r = other := by
  have stop : r.stop = other.stop := by
    rw [← stands.runEnd_start, ← also.runEnd_start, same]
  obtain ⟨_, _⟩ := r
  obtain ⟨_, _⟩ := other
  simp only at same stop
  rw [same, stop]

theorem StandsIn.disjoint (stands : r.StandsIn text) (also : other.StandsIn text)
    (before : r.start < other.start) : r.stop ≤ other.start := by
  rw [← Nat.not_lt]
  intro overlap
  obtain ⟨c, here, digit⟩ := stands.digits (other.start - 1) (by omega) (by omega)
  have edge := also.opens (other.start - 1) c (by omega) here
  rw [digit] at edge
  cases edge

theorem StandsIn.mem_digits (stands : r.StandsIn text) {c : Char} (member : c ∈ r.digits text) :
    c.isDigit = true := by
  rw [Run.digits, mem_take_drop_iff] at member
  obtain ⟨i, after, before, here⟩ := member
  obtain ⟨d, found, digit⟩ := stands.digits i after (by omega)
  rwa [Option.some.inj (here.symm.trans found)]

theorem StandsIn.length_digits (stands : r.StandsIn text) :
    (r.digits text).length = r.stop - r.start := by
  have onward := stands.onward
  have inside := stands.inside
  rw [Run.digits, List.length_take, List.length_drop]
  omega

end Run

/-- A place that no run goes across from before. -/
def Fresh (text : List Char) (place : Nat) : Prop :=
  0 < place → ∀ c, text[place]? = some c → c.isDigit = false

variable {text : List Char} {place : Nat}

theorem standsIn_first {c : Char} (fresh : Fresh text place)
    (here : text[runEnd (!·.isDigit) text place]? = some c) :
    (Run.mk (runEnd (!·.isDigit) text place)
      (runEnd Char.isDigit text (runEnd (!·.isDigit) text place))).StandsIn text where
  onward := by
    have digit : c.isDigit = true := by simpa using runEnd_stops here
    exact lt_runEnd_iff.mpr ⟨c, here, digit⟩
  digits i after before := of_lt_runEnd after before
  opens i d next found := by
    simp only at next
    have digit : c.isDigit = true := by simpa using runEnd_stops here
    have least := le_runEnd (!·.isDigit) text place
    rcases Nat.eq_or_lt_of_le least with same | later
    · -- the place itself holds a digit, so it is the start of the text
      have start : ¬ 0 < place := by
        intro positive
        rw [← same] at here
        rw [fresh positive c here] at digit
        cases digit
      omega
    · obtain ⟨e, there, plain⟩ := @of_lt_runEnd (!·.isDigit) text place i (by omega) (by omega)
      obtain rfl := Option.some.inj (found.symm.trans there)
      simpa using plain
  ends d found := runEnd_stops found

theorem runEnd_le_start {r : Run} (stands : r.StandsIn text) (after : place ≤ r.start) :
    runEnd (!·.isDigit) text place ≤ r.start := by
  obtain ⟨c, here, digit⟩ := stands.digits r.start (Nat.le_refl _) stands.onward
  exact runEnd_le after here (by simp [digit])

theorem runs_of_nil {rest : List Char} (ends : rest.dropWhile (!·.isDigit) = []) : runs rest = [] := by
  rw [runs]
  split
  · rfl
  · rename_i found
    rw [ends] at found
    cases found

theorem runs_of_cons {rest more : List Char} {c : Char}
    (ahead : rest.dropWhile (!·.isDigit) = c :: more) :
    runs rest = (c :: more.takeWhile Char.isDigit, more.dropWhile Char.isDigit) ::
      runs (more.dropWhile Char.isDigit) := by
  rw [runs]
  split
  · rename_i found
    rw [ahead] at found
    cases found
  · rename_i found
    obtain ⟨rfl, rfl⟩ := List.cons.inj (ahead.symm.trans found)
    rfl

theorem runs_drop (fresh : Fresh text place) :
    ∃ found, LeftToRight Run.start Run.stop (·.StandsIn text) place found ∧
      runs (text.drop place) = found.map fun r => (r.digits text, text.drop r.stop) := by
  -- on the distance to the end; a run takes at least one character of it
  induction left : text.length - place using Nat.strongRecOn generalizing place with
  | ind left ih =>
    have skipped := drop_runEnd (!·.isDigit) text place
    cases here : text[runEnd (!·.isDigit) text place]? with
    | none =>
      have ends : text.length ≤ runEnd (!·.isDigit) text place := List.getElem?_eq_none_iff.mp here
      rw [List.drop_eq_nil_of_le ends] at skipped
      refine ⟨[], .done ?_, runs_of_nil skipped.symm⟩
      intro r stands after
      have beyond := runEnd_le_start stands after
      have inside := stands.inside
      have onward := stands.onward
      omega
    | some c =>
      have stands := standsIn_first fresh here
      have digit : c.isDigit = true := by simpa using runEnd_stops here
      have more := le_runEnd (!·.isDigit) text place
      have onward := stands.onward
      have inside := stands.inside
      simp only at onward inside
      rw [drop_of_getElem? here] at skipped
      have next : Fresh text (runEnd Char.isDigit text (runEnd (!·.isDigit) text place)) :=
        fun _ d found => runEnd_stops found
      obtain ⟨found, passes, listed⟩ := ih _ (by omega) next rfl
      refine ⟨_ :: found, .next stands more ?_ passes, ?_⟩
      · intro other also after
        exact runEnd_le_start also after
      · have behind := drop_runEnd Char.isDigit text (runEnd (!·.isDigit) text place)
        have run := take_runEnd Char.isDigit text (runEnd (!·.isDigit) text place)
        rw [drop_of_getElem? here, List.dropWhile_cons_of_pos digit] at behind
        rw [drop_of_getElem? here, List.takeWhile_cons_of_pos digit] at run
        rw [runs_of_cons skipped.symm, List.map_cons, ← behind, listed, Run.digits,
          drop_of_getElem? here, run]

theorem valueOf_digits {run : List Char} (some : run ≠ [])
    (digits : ∀ c ∈ run, c.isDigit = true) :
    valueOf (String.ofList run) =
      if run.length ≤ 4300 ∧ Nat.ofDigitChars 10 run 0 ≤ 2147483647 then
        (Nat.ofDigitChars 10 run 0 : Int) else 0 := by
  unfold valueOf
  rw [readInteger_digits some digits]
  by_cases long : longestInteger < run.length
  · rw [if_pos long, if_neg]
    intro both
    exact absurd both.1 (Nat.not_le.mpr long)
  · have short : run.length ≤ 4300 := Nat.not_lt.mp long
    have bound : greatest = 2147483647 := rfl
    rw [if_neg long]
    simp only
    by_cases large : greatest < (Nat.ofDigitChars 10 run 0 : Int)
    · rw [if_pos large, if_neg (by omega)]
    · rw [if_neg large, if_pos (by omega)]

theorem isUndeclared_drop_iff (text : List Char) (place : Nat) :
    isUndeclared (text.drop place) = true ↔ ∃ c, text[place]? = some c ∧ c ≠ ';' ∧ c ≠ ',' := by
  rw [← List.head?_drop]
  cases text.drop place with
  | nil => simp [isUndeclared]
  | cons c rest => simp [isUndeclared, terminators]

namespace Run

variable {r : Run}

theorem StandsIn.valueOf_digits (stands : r.StandsIn text) :
    valueOf (String.ofList (r.digits text)) =
      if r.stop - r.start ≤ 4300 ∧ r.value text ≤ 2147483647 then (r.value text : Int) else 0 := by
  have length := stands.length_digits
  have onward := stands.onward
  have some : r.digits text ≠ [] := by
    rw [← List.length_pos_iff]
    omega
  have digits : ∀ c ∈ r.digits text, c.isDigit = true := fun _ member => stands.mem_digits member
  rw [MagicNumber.valueOf_digits some digits, length]
  rfl

theorem StandsIn.isMagic_iff (stands : r.StandsIn text) :
    (isUndeclared (text.drop r.stop) = true ∧
        MagicNumber.isMagic (valueOf (String.ofList (r.digits text))) = true) ↔ r.IsMagic text := by
  rw [stands.valueOf_digits, isUndeclared_drop_iff, MagicNumber.isMagic, Bool.or_eq_true,
    decide_eq_true_eq, decide_eq_true_eq]
  constructor
  · rintro ⟨undeclared, outside⟩
    split at outside
    · rename_i fits
      exact ⟨undeclared, fits.1, by omega, fits.2⟩
    · omega
  · intro magic
    have least := magic.least
    rw [if_pos ⟨magic.readable, magic.most⟩]
    exact ⟨magic.undeclared, by omega⟩

theorem IsMagic.valueOf_digits (magic : r.IsMagic text) (stands : r.StandsIn text) :
    valueOf (String.ofList (r.digits text)) = r.value text := by
  rw [stands.valueOf_digits, if_pos ⟨magic.readable, magic.most⟩]

end Run

/-- The numbers of a text are the values of its magic runs of digits, in their order and as often as they
    occur. No other run gives a number. -/
theorem all_are_magic_runs (text : List Char) :
    ∃ magic : List Run, (∀ r, r ∈ magic ↔ r.StandsIn text ∧ r.IsMagic text) ∧
      magic.Pairwise (fun a b => a.stop ≤ b.start) ∧
      all text = magic.map fun r => (r.value text : Int) := by
  have fresh : Fresh text 0 := fun positive => absurd positive (Nat.lt_irrefl 0)
  obtain ⟨found, passes, listed⟩ := runs_drop fresh
  rw [List.drop_zero] at listed
  have every (r : Run) : r ∈ found ↔ r.StandsIn text := by
    constructor
    · exact passes.mem
    · intro stands
      exact passes.mem_of_occurs (fun _ _ a b => a.unique b) (fun _ _ a b => a.disjoint b) stands
        (Nat.zero_le _)
  refine ⟨(found.filter fun r => isUndeclared (text.drop r.stop)).filter fun r =>
    isMagic (valueOf (String.ofList (r.digits text))), ?_, ?_, ?_⟩
  · intro r
    rw [List.mem_filter, List.mem_filter, every, and_assoc]
    exact and_congr_right fun stands => stands.isMagic_iff
  · have apart := (passes.apart fun _ stands => stands.onward).2
    exact (apart.filter _).filter _
  · rw [all, listed, List.filter_map, List.filter_map, List.filter_map, List.map_map]
    refine List.map_congr_left fun r member => ?_
    rw [List.mem_filter, List.mem_filter, every, and_assoc] at member
    obtain ⟨stands, accepted⟩ := member
    exact (stands.isMagic_iff.mp accepted).valueOf_digits stands

end SourceCensus.MagicNumber
