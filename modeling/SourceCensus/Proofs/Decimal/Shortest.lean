import SourceCensus.Decimal.Shortest
import SourceCensus.Proofs.Decimal.Numeral

/-! The shortest form of a double is a number that documents can hold, with a point or a power of ten
   in it. Its digits have no zero at either end, so the layout puts none before them. -/
namespace SourceCensus.Decimal
open Text

def Numeral.IsReal (n : Numeral) : Prop := n.fraction ≠ [] ∨ n.power ≠ none

/-- A text that is a number with a point or a power of ten in it. -/
def WritesReal (text : List Char) : Prop := ∃ n : Numeral, n.IsReal ∧ n.text = text

theorem writesReal_pointed (negative : Bool) (whole fraction : List Char) (nonempty : whole ≠ [])
    (wholeDigits : ∀ c ∈ whole, c.isDigit) (noIdleZero : 1 < whole.length → whole.head? ≠ some '0')
    (some : fraction ≠ []) (fractionDigits : ∀ c ∈ fraction, c.isDigit) :
    WritesReal (signed negative (whole ++ '.' :: fraction)) := by
  refine ⟨⟨negative, whole, fraction, none, nonempty, wholeDigits, noIdleZero, fractionDigits,
    by simp⟩, .inl some, ?_⟩
  simp [Numeral.text, Numeral.pointText, Numeral.powerText, some]

theorem writesReal_zero (negative : Bool) : WritesReal (signed negative ['0', '.', '0']) :=
  writesReal_pointed negative ['0'] ['0'] (by simp) (by simp) (by simp) (by simp) (by simp)

theorem writesReal_powered (negative : Bool) {digits fraction : List Char} {first : Char}
    (digit : first.isDigit) (fractionDigits : ∀ c ∈ fraction, c.isDigit) (down : Prop) [Decidable down]
    (nonempty : digits ≠ []) (all : ∀ c ∈ digits, c.isDigit) :
    WritesReal (signed negative (first :: (Numeral.pointText fraction ++
      'e' :: (if down then '-' else '+') :: digits))) := by
  refine ⟨⟨negative, [first], fraction, some (decide down, digits), by simp, by simpa using digit,
    by simp, fractionDigits, ?_⟩, .inr (by simp), ?_⟩
  · rintro _ _ ⟨⟩
    exact ⟨nonempty, all⟩
  · simp [Numeral.text, Numeral.powerText]

section
variable {digits : List Char} (all : ∀ c ∈ digits, c.isDigit)
include all

theorem isDigit_of_mem_replicate_append {count : Nat} {c : Char}
    (member : c ∈ List.replicate count '0' ++ digits) : c.isDigit := by
  rcases List.mem_append.mp member with zero | digit
  · cases List.eq_of_mem_replicate zero
    rfl
  · exact all c digit

theorem writesReal_write (l : Layout) (negative : Bool) (exponent : Int) (nonempty : digits ≠ [])
    (first : digits.head? ≠ some '0') : WritesReal (signed negative (l.write digits exponent)) := by
  have some : 0 < digits.length := List.length_pos_iff.mpr nonempty
  unfold Layout.write
  dsimp only
  split
  · split
    · exact writesReal_pointed negative ['0'] _ (by simp) (by simp) (by simp)
        (by simp [nonempty]) fun c => isDigit_of_mem_replicate_append all
    split
    · generalize (digits.length : Int) + exponent = point at *
      refine writesReal_pointed negative _ _ ?_ (fun c member => all c (List.mem_of_mem_take member)) ?_
        ?_ fun c member => all c (List.mem_of_mem_drop member)
      · simp only [ne_eq, List.take_eq_nil_iff, nonempty, or_false]
        omega
      · intro
        rw [List.head?_take]
        split <;> simp [first]
      · rw [ne_eq, List.drop_eq_nil_iff]
        omega
    · refine writesReal_pointed negative (digits ++ List.replicate exponent.toNat '0') ['0']
        (by simp [nonempty]) ?_ ?_ (by simp) (by simp)
      · intro c member
        rcases List.mem_append.mp member with digit | zero
        · exact all c digit
        · cases List.eq_of_mem_replicate zero
          rfl
      · intro
        simp [nonempty, first]
  · -- The first digit stands alone before the point, so no zero is idle there.
    have powerDigits (power : Nat) : ∀ c ∈ padLeft l.exponentWidth '0' (Nat.toDigits 10 power),
        c.isDigit :=
      fun c => isDigit_of_mem_replicate_append fun c member => isDigit_of_mem_toDigits member
    have powered (power : Int) (digit : Char) (fraction : List Char)
        (inside : ∀ c ∈ digit :: fraction, c.isDigit) :=
      writesReal_powered negative (inside digit (by simp))
        (fun c member => inside c (List.mem_cons_of_mem digit member)) (power < 0)
        (by simp [padLeft, Nat.toDigits_ne_nil]) (powerDigits power.natAbs)
    cases digits with
    | nil => exact absurd rfl nonempty
    | cons digit fraction =>
      cases fraction with
      | nil => exact powered _ digit [] all
      | cons second more => exact powered _ digit (second :: more) all

end

theorem digits_of_nearestOfWidth? {b : Binary} {place : Int} {count : Nat} {s : Scientific}
    (found : nearestOfWidth? b place count = some s) : 0 < s.digits := by
  have chosen (nearest other : Nat) (holds : Nat → Bool) (exponent : Int)
      (found : (if 0 < nearest && holds nearest then some (⟨nearest, exponent⟩ : Scientific)
        else if 0 < other && holds other then some ⟨other, exponent⟩ else none) = some s) :
      0 < s.digits := by
    split at found
    · rename_i fits
      cases found
      simp only [Bool.and_eq_true, decide_eq_true_eq] at fits
      exact fits.1
    split at found
    · rename_i fits
      cases found
      simp only [Bool.and_eq_true, decide_eq_true_eq] at fits
      exact fits.1
    · cases found
  exact chosen _ _ (fun digits => b.interval.holds (digits * _) _) _ found

theorem shortestOf_cases (b : Binary) : shortestOf b = ⟨0, 0⟩ ∨ 0 < (shortestOf b).digits := by
  unfold shortestOf
  cases found : (List.range 17).findSome? fun n => nearestOfWidth? b (leadingPlace b) (n + 1) with
  | none => exact .inl rfl
  | some s =>
    obtain ⟨n, -, chosen⟩ := List.exists_of_findSome?_eq_some found
    exact .inr (digits_of_nearestOfWidth? chosen)

theorem trimmed_digits {s : Scientific} (positive : 0 < s.digits) :
    s.trimmed.1 ≠ [] ∧ (∀ c ∈ s.trimmed.1, c.isDigit) ∧ s.trimmed.1.head? ≠ some '0' := by
  -- The first digit is no zero, so not every digit is cut off.
  have first := head?_toDigits positive
  have all : ∀ c ∈ Nat.toDigits 10 s.digits, c.isDigit := fun c => isDigit_of_mem_toDigits
  have some := Nat.length_toDigits_pos (b := 10) (n := s.digits)
  unfold Scientific.trimmed
  dsimp only
  generalize Nat.toDigits 10 s.digits = digits at *
  have fewer : (digits.reverse.takeWhile (· == '0')).length < digits.length := by
    have run := List.takeWhile_prefix (· == '0') (l := digits.reverse)
    refine Nat.lt_of_le_of_ne (by simpa using run.length_le) ?_
    intro every
    have whole := run.eq_of_length (by simpa using every)
    obtain ⟨digit, more, rfl⟩ := List.exists_cons_of_length_pos some
    have zero := List.all_takeWhile (p := (· == '0')) (l := (digit :: more).reverse)
    rw [whole] at zero
    simp at zero
    exact first (by simp [zero])
  refine ⟨?_, fun c member => all c (List.mem_of_mem_take member), ?_⟩
  · simp only [ne_eq, List.take_eq_nil_iff]
    rintro (cut | none)
    · omega
    · simp [none] at some
  · rw [List.head?_take]
    split <;> simp [first]

theorem writesReal_shortest (b : Binary) : WritesReal b.shortest := by
  unfold Binary.shortest
  split
  · exact writesReal_zero b.negative
  · rcases shortestOf_cases b with zero | positive
    · rw [zero]
      exact writesReal_zero b.negative
    · obtain ⟨nonempty, all, first⟩ := trimmed_digits positive
      exact writesReal_write all layout b.negative _ nonempty first

end SourceCensus.Decimal
