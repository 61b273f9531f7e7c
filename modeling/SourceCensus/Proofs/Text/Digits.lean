import Mathlib.Algebra.Group.Nat.Defs
import SourceCensus.Text.Integer

/-! Digit runs: what a number is written with, and the number that is read from it again. -/
namespace SourceCensus.Text

theorem hexValue?_digitChar : ∀ digit < 16, hexValue? (Nat.digitChar digit) = some digit := by decide

theorem valueInBase_snoc (base : Nat) (digits : List Char) (c : Char) :
    valueInBase base (digits ++ [c]) = valueInBase base digits * base + (hexValue? c).getD 0 := by
  simp [valueInBase]

theorem valueInBase_replicate_zero (base count : Nat) (digits : List Char) :
    valueInBase base (List.replicate count '0' ++ digits) = valueInBase base digits := by
  induction count with
  | zero => rfl
  | succ count ih =>
    rw [List.replicate_succ, List.cons_append, ← ih, valueInBase, List.foldl_cons]
    have nothing : 0 * base + (hexValue? '0').getD 0 = 0 := by
      rw [Nat.zero_mul]
      rfl
    rw [nothing, valueInBase]

section
variable {base : Nat} (least : 1 < base) (greatest : base ≤ 16)
include least greatest

theorem valueInBase_toDigits (value : Nat) : valueInBase base (Nat.toDigits base value) = value := by
  induction value using Nat.strongRecOn with
  | _ value ih =>
    rw [Nat.toDigits_eq_if least]
    split
    · rename_i small
      have digit := hexValue?_digitChar value (by omega)
      simp [valueInBase, digit]
    · rename_i large
      have digit := hexValue?_digitChar (value % base) (by
        have := Nat.mod_lt value (by omega : 0 < base)
        omega)
      rw [valueInBase_snoc, ih _ (Nat.div_lt_self (by omega) least), digit]
      exact Nat.div_add_mod' value base

theorem isHexDigit_of_mem_toDigits {value : Nat} {c : Char} (member : c ∈ Nat.toDigits base value) :
    isHexDigit c := by
  induction value using Nat.strongRecOn with
  | _ value ih =>
    have known (digit : Nat) (below : digit < base) : isHexDigit (Nat.digitChar digit) := by
      rw [isHexDigit, hexValue?_digitChar digit (by omega)]
      rfl
    rw [Nat.toDigits_eq_if least] at member
    split at member
    · cases List.mem_singleton.mp member
      exact known value ‹_›
    · rcases List.mem_append.mp member with earlier | last
      · exact ih _ (Nat.div_lt_self (by omega) least) earlier
      · cases List.mem_singleton.mp last
        exact known _ (Nat.mod_lt value (by omega))

end

theorem isHexDigit_of_mem_hex {width value : Nat} {c : Char} (member : c ∈ hex width value) :
    isHexDigit c := by
  rcases List.mem_append.mp member with zero | digit
  · cases List.eq_of_mem_replicate zero
    decide
  · exact isHexDigit_of_mem_toDigits (by omega) (by omega) digit

theorem valueInBase_hex (width value : Nat) : valueInBase 16 (hex width value) = value := by
  rw [hex, padLeft, valueInBase_replicate_zero]
  exact valueInBase_toDigits (by omega) (by omega) value

theorem length_hex {width value : Nat} (positive : 0 < width) (small : value < 16 ^ width) :
    (hex width value).length = width := by
  have short : (Nat.toDigits 16 value).length ≤ width :=
    (Nat.length_toDigits_le_iff (by omega) positive).mpr small
  rw [hex, padLeft, List.length_append, List.length_replicate]
  omega

theorem toNat_lt_of_isHexDigit {c : Char} (digit : isHexDigit c) : c.toNat < 128 := by
  have bound (last : Char) (within : c ≤ last) : c.toNat ≤ last.toNat := within
  rw [isHexDigit, hexValue?] at digit
  split at digit
  · rename_i range
    exact Nat.lt_of_le_of_lt (bound '9' range.2) (by decide)
  split at digit
  · rename_i range
    exact Nat.lt_of_le_of_lt (bound 'f' range.2) (by decide)
  split at digit
  · rename_i range
    exact Nat.lt_of_le_of_lt (bound 'F' range.2) (by decide)
  · cases digit

theorem isWritable_iff (value : Int) : isWritable value ↔ value.natAbs < 10 ^ longestInteger := by
  rw [isWritable, decide_eq_true_eq]
  exact Nat.length_toDigits_le_iff (by omega) (by decide)

theorem isDigit_of_mem_toDigits {value : Nat} {c : Char} (member : c ∈ Nat.toDigits 10 value) :
    c.isDigit :=
  Nat.isDigit_of_mem_toDigits (by omega) (by omega) member

theorem head?_toDigits {value : Nat} (positive : 0 < value) :
    (Nat.toDigits 10 value).head? ≠ some '0' := by
  induction value using Nat.strongRecOn with
  | _ value ih =>
    rw [Nat.toDigits_eq_if (by omega)]
    split
    · simp only [List.head?_cons, ne_eq, Option.some.injEq, Nat.digitChar_eq_zero]
      omega
    · have before := ih (value / 10) (by omega) (by omega)
      obtain ⟨first, more, written⟩ :=
        List.exists_cons_of_ne_nil (Nat.toDigits_ne_nil (b := 10) (n := value / 10))
      rw [written] at before ⊢
      exact before

theorem toNat_lt_of_isDigit {c : Char} (digit : c.isDigit = true) : c.toNat < 128 :=
  Nat.lt_of_le_of_lt (Char.isDigit_iff_toNat.mp digit).2 (by decide)

theorem digitValue?_of_isDigit {c : Char} (digit : c.isDigit = true) :
    digitValue? c = some (c.toNat - '0'.toNat) := by
  rw [digitValue?, if_pos (toNat_lt_of_isDigit digit), if_pos digit]
  rfl

theorem ne_of_isDigit {c mark : Char} (digit : c.isDigit = true) (other : mark.isDigit = false) :
    c ≠ mark := by
  rintro rfl
  rw [digit] at other
  cases other

theorem isNumberBlank_of_isDigit {c : Char} (digit : c.isDigit = true) : isNumberBlank c = false := by
  rw [isNumberBlank, if_pos (toNat_lt_of_isDigit digit)]
  rw [← Bool.not_eq_true]
  intro blank
  simp only [isAsciiBlank, Bool.or_eq_true, beq_iff_eq, or_assoc] at blank
  rcases blank with rfl | rfl | rfl | rfl | rfl | rfl <;> exact absurd digit (by decide)

theorem digitRun?_digits {run : List Char} (digits : ∀ c ∈ run, c.isDigit = true) :
    digitRun? run = some (run.map fun c => c.toNat - '0'.toNat, []) := by
  induction run with
  | nil => rfl
  | cons c rest ih =>
    rw [List.forall_mem_cons] at digits
    obtain ⟨first, later⟩ := digits
    rw [digitRun?.eq_def]
    split
    · contradiction
    · rename_i same
      exact absurd (List.cons.inj same).1 (ne_of_isDigit first rfl)
    · rename_i same
      obtain ⟨rfl, rfl⟩ := List.cons.inj same
      simp only [digitValue?_of_isDigit first]
      split
      · exact absurd (later '_' List.mem_cons_self) (by decide)
      · rw [ih later]
        rfl

theorem valueOfDigits_map (run : List Char) :
    valueOfDigits (run.map fun c => c.toNat - '0'.toNat) = Nat.ofDigitChars 10 run 0 := by
  rw [valueOfDigits, Nat.ofDigitChars, List.foldl_map]
  simp only [Nat.mul_comm]

theorem takeSign_of_isDigit {c : Char} (rest : List Char) (digit : c.isDigit = true) :
    takeSign (c :: rest) = (false, c :: rest) := by
  unfold takeSign
  split
  · rename_i same
    exact absurd (List.cons.inj same).1 (ne_of_isDigit digit rfl)
  · rename_i same
    exact absurd (List.cons.inj same).1 (ne_of_isDigit digit rfl)
  · rfl

/-- A sign may stand before the digits, which nothing else parts from the start of the text. -/
theorem readInteger_signed {text : String} {run : List Char} {negative : Bool}
    (close : text.toList.dropWhile isNumberBlank = text.toList)
    (signed : takeSign text.toList = (negative, run)) (some : run ≠ [])
    (digits : ∀ c ∈ run, c.isDigit = true) :
    readInteger text =
      if longestInteger < run.length then .error (.tooLong run.length)
      else .ok (if negative then -(Nat.ofDigitChars 10 run 0 : Int)
        else Nat.ofDigitChars 10 run 0) := by
  unfold readInteger
  rw [close, signed]
  simp only [digitRun?_digits digits, List.length_map, valueOfDigits_map]
  split
  · rfl
  · simp [some]

theorem readInteger_digits {run : List Char} (some : run ≠ [])
    (digits : ∀ c ∈ run, c.isDigit = true) :
    readInteger (String.ofList run) =
      if longestInteger < run.length then .error (.tooLong run.length)
      else .ok (Nat.ofDigitChars 10 run 0) := by
  obtain ⟨c, rest, rfl⟩ := List.exists_cons_of_ne_nil some
  have first := digits c List.mem_cons_self
  have close : (c :: rest).dropWhile isNumberBlank = c :: rest :=
    List.dropWhile_cons_of_neg (by simp [isNumberBlank_of_isDigit first])
  rw [readInteger_signed (by rw [String.toList_ofList, close])
    (by rw [String.toList_ofList, takeSign_of_isDigit rest first]) some digits]
  rfl

end SourceCensus.Text
