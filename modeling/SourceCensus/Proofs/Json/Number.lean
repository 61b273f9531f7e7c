import SourceCensus.Proofs.Decimal.Shortest
import SourceCensus.Proofs.Json.Text

/-! Numbers of a document, written and read again. An integer of any size comes back as that integer,
   and a real comes back as the double that its shortest form stands for. -/
namespace SourceCensus.Json
open Text Decimal

/-- What the shortest form of a double is for: it stands for that double and no other. -/
structure ReadsBack (x : Float) : Prop where
  finite : ∃ b, ofFloat x = .finite b
  same : readFloat? (shortest x) = some x

section
variable (n : Numeral) {rest : List Char} (ends : Numeral.Ends rest)
include ends

theorem readNumber?_text : readNumber? (n.text ++ rest) =
    if n.text.all (fun c => c.isDigit || c == '-') then
      some (.int (if n.negative then -(valueInBase 10 n.whole : Int) else valueInBase 10 n.whole), rest)
    else some (.real n.parts.value, rest) := by
  -- Nothing in a number is against the rules of documents; what is left is to tell the kinds apart.
  have signless : n.text.head? ≠ some '+' := by
    obtain ⟨c, more, written, starts⟩ := n.text_starts
    rw [written]
    rintro ⟨⟩
    revert starts
    decide
  have pointless : ('.' ∈ n.text ∧ n.fraction = []) = False := by
    simp only [eq_iff_iff, iff_false, not_and]
    intro point none
    obtain ⟨-, sign⟩ | whole | fraction | power := (n.mem_text '.').mp point
    · cases sign
    · cases n.wholeDigits '.' whole
    · rw [none] at fraction
      cases fraction
    · obtain letter | plus | minus | digit := Numeral.mem_powerText power
      · cases letter
      · cases plus
      · cases minus
      · cases digit
  have taken : (n.text ++ rest).take ((n.text ++ rest).length - rest.length) = n.text := by simp
  have idle : (1 < n.whole.length ∧ n.whole.head? = some '0') = False := by simpa using n.noIdleZero
  have cut := n.takeParts?_text ends
  have whole : n.parts.whole = n.whole := rfl
  have fraction : n.parts.fraction = n.fraction := rfl
  have negative : n.parts.negative = n.negative := rfl
  generalize n.parts = parts at *
  simp only [readNumber?, cut, Option.bind_eq_bind, Option.bind_some, taken, whole, fraction, negative,
    List.isEmpty_iff, n.nonempty, signless, Bool.or_eq_true, Bool.and_eq_true,
    decide_eq_true_eq, List.contains_iff_mem, pointless, idle, or_self, if_false]

theorem readNumber?_int (plain : n.fraction = [] ∧ n.power = none) :
    readNumber? (n.text ++ rest) = some
      (.int (if n.negative then -(valueInBase 10 n.whole : Int) else valueInBase 10 n.whole), rest) := by
  have all : n.text.all (fun c => c.isDigit || c == '-') = true := by
    rw [List.all_eq_true]
    intro c member
    obtain ⟨-, rfl⟩ | whole | fraction | power := (n.mem_text c).mp member
    · rfl
    · simp [n.wholeDigits c whole]
    · simp [plain.1, Numeral.pointText] at fraction
    · simp [plain.2, Numeral.powerText] at power
  rw [readNumber?_text n ends, if_pos all]

theorem readNumber?_real (real : n.IsReal) :
    readNumber? (n.text ++ rest) = some (.real n.parts.value, rest) := by
  have some : ¬ n.text.all (fun c => c.isDigit || c == '-') = true := by
    intro all
    rw [List.all_eq_true] at all
    rcases real with fraction | power
    · have point := all '.' ((n.mem_text '.').mpr (.inr (.inr (.inl (by
        simp [Numeral.pointText, fraction])))))
      cases point
    · cases given : n.power with
      | none => exact power given
      | some power =>
        have letter := all 'e' ((n.mem_text 'e').mpr (.inr (.inr (.inr (by
          simp [Numeral.powerText, given])))))
        cases letter
  rw [readNumber?_text n ends, if_neg some]

end

theorem idle_toDigits (value : Nat) : 1 < (Nat.toDigits 10 value).length →
    (Nat.toDigits 10 value).head? ≠ some '0' := by
  intro several
  refine head?_toDigits (Nat.pos_of_ne_zero ?_)
  rintro rfl
  rw [Nat.toDigits_zero] at several
  exact absurd several (by simp)

def integer (value : Int) : Numeral where
  negative := value < 0
  whole := Nat.toDigits 10 value.natAbs
  fraction := []
  power := none
  nonempty := Nat.toDigits_ne_nil
  wholeDigits := fun _ => isDigit_of_mem_toDigits
  noIdleZero := idle_toDigits value.natAbs
  fractionDigits := by simp
  powerDigits := by simp

theorem text_integer (value : Int) : (integer value).text = (toString value).toList := by
  have digits (size : Nat) : (Nat.repr size).toList = Nat.toDigits 10 size := by
    rw [Nat.repr_eq_ofList_toDigits, String.toList_ofList]
  cases value with
  | ofNat size =>
    change signed (decide (Int.ofNat size < 0)) (Nat.toDigits 10 size ++ ([] ++ [])) = (Nat.repr size).toList
    rw [digits, List.append_nil, decide_eq_false (by simp)]
    simp [signed]
  | negSucc size =>
    change signed (decide (Int.negSucc size < 0)) (Nat.toDigits 10 (size + 1) ++ ([] ++ [])) =
      ("-" ++ Nat.repr (size + 1)).toList
    rw [String.toList_append, digits, List.append_nil, decide_eq_true (Int.negSucc_lt_zero size)]
    simp [signed]

theorem readNumber?_integer (value : Int) {rest : List Char} (ends : Numeral.Ends rest) :
    readNumber? ((toString value).toList ++ rest) = some (.int value, rest) := by
  have magnitude : valueInBase 10 (integer value).whole = value.natAbs :=
    valueInBase_toDigits (by omega) (by omega) value.natAbs
  have signed : (if (integer value).negative then -(value.natAbs : Int) else value.natAbs) = value := by
    simp only [integer, decide_eq_true_eq]
    split <;> omega
  rw [← text_integer, readNumber?_int _ ends ⟨rfl, rfl⟩, magnitude, signed]

theorem toList_writeReal {x : Float} {b : Binary} (finite : ofFloat x = .finite b) :
    (writeReal x).toList = b.shortest ∧ shortest x = String.ofList b.shortest := by
  have same : shortest x = String.ofList b.shortest := by rw [shortest, finite]
  refine ⟨?_, same⟩
  rw [writeReal, finite]
  simp only [same, String.toList_ofList]

theorem readNumber?_writeReal {x : Float} (given : ReadsBack x) {rest : List Char}
    (ends : Numeral.Ends rest) : readNumber? ((writeReal x).toList ++ rest) = some (.real x, rest) := by
  obtain ⟨b, finite⟩ := given.finite
  obtain ⟨n, real, written⟩ := writesReal_shortest b
  obtain ⟨here, there⟩ := toList_writeReal finite
  have same := given.same
  rw [there, ← written, n.readFloat?_text, Option.some.injEq] at same
  rw [here, ← written, readNumber?_real n ends real, same]

theorem ascii_toString (value : Int) : Ascii (toString value).toList := by
  rw [← text_integer]
  exact fun c member => ((integer value).mark_of_mem_text member).toNat_lt

theorem ascii_writeReal (x : Float) : Ascii (writeReal x).toList := by
  cases kind : ofFloat x with
  | finite b =>
    obtain ⟨n, -, written⟩ := writesReal_shortest b
    rw [(toList_writeReal kind).1, ← written]
    exact fun c member => (n.mark_of_mem_text member).toNat_lt
  | infinite negative =>
    rw [writeReal, kind]
    cases negative <;> simp
  | undefined =>
    rw [writeReal, kind]
    simp

end SourceCensus.Json
