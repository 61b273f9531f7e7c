import Mathlib.Data.List.Forall2
import SourceCensus.Color.Row
import SourceCensus.Proofs.Text.Digits

/-! Which keys of a ranking are colors, and which color each of them is. A ranking gets one contrast
   row for each of these keys, in its order. -/
namespace SourceCensus.Color
open Text

def Digit (c : Char) (value : Nat) : Prop :=
  value < 16 ∧ (c = Nat.digitChar value ∨ c = (Nat.digitChar value).toUpper)

def Pair (c d : Char) (value : Nat) : Prop :=
  ∃ high low, Digit c high ∧ Digit d low ∧ value = 16 * high + low

/-- The end of a key writes a color: two digits for each channel, or one, which stands for two equal
   ones, with number signs anywhere among them. -/
inductive Writes : List Char → Bytes → Prop where
  | pairs {r r' g g' b b' : Char} {red green blue : Nat} (first : Pair r r' red)
      (second : Pair g g' green) (third : Pair b b' blue) :
      Writes [r, r', g, g', b, b'] ⟨red, green, blue⟩
  | singles {code : List Char} {r g b : Char} {red green blue : Nat}
      (signs : code.filter (· != '#') = [r, g, b]) (first : Pair r r red)
      (second : Pair g g green) (third : Pair b b blue) : Writes code ⟨red, green, blue⟩

/-- Four characters that do not count, and six that write the color. -/
def IsColorKey (key : String) (color : Bytes) : Prop :=
  ∃ lead code, key.toList = lead ++ code ∧ lead.length = 4 ∧ code.length = 6 ∧ Writes code color

theorem digit_of_hexValue? : ∀ code < 128, (hexValue? (Char.ofNat code)).all fun value =>
    value < 16 ∧ (Char.ofNat code = Nat.digitChar value ∨
      Char.ofNat code = (Nat.digitChar value).toUpper) := by decide +kernel

theorem hexValue?_of_digit : ∀ value < 16, hexValue? (Nat.digitChar value) = some value ∧
    hexValue? (Nat.digitChar value).toUpper = some value := by decide

theorem hexValue?_eq_some_iff {c : Char} {value : Nat} :
    hexValue? c = some value ↔ Digit c value := by
  constructor
  · intro found
    have ascii : c.toNat < 128 := toNat_lt_of_isHexDigit (Option.isSome_of_eq_some found)
    have listed := digit_of_hexValue? c.toNat ascii
    rw [Char.ofNat_toNat, found] at listed
    simpa [Digit] using listed
  · rintro ⟨small, rfl | rfl⟩
    · exact (hexValue?_of_digit value small).1
    · exact (hexValue?_of_digit value small).2

theorem isHexDigit_iff {c : Char} : isHexDigit c = true ↔ ∃ value, Digit c value := by
  rw [isHexDigit, Option.isSome_iff_exists]
  simp only [hexValue?_eq_some_iff]

theorem pair_iff {c d : Char} {value : Nat} :
    Pair c d value ↔ (isHexDigit c = true ∧ isHexDigit d = true) ∧ valueInBase 16 [c, d] = value := by
  constructor
  · rintro ⟨high, low, upper, lower, rfl⟩
    refine ⟨⟨isHexDigit_iff.mpr ⟨high, upper⟩, isHexDigit_iff.mpr ⟨low, lower⟩⟩, ?_⟩
    simp [valueInBase, hexValue?_eq_some_iff.mpr upper, hexValue?_eq_some_iff.mpr lower, Nat.mul_comm]
  · rintro ⟨⟨first, second⟩, rfl⟩
    obtain ⟨high, upper⟩ := isHexDigit_iff.mp first
    obtain ⟨low, lower⟩ := isHexDigit_iff.mp second
    refine ⟨high, low, upper, lower, ?_⟩
    simp [valueInBase, hexValue?_eq_some_iff.mpr upper, hexValue?_eq_some_iff.mpr lower, Nat.mul_comm]

theorem ofHex?_eq_some {code : List Char} {color : Bytes} :
    ofHex? code = some color ↔
      (∃ r g b, code.filter (· != '#') = [r, g, b] ∧ Pair r r color.red ∧ Pair g g color.green ∧
        Pair b b color.blue) ∨
      ∃ r r' g g' b b', code.filter (· != '#') = [r, r', g, g', b, b'] ∧ Pair r r' color.red ∧
        Pair g g' color.green ∧ Pair b b' color.blue := by
  unfold ofHex?
  dsimp only
  constructor
  · intro found
    split at found
    · rename_i digits
      split at found
      · rename_i r g b left
        obtain rfl := Option.some.inj found
        simp only [left, List.all_cons, List.all_nil, Bool.and_true, Bool.and_eq_true] at digits
        obtain ⟨red, green, blue⟩ := digits
        exact Or.inl ⟨r, g, b, left, pair_iff.mpr ⟨⟨red, red⟩, rfl⟩, pair_iff.mpr ⟨⟨green, green⟩, rfl⟩,
          pair_iff.mpr ⟨⟨blue, blue⟩, rfl⟩⟩
      · rename_i r r' g g' b b' left
        obtain rfl := Option.some.inj found
        simp only [left, List.all_cons, List.all_nil, Bool.and_true, Bool.and_eq_true] at digits
        obtain ⟨red, red', green, green', blue, blue'⟩ := digits
        exact Or.inr ⟨r, r', g, g', b, b', left, pair_iff.mpr ⟨⟨red, red'⟩, rfl⟩,
          pair_iff.mpr ⟨⟨green, green'⟩, rfl⟩, pair_iff.mpr ⟨⟨blue, blue'⟩, rfl⟩⟩
      · cases found
    · cases found
  · obtain ⟨red, green, blue⟩ := color
    rintro (⟨r, g, b, left, first, second, third⟩ | ⟨r, r', g, g', b, b', left, first, second, third⟩)
    · obtain ⟨⟨one, _⟩, rfl⟩ := pair_iff.mp first
      obtain ⟨⟨two, _⟩, rfl⟩ := pair_iff.mp second
      obtain ⟨⟨three, _⟩, rfl⟩ := pair_iff.mp third
      simp [left, one, two, three]
    · obtain ⟨⟨one, one'⟩, rfl⟩ := pair_iff.mp first
      obtain ⟨⟨two, two'⟩, rfl⟩ := pair_iff.mp second
      obtain ⟨⟨three, three'⟩, rfl⟩ := pair_iff.mp third
      simp [left, one, one', two, two', three, three']

theorem Digit.ne_sign {c : Char} {value : Nat} (digit : Digit c value) : c ≠ '#' := by
  rintro rfl
  have found := hexValue?_eq_some_iff.mpr digit
  rw [show hexValue? '#' = none by decide] at found
  cases found

theorem ofHex?_eq_some_iff {code : List Char} {color : Bytes} (six : code.length = 6) :
    ofHex? code = some color ↔ Writes code color := by
  rw [ofHex?_eq_some]
  constructor
  · rintro (⟨r, g, b, left, first, second, third⟩ | ⟨r, r', g, g', b, b', left, first, second, third⟩)
    · exact .singles left first second third
    · -- six characters are left of six, so none of them was a number sign
      have whole : code.filter (· != '#') = code := by
        apply List.filter_sublist.eq_of_length
        rw [left, six]
        rfl
      rw [← whole, left]
      exact .pairs first second third
  · intro written
    cases written with
    | singles signs first second third => exact Or.inl ⟨_, _, _, signs, first, second, third⟩
    | @pairs r r' g g' b b' red green blue first second third =>
      refine Or.inr ⟨r, r', g, g', b, b', ?_, first, second, third⟩
      have ends {c d : Char} {value : Nat} (pair : Pair c d value) : c ≠ '#' ∧ d ≠ '#' := by
        obtain ⟨high, low, upper, lower, _⟩ := pair
        exact ⟨upper.ne_sign, lower.ne_sign⟩
      simp [ends first, ends second, ends third]

theorem ofKey?_eq_some_iff {key : String} {color : Bytes} :
    ofKey? key = some color ↔ IsColorKey key color := by
  unfold ofKey? keyLength hexTail
  constructor
  · intro found
    split at found
    · rename_i ten
      have length : key.toList.length = 10 := by rw [String.length_toList, ten]
      refine ⟨key.toList.take 4, key.toList.drop 4, (List.take_append_drop _ _).symm, ?_, ?_, ?_⟩
      · rw [List.length_take, length]
        rfl
      · rw [List.length_drop, length]
      · rw [length] at found
        exact (ofHex?_eq_some_iff (by rw [List.length_drop, length])).mp found
    · cases found
  · rintro ⟨lead, code, key_eq, four, six, written⟩
    have length : key.toList.length = 10 := by rw [key_eq, List.length_append, four, six]
    have ten : key.length = 10 := by rw [← String.length_toList, length]
    have tail : key.toList.drop (key.toList.length - 6) = code := by
      rw [length, key_eq]
      exact List.drop_left' four
    rw [if_pos ten, tail]
    exact (ofHex?_eq_some_iff six).mpr written

instance (key : String) : Decidable (∃ color, IsColorKey key color) :=
  decidable_of_iff ((ofKey? key).isSome) (by
    rw [Option.isSome_iff_exists]
    simp only [ofKey?_eq_some_iff])

theorem rows_cons (entry : String × Int) (rest : List (String × Int)) :
    rows (entry :: rest) =
      ((ofKey? entry.1).map (comparison power entry.1 entry.2)).toList ++ rows rest := by
  obtain ⟨key, count⟩ := entry
  unfold rows comparisons
  rw [List.filterMap_cons]
  dsimp only
  cases ofKey? key <;> rfl

/-- A ranking gets a row, in its order and with its key and count, for each key that is a color, and
    none for any other key. -/
theorem rows_are_of_color_keys (entries : List (String × Int)) :
    List.Forall₂ (fun (entry : String × Int) row => ∃ color, IsColorKey entry.1 color ∧
        row = comparison power entry.1 entry.2 color)
      (entries.filter fun (entry : String × Int) => ∃ color, IsColorKey entry.1 color)
      (rows entries) := by
  induction entries with
  | nil => exact .nil
  | cons entry rest ih =>
    rw [rows_cons, List.filter_cons]
    cases found : ofKey? entry.1 with
    | some color =>
      have written := ofKey?_eq_some_iff.mp found
      rw [if_pos (decide_eq_true ⟨color, written⟩)]
      exact .cons ⟨color, written, rfl⟩ ih
    | none =>
      have other : ¬ ∃ color, IsColorKey entry.1 color := by
        rintro ⟨color, written⟩
        rw [ofKey?_eq_some_iff.mpr written] at found
        cases found
      rw [if_neg (by rwa [decide_eq_true_eq])]
      exact ih

theorem rows_numberSigns :
    (∃ c ∈ hexTail "0xff###abc".toList, isHexDigit c = false) ∧
      (rows [("0xff###abc", 1)]).length = 1 := by
  refine ⟨⟨'#', by decide, by decide⟩, ?_⟩
  rfl

end SourceCensus.Color
