import Mathlib
import SourceCensus.Color.Row

/-! Contrast in exact arithmetic: over any ordered field, with the decimals of the definitions as
   fractions, and with any function for the power 2.4 that leaves one where it is. Black and white
   have the least and the greatest luminance, so every color stands out against one of them. -/
namespace SourceCensus.Color

section
variable {K : Type} [Field K] [LinearOrder K] [IsStrictOrderedRing K]

theorem clip_bounds (x : K) : 0 ≤ clip x ∧ clip x ≤ 1 := by
  have zero : (0.0 : K) = 0 := by norm_num
  have one : (1.0 : K) = 1 := by norm_num
  unfold clip
  rw [zero, one]
  split
  · exact ⟨le_refl 0, zero_le_one⟩
  · rename_i positive
    split
    · rename_i small
      exact ⟨le_of_lt (not_le.mp positive), small⟩
    · exact ⟨zero_le_one, le_refl 1⟩

variable (power : K → K)

theorem luminance_bounds (c : Rgb K) : 0 ≤ luminance power c ∧ luminance power c ≤ 1 :=
  clip_bounds _

theorem luminance_range (a b : Rgb K) :
    0 ≤ min (luminance power a) (luminance power b) ∧
      min (luminance power a) (luminance power b) ≤ max (luminance power a) (luminance power b) ∧
      max (luminance power a) (luminance power b) ≤ 1 := by
  have first := luminance_bounds power a
  have second := luminance_bounds power b
  exact ⟨le_min first.1 second.1, min_le_max, max_le first.2 second.2⟩

theorem contrast_eq (a b : Rgb K) : contrast power a b =
    (max (luminance power a) (luminance power b) + 0.05) /
      (min (luminance power a) (luminance power b) + 0.05) := by
  have one : (1.0 : K) = 1 := by norm_num
  unfold contrast
  by_cases order : luminance power a ≤ luminance power b
  · rw [max_eq_right order, min_eq_left order]
    simp only [order, if_true, one, one_div_div]
  · have swapped := le_of_lt (not_le.mp order)
    rw [max_eq_left swapped, min_eq_right swapped]
    simp only [order, if_false, one, one_div_div]

theorem contrast_comm (a b : Rgb K) : contrast power a b = contrast power b a := by
  rw [contrast_eq, contrast_eq, max_comm, min_comm]

theorem one_le_contrast (a b : Rgb K) : 1 ≤ contrast power a b := by
  obtain ⟨least, order, _⟩ := luminance_range power a b
  rw [contrast_eq, one_le_div (by linarith)]
  linarith

theorem contrast_le (a b : Rgb K) : contrast power a b ≤ 21 := by
  obtain ⟨least, _, greatest⟩ := luminance_range power a b
  rw [contrast_eq, div_le_iff₀ (by linarith)]
  linarith

theorem contrast_eq_one_iff (a b : Rgb K) :
    contrast power a b = 1 ↔ luminance power a = luminance power b := by
  obtain ⟨least, _, _⟩ := luminance_range power a b
  have positive : min (luminance power a) (luminance power b) + 0.05 ≠ 0 := by
    intro zero
    linarith
  rw [contrast_eq, div_eq_one_iff_eq positive, add_left_inj, eq_comm]
  exact inf_eq_sup

theorem luminance_black : luminance power (black.scale : Rgb K) = 0 := by
  simp only [luminance, linearize, Bytes.scale, black]
  norm_num [clip]

theorem contrast_black (c : Rgb K) :
    contrast power c black.scale = (luminance power c + 0.05) / 0.05 := by
  have least := (luminance_bounds power c).1
  rw [contrast_eq, luminance_black, max_eq_left least, min_eq_right least, zero_add]

variable {power} (one : power 1 = 1)
include one

theorem luminance_white : luminance power (white.scale : Rgb K) = 1 := by
  have full : (OfScientific.ofScientific 255 false 0 / 255.0 : K) = 1 := by norm_num
  have above : ¬ (1 : K) ≤ 0.03928 := by norm_num
  have scaled : ((1 : K) + 0.055) / 1.055 = 1 := by norm_num
  simp only [luminance, linearize, Bytes.scale, white, full, above, if_false, scaled, one]
  norm_num [clip]

theorem contrast_white (c : Rgb K) :
    contrast power c white.scale = 1.05 / (luminance power c + 0.05) := by
  have greatest := (luminance_bounds power c).2
  have total : (1 : K) + 0.05 = 1.05 := by norm_num
  rw [contrast_eq, luminance_white one, max_eq_right greatest, min_eq_left greatest, total]

theorem contrast_black_mul_white (c : Rgb K) :
    contrast power c black.scale * contrast power c white.scale = 21 := by
  have least := (luminance_bounds power c).1
  have positive : luminance power c + 0.05 ≠ 0 := by
    intro zero
    linarith
  rw [contrast_black, contrast_white one]
  field_simp
  norm_num

end

theorem mem_comparisons {K : Type} [Add K] [Mul K] [Div K] [OfScientific K] [LE K] [DecidableLE K]
    [LT K] [DecidableLT K] {power : K → K} {entries : List (String × Int)} {row : Comparison K}
    (member : row ∈ comparisons power entries) :
    ∃ key count color, row = comparison power key count color := by
  obtain ⟨⟨key, count⟩, _, found⟩ := List.mem_filterMap.mp member
  obtain ⟨color, _, rfl⟩ := Option.map_eq_some_iff.mp found
  exact ⟨key, count, color, rfl⟩

theorem label_eq {K : Type} [OfScientific K] [LT K] [DecidableLT K] (ratio : K) : label ratio =
    if ratio < 2.9 then "fail" else if ratio < 4.5 then "AA+"
    else if ratio < 7.0 then "AA" else if ratio < 25.0 then "AAA" else "" := by
  simp only [label, levels, List.find?_cons, List.find?_nil]
  repeat' split
  all_goals simp_all

section
variable {K : Type} [Field K] [LinearOrder K] [IsStrictOrderedRing K]

theorem label_ne_empty {ratio : K} (below : ratio ≤ 21) : label ratio ≠ "" := by
  have last : ratio < 25.0 := lt_of_le_of_lt below (by norm_num)
  rw [label_eq, if_pos last]
  repeat' split
  all_goals decide

theorem label_of_le {ratio : K} (least : 4.5 ≤ ratio) (below : ratio ≤ 21) :
    label ratio = "AA" ∨ label ratio = "AAA" := by
  have last : ratio < 25.0 := lt_of_le_of_lt below (by norm_num)
  have first : (2.9 : K) ≤ ratio := le_trans (by norm_num) least
  rw [label_eq, if_neg (not_lt.mpr first), if_neg (not_lt.mpr least), if_pos last]
  split
  · exact Or.inl rfl
  · exact Or.inr rfl

theorem le_or_le_of_mul_eq {x y : K} (first : 0 ≤ x) (second : 0 ≤ y) (product : x * y = 21) :
    4.5 ≤ x ∨ 4.5 ≤ y := by
  -- Two factors of 21 are not both below 4.5, whose square is 20.25.
  by_contra small
  obtain ⟨less, lesser⟩ := not_or.mp small
  have bound := mul_lt_mul'' (not_le.mp less) (not_le.mp lesser) first second
  norm_num [product] at bound

variable {power : K → K}

theorem comparison_labels (one : power 1 = 1) (key : String) (count : Int) (color : Bytes) :
    (comparison power key count color).blackLabel ≠ "" ∧
      (comparison power key count color).whiteLabel ≠ "" ∧
      ((comparison power key count color).blackLabel ∈ ["AA", "AAA"] ∨
        (comparison power key count color).whiteLabel ∈ ["AA", "AAA"]) := by
  have onBlack := contrast_le power (color.scale : Rgb K) black.scale
  have onWhite := contrast_le power (color.scale : Rgb K) white.scale
  refine ⟨label_ne_empty onBlack, label_ne_empty onWhite, ?_⟩
  have positive (other : Bytes) : 0 ≤ contrast power (color.scale : Rgb K) other.scale :=
    zero_le_one.trans (one_le_contrast power _ _)
  rcases le_or_le_of_mul_eq (positive black) (positive white)
    (contrast_black_mul_white one color.scale) with enough | enough
  · exact Or.inl (List.mem_pair.mpr (label_of_le enough onBlack))
  · exact Or.inr (List.mem_pair.mpr (label_of_le enough onWhite))

/-- Contrast does not depend on the order, lies between 1 and 21, and is 1 for equal luminances only.
    What a color has against black, times what it has against white, is 21, and so each row has two
    labels, one of which at least is AA or AAA. -/
theorem contrast_laws (one : power 1 = 1) :
    (∀ a b : Rgb K, contrast power a b = contrast power b a ∧
      1 ≤ contrast power a b ∧ contrast power a b ≤ 21 ∧
      (contrast power a b = 1 ↔ luminance power a = luminance power b)) ∧
    (∀ c : Rgb K, contrast power c black.scale * contrast power c white.scale = 21) ∧
    ∀ entries, ∀ row ∈ comparisons power entries, row.blackLabel ≠ "" ∧ row.whiteLabel ≠ "" ∧
      (row.blackLabel ∈ ["AA", "AAA"] ∨ row.whiteLabel ∈ ["AA", "AAA"]) := by
  refine ⟨?_, contrast_black_mul_white one, ?_⟩
  · intro a b
    exact ⟨contrast_comm power a b, one_le_contrast power a b, contrast_le power a b,
      contrast_eq_one_iff power a b⟩
  · intro entries row member
    obtain ⟨key, count, color, rfl⟩ := mem_comparisons member
    exact comparison_labels one key count color

end

noncomputable def exactPower (x : ℝ) : ℝ := x ^ (2.4 : ℝ)

theorem contrast_laws_exactPower :
    exactPower 1 = 1 ∧
      contrast exactPower (Bytes.scale ⟨119, 119, 119⟩) black.scale *
        contrast exactPower (Bytes.scale ⟨119, 119, 119⟩) white.scale = 21 ∧
      ∀ row ∈ comparisons exactPower [("0xff777777", 1)],
        row.blackLabel ∈ ["AA", "AAA"] ∨ row.whiteLabel ∈ ["AA", "AAA"] := by
  have one : exactPower 1 = 1 := Real.one_rpow _
  obtain ⟨_, product, labels⟩ := contrast_laws one
  exact ⟨one, product _, fun row member => (labels _ row member).2.2⟩

end SourceCensus.Color
