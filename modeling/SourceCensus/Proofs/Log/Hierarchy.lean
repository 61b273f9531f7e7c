import Mathlib
import SourceCensus.Log.Journal

/-! Which sources a journal hears. The search from a source upwards comes to the points right behind the
   root, whatever follows them. A single point leads to the root. Of several, the search takes two at
   a time, unless a source was asked for that ends between them, so it may leap over the root. -/
namespace SourceCensus.Log
variable {sources : List String}

theorem hangsBelow_letter {c : Char} (letter : c ≠ '.') (rest : List Char) :
    hangsBelow sources (c :: rest) = hangsBelow sources rest := by
  rw [hangsBelow]
  exact fun _ _ point _ => letter point

theorem hangsBelow_noPoint {letters : List Char} (plain : '.' ∉ letters) :
    hangsBelow sources letters = false := by
  induction letters with
  | nil => rfl
  | cons c rest ih =>
    rw [List.mem_cons, not_or] at plain
    rw [hangsBelow_letter (Ne.symm plain.1), ih plain.2]

theorem hangsBelow_point {above : List Char} (some : above ≠ []) :
    hangsBelow sources ('.' :: above) =
      if String.ofList above.reverse = root then true
      else if sources.contains (String.ofList above.reverse) then hangsBelow sources above
      else hangsBelow sources above.tail := by
  cases above with
  | nil => exact absurd rfl some
  | cons c rest => rw [hangsBelow, List.tail_cons]

def pointed (count : Nat) : String := root ++ String.ofList (List.replicate count '.')

/-- Whether the root is above the source that has so many points behind it. -/
def climbs (sources : List String) : Nat → Bool
  | 0 => false
  | 1 => true
  | count + 2 =>
    if sources.contains (pointed (count + 1)) then climbs sources (count + 1)
    else climbs sources count

theorem ofList_reverse_pointed (count : Nat) :
    String.ofList (List.replicate count '.' ++ root.toList.reverse).reverse = pointed count := by
  simp [pointed, String.ofList_append]

theorem pointed_one : pointed 1 = root ++ "." := by decide

theorem pointed_ne_root (count : Nat) : pointed (count + 1) ≠ root := by
  intro same
  have longer := congrArg (fun text => text.toList.length) same
  simp [pointed] at longer

theorem hangsBelow_pointed (sources : List String) (count : Nat) :
    hangsBelow sources (List.replicate count '.' ++ root.toList.reverse) = climbs sources count := by
  induction count using Nat.twoStepInduction with
  | zero => exact hangsBelow_noPoint (by decide)
  | one =>
    rw [List.replicate_one, List.singleton_append, hangsBelow_point (by decide),
      if_pos (by rw [List.reverse_reverse, String.ofList_toList]), climbs]
  | more count two one =>
    have some : List.replicate (count + 1) '.' ++ root.toList.reverse ≠ [] := by simp [root]
    rw [List.replicate_succ, List.cons_append, hangsBelow_point some, ofList_reverse_pointed,
      if_neg (pointed_ne_root count), one, climbs, List.replicate_succ, List.cons_append,
      List.tail_cons, two]

/-- What follows the points behind the root does not change where the search ends. -/
theorem hangsBelow_append {base : List Char} (long : root.toList.length ≤ base.length) :
    ∀ {letters : List Char}, letters.getLast? ≠ some '.' →
      hangsBelow sources (letters ++ base) = hangsBelow sources base
  | [], _ => rfl
  | [c], ends => hangsBelow_letter (by simpa using ends) base
  | c :: d :: rest, ends => by
    have inner : (d :: rest).getLast? ≠ some '.' := by rwa [List.getLast?_cons_cons] at ends
    have deeper := hangsBelow_append long inner
    by_cases point : c = '.'
    · subst point
      have other : String.ofList (d :: rest ++ base).reverse ≠ root := by
        intro same
        have length := congrArg (fun text => text.toList.length) same
        simp only [String.toList_ofList, List.length_reverse, List.length_append,
          List.length_cons] at length
        omega
      have innermost : rest.getLast? ≠ some '.' := by
        cases rest with
        | nil => nofun
        | cons e more => rwa [List.getLast?_cons_cons] at inner
      have leapt := hangsBelow_append long innermost
      rw [List.cons_append, hangsBelow_point (by simp), if_neg other, deeper, List.cons_append,
        List.tail_cons, leapt, ite_self]
    · rw [List.cons_append, hangsBelow_letter point, deeper]

/-- A source that is the root, or stands below it behind a single point. -/
def Belongs (source : String) : Prop :=
  source = root ∨ ∃ rest : String, source = root ++ "." ++ rest ∧ rest.startsWith "." = false

theorem two_le_of_not_belongs {count : Nat} {rest : String} (plain : rest.startsWith "." = false)
    (none : count = 0 → rest = "") (outside : ¬ Belongs (pointed count ++ rest)) : 2 ≤ count := by
  by_contra few
  apply outside
  obtain rfl | rfl : count = 0 ∨ count = 1 := by omega
  · left
    simp [pointed, none rfl]
  · right
    exact ⟨rest, by rw [pointed_one], plain⟩

theorem startsWith_point_iff {text : String} :
    text.startsWith "." = true ↔ text.toList.head? = some '.' := by
  rw [String.startsWith_string_iff]
  cases text.toList with
  | nil => decide
  | cons c rest => simp [List.prefix_cons_iff, eq_comm]

namespace Journal

theorem hears_root (j : Journal) : j.hears root = true := by
  simp [hears]

/-- A source with points right behind the root is heard exactly if these lead to the root. -/
theorem hears_pointed (j : Journal) {count : Nat} {rest : String} (plain : rest.startsWith "." = false)
    (more : 0 < count ∨ rest ≠ "") : j.hears (pointed count ++ rest) = climbs j.sources count := by
  have other : pointed count ++ rest ≠ root := by
    intro same
    have length := congrArg (fun text => text.toList.length) same
    simp only [pointed, String.toList_append, String.toList_ofList, List.length_append,
      List.length_replicate] at length
    have none : rest.toList = [] := List.eq_nil_of_length_eq_zero (by omega)
    rcases more with some | some
    · omega
    · exact some (String.toList_eq_nil_iff.mp none)
  have backwards : (pointed count ++ rest).toList.reverse =
      rest.toList.reverse ++ (List.replicate count '.' ++ root.toList.reverse) := by
    simp [pointed]
  have ends : rest.toList.reverse.getLast? ≠ some '.' := by
    rw [List.getLast?_reverse, ne_eq, ← startsWith_point_iff, plain]
    exact Bool.false_ne_true
  rw [hears, decide_eq_false other, Bool.false_or, backwards, hangsBelow_append (by simp) ends,
    hangsBelow_pointed]

-- A second point behind the root hides it, unless a source was asked for that ends between the two.
example : climbs [] 2 = false ∧ climbs [pointed 1] 2 = true := by decide

theorem hears_of_belongs (j : Journal) {source : String} (belongs : Belongs source) :
    j.hears source = true := by
  rcases belongs with rfl | ⟨rest, rfl, plain⟩
  · exact j.hears_root
  · rw [← pointed_one]
    exact j.hears_pointed plain (.inl Nat.one_pos)

end Journal

end SourceCensus.Log
