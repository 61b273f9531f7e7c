import Mathlib.Algebra.BigOperators.Intervals
import SourceCensus.Proofs.Block.Span

/-! How spans lie to each other. The depth inside an inner block is the depth inside the outer one, less
   what was open before it, so the inner block is closed first. Sizes count places, and disjoint spans
   share none. -/
namespace SourceCensus.Block
open Text Pattern

theorem closing?_shallower {outer inner : Int} {text : List Char} {distance : Nat}
    (inside : 0 < inner) (shallower : inner ≤ outer)
    (closes : closing? outer text = some distance) :
    ∃ sooner ≤ distance, closing? inner text = some sooner := by
  -- the two depths change alike, so the smaller one is zero first
  induction text generalizing outer inner distance with
  | nil => cases closes
  | cons c rest ih =>
    have change := depthChange_cases c
    simp only [closing?] at closes ⊢
    by_cases closed : inner + depthChange c = 0
    · exact ⟨0, Nat.zero_le _, if_pos closed⟩
    · rw [if_neg closed]
      rw [if_neg (by omega)] at closes
      obtain ⟨before, later, rfl⟩ := Option.map_eq_some_iff.mp closes
      have still : 0 < inner + depthChange c := by omega
      have less : inner + depthChange c ≤ outer + depthChange c := by omega
      obtain ⟨sooner, bound, found⟩ := ih still less later
      exact ⟨sooner + 1, by omega, by rw [found]; rfl⟩

theorem closing?_drop {depth : Int} {text : List Char} {distance n : Nat} (inside : 0 < depth)
    (closes : closing? depth text = some distance) (early : n ≤ distance) :
    ∃ deeper, 0 < deeper ∧ closing? deeper (text.drop n) = some (distance - n) := by
  induction n generalizing depth text distance with
  | zero => exact ⟨depth, inside, closes⟩
  | succ n ih =>
    cases text with
    | nil => cases closes
    | cons c rest =>
      have change := depthChange_cases c
      simp only [closing?] at closes
      by_cases closed : depth + depthChange c = 0
      · rw [if_pos closed] at closes
        have here := Option.some.inj closes
        omega
      · rw [if_neg closed] at closes
        obtain ⟨before, later, rfl⟩ := Option.map_eq_some_iff.mp closes
        have still : 0 < depth + depthChange c := by omega
        obtain ⟨deeper, positive, found⟩ := ih still later (by omega)
        refine ⟨deeper, positive, ?_⟩
        rw [List.drop_succ_cons, found]
        congr 1
        omega

/-- Of two blocks the one that opens later is closed no later, or opens after the other is closed. -/
theorem blockEnd?_nested {text : List Char} {first second firstEnd secondEnd : Nat}
    (opensFirst : text[first]? = some '{') (opensSecond : text[second]? = some '{')
    (before : first < second) (endsFirst : blockEnd? text first = some firstEnd)
    (endsSecond : blockEnd? text second = some secondEnd) :
    firstEnd < second ∨ secondEnd ≤ firstEnd := by
  obtain ⟨_, found, _, bound, _⟩ := blockEnd?_bounds opensSecond
  obtain rfl := Option.some.inj (found.symm.trans endsSecond)
  obtain ⟨inside, _⟩ := List.getElem?_eq_some_iff.mp opensFirst
  have outer := closing?_opening opensFirst
  have inner := closing?_opening opensSecond
  cases closes : closing? (0 + 1) (text.drop (first + 1)) with
  | none =>
    rw [closes, Option.map_none] at outer
    rw [blockEnd?_unclosed inside outer] at endsFirst
    have last := Option.some.inj endsFirst
    exact Or.inr (by omega)
  | some distance =>
    rw [blockEnd?, outer, closes] at endsFirst
    have firstEnd_eq : first + (distance + 1) = firstEnd := Option.some.inj endsFirst
    by_cases apart : firstEnd < second
    · exact Or.inl apart
    -- at the second brace the first block is still open, and stays so until the second is closed
    · obtain ⟨deeper, positive, rest⟩ :=
        closing?_drop (n := second - (first + 1)) (by decide) closes (by omega)
      rw [List.drop_drop, show first + 1 + (second - (first + 1)) = second by omega,
        drop_of_getElem? opensSecond, closing?_brace_cons (by omega)] at rest
      obtain ⟨left, later, same⟩ := Option.map_eq_some_iff.mp rest
      have shallower : (0 : Int) + 1 ≤ deeper + 1 := by omega
      obtain ⟨sooner, near, closed⟩ := closing?_shallower (by decide) shallower later
      rw [blockEnd?, inner, closed] at endsSecond
      have secondEnd_eq : second + (sooner + 1) = _ := Option.some.inj endsSecond
      exact Or.inr (by omega)

def ends (text : List Char) (start stop : Nat) : Finset Nat :=
  (Finset.Ico start stop).filter fun place => text[place]? = some ';'

theorem sizeBetween_eq_card (text : List Char) (start stop : Nat) :
    sizeBetween text start stop = (ends text start stop).card := by
  rcases Nat.lt_or_ge stop start with backward | forward
  · rw [ends, Finset.Ico_eq_empty_of_le backward.le, sizeBetween, Nat.sub_eq_zero_of_le backward.le]
    rfl
  · rw [ends, Finset.card_filter]
    induction stop, forward using Nat.le_induction with
    | base => simp [sizeBetween]
    | succ stop forward ih =>
      rw [Finset.sum_Ico_succ_top forward, ← ih, sizeBetween, sizeBetween,
        Nat.succ_sub forward, List.take_add_one, List.count_append, List.getElem?_drop,
        Nat.add_sub_cancel' forward]
      congr 1
      cases text[stop]? with
      | none => rfl
      | some c => simp [List.count_singleton]

theorem disjoint_ends {text : List Char} {a b c d : Nat} (apart : b ≤ c ∨ d ≤ a) :
    Disjoint (ends text a b) (ends text c d) := by
  rw [Finset.disjoint_left]
  intro place here there
  have left := Finset.mem_Ico.mp (Finset.mem_filter.mp here).1
  have right := Finset.mem_Ico.mp (Finset.mem_filter.mp there).1
  omega

theorem ends_subset {text : List Char} {a b c d : Nat} (start : c ≤ a) (stop : b ≤ d) :
    ends text a b ⊆ ends text c d :=
  Finset.filter_subset_filter _ (Finset.Ico_subset_Ico start stop)

namespace Span

def Before (a b : Span) : Prop := a.stop < b.start

instance (a b : Span) : Decidable (a.Before b) := inferInstanceAs (Decidable (a.stop < b.start))

def Inside (a b : Span) : Prop := b.start ≤ a.start ∧ a.stop ≤ b.stop

instance (a b : Span) : Decidable (a.Inside b) :=
  inferInstanceAs (Decidable (b.start ≤ a.start ∧ a.stop ≤ b.stop))

/-- A span as the depth of a text gives it. -/
structure Measures (span : Span) (text : List Char) : Prop where
  opens : text[span.start]? = some '{'
  closes : blockEnd? text span.start = some span.stop
  counts : span.size = (ends text span.start span.stop).card

end Span

theorem findingOf_measures {text : List Char} {found : Match} {span : Span}
    (opens : text[span.start]? = some '{') (finding : findingOf text found = .span span) :
    span.Measures text := by
  obtain ⟨stop, closes, _⟩ := blockEnd?_bounds opens
  unfold findingOf at finding
  split at finding
  · cases finding
  · cases finding
  · obtain rfl := Finding.span.inj finding
    refine ⟨opens, ?_, sizeBetween_eq_card _ _ _⟩
    simp only at closes ⊢
    rw [closes]
    rfl

theorem spans_measure {s : Scanner} {text : List Char} {span : Span}
    (member : span ∈ s.spans text) : span.Measures (s.prepare text) := by
  have opens := (spans_fit member).1.opens
  obtain ⟨finding, found, same⟩ := List.mem_filterMap.mp member
  obtain ⟨matched, _, rfl⟩ := List.mem_map.mp found
  split at same
  · rename_i inner finding
    obtain rfl := Option.some.inj same
    exact findingOf_measures opens finding
  · cases same

namespace Span.Measures

variable {a b : Span} {text : List Char}

theorem stop_eq (first : a.Measures text) (second : b.Measures text) (same : a.start = b.start) :
    a.stop = b.stop := by
  have closes := first.closes
  rw [same] at closes
  exact Option.some.inj (closes.symm.trans second.closes)

theorem nested (first : a.Measures text) (second : b.Measures text) (order : a.start ≤ b.start) :
    a.Before b ∨ b.stop ≤ a.stop := by
  rcases Nat.eq_or_lt_of_le order with same | before
  · exact Or.inr (first.stop_eq second same).ge
  · exact blockEnd?_nested first.opens second.opens before first.closes second.closes

theorem sum_size_le {outer : Span} {inner : Finset Span} (measured : outer.Measures text)
    (all : ∀ a ∈ inner, a.Measures text ∧ a.Inside outer)
    (apart : ∀ a ∈ inner, ∀ b ∈ inner, a ≠ b → a.Before b ∨ b.Before a) :
    ∑ a ∈ inner, a.size ≤ outer.size := by
  have disjoint : ∀ a ∈ inner, ∀ b ∈ inner, a ≠ b →
      Disjoint (ends text a.start a.stop) (ends text b.start b.stop) := by
    intro a here b there different
    have order := apart a here b there different
    exact disjoint_ends (order.imp Nat.le_of_lt Nat.le_of_lt)
  calc ∑ a ∈ inner, a.size
      = ∑ a ∈ inner, (ends text a.start a.stop).card :=
        Finset.sum_congr rfl fun a member => (all a member).1.counts
    _ = (inner.biUnion fun a => ends text a.start a.stop).card :=
        (Finset.card_biUnion disjoint).symm
    _ ≤ (ends text outer.start outer.stop).card := by
        apply Finset.card_le_card
        intro place member
        obtain ⟨a, inside, here⟩ := Finset.mem_biUnion.mp member
        obtain ⟨start, stop⟩ := (all a inside).2
        exact ends_subset start stop here
    _ = outer.size := measured.counts.symm

end Span.Measures

theorem Scanner.length_prepare (s : Scanner) (text : List Char) :
    (s.prepare text).length = text.length := by
  unfold prepare
  split
  · exact Literal.length_strip text
  · rfl

/-- The spans of a text form a nested family, whatever the pattern and whether literals are stripped or
    not, and no span is smaller than disjoint spans inside it together. A block that is never closed
    ends with the text. -/
theorem spans_form_nested_family (s : Scanner) (text : List Char) :
    (∀ a ∈ s.spans text, ∀ b ∈ s.spans text, a.start ≤ b.start →
      (a.Before b ∨ b.stop ≤ a.stop) ∧ (a.start = b.start → a.stop = b.stop)) ∧
    (∀ outer ∈ s.spans text, ∀ inner : Finset Span,
      (∀ a ∈ inner, a ∈ s.spans text ∧ a.Inside outer) →
      (∀ a ∈ inner, ∀ b ∈ inner, a ≠ b → a.Before b ∨ b.Before a) →
        ∑ a ∈ inner, a.size ≤ outer.size) ∧
    ∀ a ∈ s.spans text, closing? 0 ((s.prepare text).drop a.start) = none →
      a.stop + 1 = text.length := by
  refine ⟨?_, ?_, ?_⟩
  · intro a first b second order
    have measured := spans_measure first
    exact ⟨measured.nested (spans_measure second) order, measured.stop_eq (spans_measure second)⟩
  · intro outer found inner all apart
    refine (spans_measure found).sum_size_le (fun a member => ?_) apart
    exact ⟨spans_measure (all a member).1, (all a member).2⟩
  · intro a found unclosed
    obtain ⟨inside, _⟩ := List.getElem?_eq_some_iff.mp (spans_measure found).opens
    have last := (spans_measure found).closes
    rw [blockEnd?_unclosed inside unclosed, s.length_prepare] at last
    rw [s.length_prepare] at inside
    have stop := Option.some.inj last
    omega

def shortClass : Pattern := ⟨"class .", .seq (literally "class ") (.any false)⟩

def unclosedClasses : List Char :=
  "class A \x7b class B \x7b b; \x7d class C \x7b c; '\x7d'".toList

def outerClass : Span := ⟨"A", 8, 40, 2⟩

def innerClasses : List Span := [⟨"B", 18, 23, 1⟩, ⟨"C", 33, 40, 1⟩]

theorem spans_form_nested_family_unclosed :
    (Scanner.mk shortClass true).spans unclosedClasses = outerClass :: innerClasses ∧
      (∀ b ∈ innerClasses, outerClass.Before b ∨ b.stop ≤ outerClass.stop) ∧
      ∑ a ∈ innerClasses.toFinset, a.size ≤ outerClass.size ∧
      outerClass.stop + 1 = unclosedClasses.length := by
  have found : (Scanner.mk shortClass true).spans unclosedClasses = outerClass :: innerClasses := by
    cbv
  have family := spans_form_nested_family (Scanner.mk shortClass true) unclosedClasses
  rw [found] at family
  obtain ⟨nested, sums, last⟩ := family
  have outer : outerClass ∈ outerClass :: innerClasses := List.mem_cons_self
  refine ⟨found, ?_, ?_, ?_⟩
  · intro b member
    have order : ∀ b ∈ innerClasses, outerClass.start ≤ b.start := by decide
    exact (nested _ outer b (List.mem_cons_of_mem _ member) (order b member)).1
  · apply sums _ outer
    · decide
    · decide
  · apply last _ outer
    cbv

end SourceCensus.Block
