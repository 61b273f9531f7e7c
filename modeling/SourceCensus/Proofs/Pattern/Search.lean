import SourceCensus.Pattern.Search
import SourceCensus.Proofs.Text.Cursor

/-! All matches of a pattern against a description of where it matches. The description says which hits
   there are and where each starts and stops; the search then takes the first hit, goes on where that
   one stops, and so on. -/
namespace SourceCensus.Pattern
open Text

section
variable {Hit : Type} (start stop : Hit → Nat) (Occurs : Hit → Prop)

/-- Each hit is the first that starts at the place or later, and the next place is where it stops. -/
inductive LeftToRight : Nat → List Hit → Prop
  | done {place : Nat} (nothing : ∀ hit, Occurs hit → ¬ place ≤ start hit) : LeftToRight place []
  | next {place : Nat} {hit : Hit} {rest : List Hit} (occurs : Occurs hit)
      (after : place ≤ start hit)
      (first : ∀ other, Occurs other → place ≤ start other → start hit ≤ start other)
      (later : LeftToRight (stop hit) rest) : LeftToRight place (hit :: rest)

def Passage (hits : List Hit) : Prop :=
  ∀ others, LeftToRight start stop Occurs 0 others ↔ others = hits

end

namespace LeftToRight

variable {Hit : Type} {start stop : Hit → Nat} {Occurs : Hit → Prop} {place : Nat}

theorem unique (single : ∀ a b, Occurs a → Occurs b → start a = start b → a = b)
    {hits others : List Hit} (left : LeftToRight start stop Occurs place hits)
    (right : LeftToRight start stop Occurs place others) : hits = others := by
  induction left generalizing others with
  | done nothing =>
    cases right with
    | done => rfl
    | next occurs after => exact absurd after (nothing _ occurs)
  | next occurs after first later ih =>
    cases right with
    | done nothing => exact absurd after (nothing _ occurs)
    | next occurs' after' first' later' =>
      have same := Nat.le_antisymm (first _ occurs' after') (first' _ occurs after)
      obtain rfl := single _ _ occurs occurs' same
      rw [ih later']

theorem passage (single : ∀ a b, Occurs a → Occurs b → start a = start b → a = b)
    {hits : List Hit} (passes : LeftToRight start stop Occurs 0 hits) :
    Passage start stop Occurs hits := by
  refine fun others => ⟨fun also => also.unique single passes, ?_⟩
  rintro rfl
  exact passes

theorem mem {hits : List Hit} (passes : LeftToRight start stop Occurs place hits) {hit : Hit}
    (member : hit ∈ hits) : Occurs hit := by
  induction passes with
  | done => cases member
  | next occurs _ _ _ ih =>
    rcases List.mem_cons.mp member with rfl | later
    · exact occurs
    · exact ih later

theorem apart {hits : List Hit} (onward : ∀ hit, Occurs hit → start hit < stop hit)
    (passes : LeftToRight start stop Occurs place hits) :
    (∀ hit ∈ hits, place ≤ start hit) ∧ hits.Pairwise fun a b => stop a ≤ start b := by
  induction passes with
  | done => simp
  | @next place hit rest occurs after first later ih =>
    obtain ⟨bound, rest⟩ := ih
    have moves := onward hit occurs
    refine ⟨?_, List.pairwise_cons.mpr ⟨bound, rest⟩⟩
    intro other member
    rcases List.mem_cons.mp member with rfl | later
    · exact after
    · have behind := bound other later
      omega

theorem mem_of_occurs (single : ∀ a b, Occurs a → Occurs b → start a = start b → a = b)
    (disjoint : ∀ a b, Occurs a → Occurs b → start a < start b → stop a ≤ start b)
    {hits : List Hit} (passes : LeftToRight start stop Occurs place hits) {hit : Hit}
    (occurs : Occurs hit) (after : place ≤ start hit) : hit ∈ hits := by
  induction passes with
  | done nothing => exact absurd after (nothing hit occurs)
  | next here _ first _ ih =>
    rcases Nat.eq_or_lt_of_le (first hit occurs after) with same | before
    · rw [single _ _ here occurs same]
      exact List.mem_cons_self
    · exact List.mem_cons_of_mem _ (ih (disjoint _ _ here occurs before))

end LeftToRight

def between (text : List Char) (start stop : Nat) : Match :=
  ⟨Cursor.within text start, Cursor.within text stop⟩

/-- A pattern matches exactly at the hits of a text, and each match ends where its hit stops. -/
structure Finds {Hit : Type} (node : Node) (text : List Char) (start stop : Hit → Nat)
    (Occurs : Hit → Prop) : Prop where
  onward : ∀ hit, Occurs hit → start hit < stop hit
  inside : ∀ hit, Occurs hit → stop hit ≤ text.length
  found : ∀ hit, Occurs hit → matchAt? node (Cursor.within text (start hit)) false =
    some (between text (start hit) (stop hit))
  missed : ∀ place ≤ text.length, (∀ hit, Occurs hit → start hit ≠ place) →
    matchAt? node (Cursor.within text place) false = none

theorem matchAt?_still (node : Node) (c : Cursor) :
    matchAt? node c false = (node.run ⟨c, []⟩ some).map fun p => ⟨c, p.cursor⟩ := rfl

theorem isEmpty_between {text : List Char} {start stop : Nat} (onward : start < stop)
    (inside : stop ≤ text.length) : (between text start stop).isEmpty = false := by
  simp only [Match.isEmpty, between, Cursor.left_eq, Cursor.after_within, List.length_drop,
    beq_eq_false_iff_ne, ne_eq]
  omega

theorem text_between {text : List Char} {start stop : Nat} (inside : stop ≤ text.length) :
    (between text start stop).text = (text.drop start).take (stop - start) := by
  simp only [Match.text, between, Cursor.left_eq, Cursor.after_within, List.length_drop]
  congr 1
  omega

def leftFrom {Hit : Type} (text : List Char) (start stop : Hit → Nat) : Nat → List Hit → List Char
  | place, [] => text.drop place
  | place, hit :: rest =>
    (text.drop place).take (start hit - place) ++ leftFrom text start stop (stop hit) rest

theorem head?_leftFrom {Hit : Type} {text : List Char} {start stop : Hit → Nat} {place : Nat}
    {hits : List Hit} {c : Char} (here : text[place]? = some c)
    (later : ∀ hit ∈ hits, place < start hit) :
    (leftFrom text start stop place hits).head? = some c := by
  cases hits with
  | nil => rw [leftFrom, List.head?_drop, here]
  | cons hit rest =>
    obtain ⟨width, same⟩ := Nat.exists_eq_add_of_lt (later hit List.mem_cons_self)
    have kept : start hit - place = width + 1 := by omega
    rw [leftFrom, kept, drop_of_getElem? here, List.take_succ_cons]
    rfl

theorem eraseFrom_between {Hit : Type} {text : List Char} {start stop : Hit → Nat}
    {Occurs : Hit → Prop} {place : Nat} {hits : List Hit}
    (onward : ∀ hit, Occurs hit → start hit < stop hit)
    (inside : ∀ hit, Occurs hit → stop hit ≤ text.length)
    (passes : LeftToRight start stop Occurs place hits) :
    eraseFrom (Cursor.within text place) (hits.map fun hit => between text (start hit) (stop hit)) =
      leftFrom text start stop place hits := by
  induction passes with
  | done => exact Cursor.after_within text _
  | @next place hit rest occurs after first later ih =>
    have moves := onward hit occurs
    have bound := inside hit occurs
    have width : (Cursor.within text place).left - (between text (start hit) (stop hit)).start.left =
        start hit - place := by
      simp only [between, Cursor.left_eq, Cursor.after_within, List.length_drop]
      omega
    rw [List.map_cons, eraseFrom, leftFrom, width, Cursor.after_within]
    exact congrArg _ ih

namespace Finds

variable {Hit : Type} {node : Node} {text : List Char} {start stop : Hit → Nat} {Occurs : Hit → Prop}

theorem search? (finds : Finds node text start stop Occurs) {place : Nat}
    (within : place ≤ text.length) :
    (Pattern.search? node (Cursor.within text place) false = none ∧
      ∀ hit, Occurs hit → ¬ place ≤ start hit) ∨
    ∃ hit, Occurs hit ∧ place ≤ start hit ∧
      (∀ other, Occurs other → place ≤ start other → start hit ≤ start other) ∧
      Pattern.search? node (Cursor.within text place) false =
        some (between text (start hit) (stop hit)) := by
  -- on the distance to the end: a place without a hit is passed over
  induction left : text.length - place using Nat.strongRecOn generalizing place with
  | ind left ih =>
    by_cases here : ∃ hit, Occurs hit ∧ start hit = place
    · obtain ⟨hit, occurs, rfl⟩ := here
      refine Or.inr ⟨hit, occurs, Nat.le_refl _, fun _ _ after => after, ?_⟩
      rw [Pattern.search?, finds.found hit occurs]
    · have elsewhere : ∀ hit, Occurs hit → start hit ≠ place :=
        fun hit occurs same => here ⟨hit, occurs, same⟩
      have missed := finds.missed place within elsewhere
      rcases Nat.eq_or_lt_of_le within with ends | more
      · have nothing : (Cursor.within text place).after = [] := by
          rw [Cursor.after_within, ends, List.drop_length]
        refine Or.inl ⟨?_, ?_⟩
        · rw [Pattern.search?, missed]
          exact dif_pos nothing
        · intro hit occurs after
          have onward := finds.onward hit occurs
          have inside := finds.inside hit occurs
          omega
      · have something : (Cursor.within text place).after ≠ [] := by
          rw [Cursor.after_within, Ne, List.drop_eq_nil_iff]
          omega
        have moved : Pattern.search? node (Cursor.within text place) false =
            Pattern.search? node (Cursor.within text (place + 1)) false := by
          rw [Pattern.search?, missed, ← Cursor.forward_within]
          exact dif_neg something
        have later (hit : Hit) (occurs : Occurs hit) : place ≤ start hit ↔ place + 1 ≤ start hit := by
          have other := elsewhere hit occurs
          omega
        rw [moved]
        rcases ih (text.length - (place + 1)) (by omega) more rfl with ⟨none, nothing⟩ | found
        · exact Or.inl ⟨none, fun hit occurs after => nothing hit occurs ((later hit occurs).mp after)⟩
        · obtain ⟨hit, occurs, after, first, some⟩ := found
          refine Or.inr ⟨hit, occurs, (later hit occurs).mpr after, ?_, some⟩
          exact fun other occurs' after' => first other occurs' ((later other occurs').mp after')

theorem searches (finds : Finds node text start stop Occurs) {fuel place : Nat}
    (within : place ≤ text.length) (enough : text.length - place < fuel) :
    ∃ hits, LeftToRight start stop Occurs place hits ∧
      Pattern.searches node fuel (Cursor.within text place) false =
        hits.map fun hit => between text (start hit) (stop hit) := by
  induction fuel generalizing place with
  | zero => exact absurd enough (Nat.not_lt_zero _)
  | succ fuel ih =>
    rw [Pattern.searches]
    rcases finds.search? within with ⟨none, nothing⟩ | ⟨hit, occurs, after, first, some⟩
    · rw [none]
      exact ⟨[], .done nothing, rfl⟩
    · have onward := finds.onward hit occurs
      have inside := finds.inside hit occurs
      obtain ⟨rest, passes, searched⟩ := ih inside (by omega)
      refine ⟨hit :: rest, .next occurs after first passes, ?_⟩
      rw [some]
      simp only [isEmpty_between onward inside, List.map_cons, ← searched]
      rfl

/-- All matches of the pattern are the hits of the text, from left to right. -/
theorem findAll (finds : Finds node text start stop Occurs) :
    ∃ hits, LeftToRight start stop Occurs 0 hits ∧
      Pattern.findAll node text = hits.map fun hit => between text (start hit) (stop hit) :=
  finds.searches (Nat.zero_le _) (by omega)

theorem erase (finds : Finds node text start stop Occurs) :
    ∃ hits, LeftToRight start stop Occurs 0 hits ∧
      Pattern.erase node text = leftFrom text start stop 0 hits := by
  obtain ⟨hits, passes, found⟩ := finds.findAll
  refine ⟨hits, passes, ?_⟩
  rw [Pattern.erase, found]
  exact eraseFrom_between finds.onward finds.inside passes

end Finds

end SourceCensus.Pattern
