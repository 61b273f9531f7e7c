import SourceCensus.Proofs.Ranking

/-! The top of a ranking. A limit keeps the first few entries of one order, so a wider limit only adds
   to what a narrower one keeps, and what was kept ranks itself again in the order it has. -/
namespace SourceCensus

section
variable {α : Type} {entries : List (α × Int)}

theorem cut_prefix_self (limit : Int) (entries : List (α × Int)) : cut limit entries <+: entries := by
  unfold cut
  split
  · exact List.take_prefix limit.toNat entries
  · exact List.prefix_refl entries

theorem cut_of_length_le {limit : Int} (room : entries.length ≤ limit) :
    cut limit entries = entries := by
  unfold cut
  split
  · exact List.take_of_length_le (by omega)
  · rfl

theorem cut_prefix_cut {limit wider : Int} (some : 0 < limit)
    (more : limit ≤ wider ∨ wider = 0) : cut limit entries <+: cut wider entries := by
  rcases more with above | all
  · have narrow : limit.toNat ≤ wider.toNat := by omega
    have room : 0 < wider := by omega
    rw [cut, if_pos some, cut, if_pos room]
    exact List.take_prefix_take_left narrow
  · have whole : cut wider entries = entries := by rw [cut, if_neg (by omega)]
    rw [whole]
    exact cut_prefix_self limit entries

theorem le_of_mem_cut {limit : Int} {kept omitted : α × Int}
    (falling : entries.Pairwise fun a b => b.2 ≤ a.2) (inside : kept ∈ cut limit entries)
    (listed : omitted ∈ entries) (outside : omitted ∉ cut limit entries) :
    omitted.2 ≤ kept.2 := by
  obtain ⟨rest, parts⟩ := cut_prefix_self limit entries
  rw [← parts, List.pairwise_append] at falling
  rw [← parts, List.mem_append] at listed
  have behind : omitted ∈ rest := listed.resolve_left outside
  exact falling.2.2 kept inside omitted behind

theorem byNumber_of_pairwise (falling : entries.Pairwise fun a b => b.2 ≤ a.2) :
    byNumber entries = entries := by
  apply List.mergeSort_of_pairwise
  exact falling.imp fun least => decide_eq_true least

theorem pairwise_rank (entries : List (α × Int)) (limit : Int) :
    (rank entries limit).Pairwise fun a b => b.2 ≤ a.2 :=
  (pairwise_byNumber entries).sublist (cut_prefix_self limit _).sublist

end

variable {α : Type} [DecidableEq α]

/-- The entries of a tally, the greatest number first, those of one number as the tally has them. -/
structure Tally.Orders (t : Tally α) (whole : List (α × Int)) : Prop where
  perm : whole.Perm t.entries
  falling : whole.Pairwise fun a b => b.2 ≤ a.2
  stable : whole.Pairwise fun a b => a.2 = b.2 → t.keys.idxOf a.1 < t.keys.idxOf b.1

namespace Tally

variable {t : Tally α} {whole others : List (α × Int)}

theorem Orders.pairwise_precedes (orders : t.Orders whole) :
    whole.Pairwise (Precedes t.keys) := by
  refine (orders.falling.and orders.stable).imp ?_
  rintro a b ⟨most, stable⟩
  rcases Int.lt_or_eq_of_le most with fewer | same
  · exact Or.inl fewer
  · exact Or.inr ⟨same.symm, stable same.symm⟩

theorem Orders.unique (orders : t.Orders whole) (also : t.Orders others) : whole = others :=
  eq_of_perm_of_precedes orders.pairwise_precedes also.pairwise_precedes
    (orders.perm.trans also.perm.symm)

theorem orders_byNumber (t : Tally α) : t.Orders (byNumber t.entries) where
  perm := perm_byNumber t.entries
  falling := pairwise_byNumber t.entries
  stable := by
    refine t.holds_keys.pairwise_precedes.imp ?_
    rintro a b (fewer | ⟨_, first⟩) same
    · omega
    · exact first

theorem entries_ofEntries_rank (t : Tally α) (limit : Int) :
    (ofEntries (rank t.entries limit)).entries = rank t.entries limit := by
  apply entries_ofEntries
  have distinct : ((byNumber t.entries).map (·.1)).Nodup :=
    ((perm_byNumber t.entries).map _).nodup_iff.mpr t.distinct
  exact distinct.sublist ((cut_prefix_self limit _).sublist.map _)

theorem rank_rank (t : Tally α) {limit again : Int}
    (room : (rank t.entries limit).length ≤ again) :
    rank (ofEntries (rank t.entries limit)).entries again = rank t.entries limit := by
  rw [entries_ofEntries_rank, rank, byNumber_of_pairwise (pairwise_rank t.entries limit),
    cut_of_length_le room]

end Tally

/-- A ranking is the top of the one order of its tally: the greatest numbers first, equal ones as they
    were put in. So nothing that is left out exceeds what is kept, wider limits keep more of the same,
    and a ranking that is ranked again, with room for all of it, stays as it is. -/
theorem rank_is_stable_top (t : Tally α) (limit : Int) :
    ∃ whole, (∀ others, t.Orders others ↔ others = whole) ∧
      rank t.entries limit = (if 0 < limit then whole.take limit.toNat else whole) ∧
      (∀ kept ∈ rank t.entries limit, ∀ omitted ∈ t.entries,
        omitted ∉ rank t.entries limit → omitted.2 ≤ kept.2) ∧
      (∀ wider, 0 < limit → limit ≤ wider ∨ wider = 0 →
        rank t.entries limit <+: rank t.entries wider) ∧
      ∀ again : Int, (rank t.entries limit).length ≤ again →
        rank (Tally.ofEntries (rank t.entries limit)).entries again = rank t.entries limit := by
  have orders := t.orders_byNumber
  refine ⟨byNumber t.entries, ?_, rfl, ?_, ?_, ?_⟩
  · intro others
    constructor
    · intro also
      exact also.unique orders
    · rintro rfl
      exact orders
  · intro kept inside omitted listed outside
    have found := orders.perm.mem_iff.mpr listed
    exact le_of_mem_cut orders.falling inside found outside
  · intro wider some more
    exact cut_prefix_cut some more
  · intro again room
    exact t.rank_rank room

end SourceCensus
