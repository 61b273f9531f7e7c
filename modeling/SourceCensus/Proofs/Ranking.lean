import SourceCensus.Proofs.Tally
import SourceCensus.Tally

/-! Rankings as an order. An entry precedes another by a greater number, or by the earlier first sight
   of its key. That order is total on the entries of a tally, so it leaves one ranking. -/
namespace SourceCensus

section
variable {α : Type} {a b : α × Int} {entries : List (α × Int)}

theorem byNumber_trans (a b c : α × Int) (first : decide (b.2 ≤ a.2) = true)
    (second : decide (c.2 ≤ b.2) = true) : decide (c.2 ≤ a.2) = true := by
  rw [decide_eq_true_eq] at *
  exact Int.le_trans second first

theorem byNumber_total (a b : α × Int) : (decide (b.2 ≤ a.2) || decide (a.2 ≤ b.2)) = true := by
  rw [Bool.or_eq_true, decide_eq_true_eq, decide_eq_true_eq]
  exact Int.le_total b.2 a.2

theorem pairwise_byNumber (entries : List (α × Int)) :
    (byNumber entries).Pairwise fun a b => b.2 ≤ a.2 := by
  have sorted := List.pairwise_mergeSort byNumber_trans byNumber_total entries
  exact sorted.imp fun ordered => of_decide_eq_true ordered

theorem filter_byNumber (entries : List (α × Int)) (n : Int) :
    ((byNumber entries).filter fun entry => entry.2 = n) = entries.filter fun entry => entry.2 = n := by
  -- The sort is stable: those of one number stay as they were, since they are in order already.
  have equal : (entries.filter fun entry => entry.2 = n).Pairwise
      fun a b => decide (b.2 ≤ a.2) = true := by
    rw [List.pairwise_iff_forall_sublist]
    intro a b ahead
    have first := List.of_mem_filter (ahead.subset List.mem_cons_self)
    have second := List.of_mem_filter (ahead.subset (List.mem_cons_of_mem a List.mem_cons_self))
    rw [decide_eq_true_eq] at *
    exact Int.le_of_eq (second.trans first.symm)
  have inside : (entries.filter fun entry => entry.2 = n).Sublist (byNumber entries) :=
    List.sublist_mergeSort byNumber_trans byNumber_total equal List.filter_sublist
  have kept := inside.filter fun entry => entry.2 = n
  simp only [List.filter_filter, Bool.and_self] at kept
  exact (kept.eq_of_length ((perm_byNumber entries).filter _).length_eq.symm).symm

theorem sublist_of_byNumber (ahead : [a, b].Sublist (byNumber entries)) (same : a.2 = b.2) :
    [a, b].Sublist entries := by
  have kept := ahead.filter fun entry => entry.2 = b.2
  rw [filter_byNumber] at kept
  have both : ([a, b].filter fun entry => entry.2 = b.2) = [a, b] := by simp [same]
  rw [both] at kept
  exact kept.trans List.filter_sublist

end

variable {α : Type} [DecidableEq α]

/-- By number, and for equal numbers by the first sight of the keys in a stream. -/
def Precedes (stream : List α) (a b : α × Int) : Prop :=
  b.2 < a.2 ∨ (a.2 = b.2 ∧ stream.idxOf a.1 < stream.idxOf b.1)

/-- The keys of a stream, each with its number, in order; only the first few if a limit above zero says
    so. -/
def Ranks (stream : List α) (value : α → Int → Prop) (limit : Int) (ranking : List (α × Int)) : Prop :=
  ∃ whole, (∀ key n, (key, n) ∈ whole ↔ key ∈ stream ∧ value key n) ∧
    whole.Pairwise (Precedes stream) ∧
    ranking = if 0 < limit then whole.take limit.toNat else whole

variable {t : Tally α} {stream : List α} {value : α → Int → Prop}

theorem Precedes.asymm {a b : α × Int} (ahead : Precedes stream a b) : ¬ Precedes stream b a := by
  unfold Precedes at *
  omega

theorem eq_of_perm_of_precedes {whole others : List (α × Int)}
    (order : whole.Pairwise (Precedes stream)) (later : others.Pairwise (Precedes stream))
    (perm : whole.Perm others) : whole = others := by
  refine List.Perm.eq_of_pairwise ?_ order later perm
  intro a b _ _ ahead behind
  exact absurd behind ahead.asymm

theorem Tally.Holds.pairwise_precedes (held : t.Holds stream value) :
    (byNumber t.entries).Pairwise (Precedes stream) := by
  rw [List.pairwise_iff_forall_sublist]
  intro a b ahead
  have order := held.order
  rw [Tally.keys, List.pairwise_map] at order
  have most := List.pairwise_iff_forall_sublist.mp (pairwise_byNumber t.entries) ahead
  rcases Int.lt_or_eq_of_le most with fewer | same
  · exact Or.inl fewer
  · have first := sublist_of_byNumber ahead same.symm
    exact Or.inr ⟨same.symm, List.pairwise_iff_forall_sublist.mp order first⟩

theorem Tally.Holds.ranks (held : t.Holds stream value) (limit : Int) :
    Ranks stream value limit (rank t.entries limit) := by
  refine ⟨byNumber t.entries, ?_, held.pairwise_precedes, rfl⟩
  intro key n
  rw [(perm_byNumber t.entries).mem_iff]
  exact held.numbers key n

theorem Ranks.unique {limit : Int} {first second : List (α × Int)}
    (one : Ranks stream value limit first) (other : Ranks stream value limit second) :
    first = second := by
  obtain ⟨whole, members, order, rfl⟩ := one
  obtain ⟨others, same, later, rfl⟩ := other
  have distinct {entries : List (α × Int)} (order : entries.Pairwise (Precedes stream)) :
      entries.Nodup := by
    refine order.imp ?_
    rintro a _ ahead rfl
    exact ahead.asymm ahead
  have perm : whole.Perm others := by
    rw [List.perm_ext_iff_of_nodup (distinct order) (distinct later)]
    rintro ⟨key, n⟩
    rw [members, same]
  rw [eq_of_perm_of_precedes order later perm]

end SourceCensus
