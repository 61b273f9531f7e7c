import Mathlib.Data.List.Basic
import Mathlib.Data.List.Nodup
import SourceCensus.Tally

/-! A tally against the stream of keys it was made from: each key of the stream once, in the order in
   which the keys came first, with the number that the stream gives it. -/
namespace SourceCensus

variable {α : Type} [DecidableEq α]

theorem mem_putEntry {entries : List (α × Int)} (distinct : (entries.map (·.1)).Nodup)
    (key : α) (value : Int) (k : α) (n : Int) :
    (k, n) ∈ putEntry key value entries ↔ if k = key then n = value else (k, n) ∈ entries := by
  induction entries with
  | nil =>
    by_cases same : k = key <;> simp [putEntry, same]
  | cons head rest ih =>
    obtain ⟨other, m⟩ := head
    rw [List.map_cons, List.nodup_cons] at distinct
    obtain ⟨absent, later⟩ := distinct
    rw [putEntry]
    by_cases here : other = key
    · have alone : (key, n) ∉ rest := by
        intro member
        have known : key ∈ rest.map (·.1) := List.mem_map_of_mem (f := (·.1)) member
        exact absent (here ▸ known)
      rw [if_pos here]
      by_cases same : k = key
      · simp [same, alone]
      · simp [same, here]
    · rw [if_neg here, List.mem_cons, ih later]
      by_cases same : k = key
      · simp [same, Ne.symm here]
      · simp [same]

theorem putEntry_of_not_mem {entries : List (α × Int)} {key : α} {value : Int}
    (fresh : key ∉ entries.map (·.1)) : putEntry key value entries = entries ++ [(key, value)] := by
  induction entries with
  | nil => rfl
  | cons head rest ih =>
    rw [List.map_cons, List.mem_cons, not_or] at fresh
    rw [putEntry, if_neg (Ne.symm fresh.1), ih fresh.2, List.cons_append]

theorem lookup_of_mem {entries : List (α × Int)} (distinct : (entries.map (·.1)).Nodup)
    {key : α} {n : Int} (member : (key, n) ∈ entries) : entries.lookup key = some n := by
  induction entries with
  | nil => cases member
  | cons head rest ih =>
    obtain ⟨other, m⟩ := head
    rw [List.map_cons, List.nodup_cons] at distinct
    rw [List.lookup_cons]
    rcases List.mem_cons.mp member with same | later
    · obtain ⟨rfl, rfl⟩ := Prod.mk.inj same
      rw [beq_self_eq_true]
    · have differ : (key == other) = false := beq_eq_false_iff_ne.mpr fun same =>
        distinct.1 (same ▸ List.mem_map_of_mem (f := (·.1)) later)
      rw [differ]
      exact ih distinct.2 later

theorem lookup_of_not_mem {entries : List (α × Int)} {key : α}
    (absent : key ∉ entries.map (·.1)) : entries.lookup key = none := by
  rw [List.lookup_eq_none_iff]
  intro entry member
  rw [bne_iff_ne]
  rintro rfl
  exact absent (List.mem_map_of_mem member)

/-- Each key as often as it occurs. -/
def Counted (stream : List α) (key : α) (n : Int) : Prop := n = stream.count key

def GivenLast (given : List (α × Int)) (key : α) (n : Int) : Prop :=
  ∃ earlier later, given = earlier ++ (key, n) :: later ∧ key ∉ later.map (·.1)

theorem counted_append (stream : List α) (key k : α) (n : Int) :
    Counted (stream ++ [key]) k n ↔
      if k = key then n = (stream.count key : Int) + 1 else Counted stream k n := by
  unfold Counted
  by_cases same : k = key
  · simp [same, List.count_append]
  · simp [same, List.count_append, Ne.symm same]

theorem givenLast_append (given : List (α × Int)) (key : α) (value : Int) (k : α) (n : Int) :
    GivenLast (given ++ [(key, value)]) k n ↔
      if k = key then n = value else GivenLast given k n := by
  constructor
  · rintro ⟨earlier, later, whole, absent⟩
    rcases List.eq_nil_or_concat' later with rfl | ⟨inner, last, rfl⟩
    · obtain ⟨rfl, entry⟩ := List.append_inj' whole rfl
      obtain ⟨rfl, rfl⟩ := Prod.mk.inj (List.cons.inj entry).1
      rw [if_pos rfl]
    · rw [← List.cons_append, ← List.append_assoc] at whole
      obtain ⟨rfl, entry⟩ := List.append_inj' whole rfl
      obtain rfl := (List.cons.inj entry).1
      simp only [List.map_append, List.mem_append, not_or, List.map_cons, List.map_nil,
        List.mem_singleton] at absent
      rw [if_neg absent.2]
      exact ⟨earlier, inner, rfl, absent.1⟩
  · intro found
    by_cases same : k = key
    · rw [if_pos same] at found
      exact ⟨given, [], by rw [same, found], List.not_mem_nil⟩
    · rw [if_neg same] at found
      obtain ⟨earlier, later, rfl, absent⟩ := found
      refine ⟨earlier, later ++ [(key, value)], by simp, ?_⟩
      simp only [List.map_append, List.mem_append, not_or, List.map_cons, List.map_nil,
        List.mem_singleton]
      exact ⟨absent, same⟩

namespace Tally

structure Holds (t : Tally α) (stream : List α) (value : α → Int → Prop) : Prop where
  keys : ∀ key, key ∈ t.keys ↔ key ∈ stream
  order : t.keys.Pairwise fun a b => stream.idxOf a < stream.idxOf b
  numbers : ∀ key n, (key, n) ∈ t.entries ↔ key ∈ stream ∧ value key n

theorem holds_empty (value : α → Int → Prop) : (empty : Tally α).Holds [] value :=
  ⟨fun _ => Iff.rfl, List.Pairwise.nil, fun _ _ => by simp [empty]⟩

variable {t : Tally α} {stream : List α} {value : α → Int → Prop}

theorem entries_put (key : α) (n : Int) : (t.put key n).entries = putEntry key n t.entries := rfl

theorem keys_put (key : α) (n : Int) :
    (t.put key n).keys = if key ∈ t.keys then t.keys else t.keys ++ [key] :=
  keys_putEntry key n t.entries

theorem Holds.put (held : t.Holds stream value) (key : α) (n : Int) {after : α → Int → Prop}
    (change : ∀ k m, after k m ↔ if k = key then m = n else value k m) :
    (t.put key n).Holds (stream ++ [key]) after := by
  have place {k : α} (member : k ∈ t.keys) :
      (stream ++ [key]).idxOf k = stream.idxOf k :=
    List.idxOf_append_of_mem ((held.keys k).mp member)
  have order : t.keys.Pairwise fun a b => (stream ++ [key]).idxOf a < (stream ++ [key]).idxOf b := by
    refine held.order.imp_of_mem ?_
    intro a b first second earlier
    rwa [place first, place second]
  refine ⟨?_, ?_, ?_⟩
  · intro k
    rw [keys_put, List.mem_append, List.mem_singleton, ← held.keys]
    split
    · rename_i known
      refine ⟨Or.inl, ?_⟩
      rintro (member | rfl)
      · exact member
      · exact known
    · rw [List.mem_append, List.mem_singleton]
  · rw [keys_put]
    split
    · exact order
    · rename_i fresh
      rw [List.pairwise_append]
      refine ⟨order, List.pairwise_singleton _ _, ?_⟩
      intro a member b last
      obtain rfl := List.mem_singleton.mp last
      have known := (held.keys a).mp member
      have new : b ∉ stream := fun inside => fresh ((held.keys b).mpr inside)
      rw [place member, List.idxOf_append_of_notMem new, List.idxOf_cons_self, Nat.add_zero]
      exact List.idxOf_lt_length_of_mem known
  · intro k m
    rw [entries_put, mem_putEntry t.distinct, change, List.mem_append, List.mem_singleton]
    by_cases same : k = key
    · simp [same]
    · simp [same, held.numbers k m]

theorem Holds.value?_eq (held : t.Holds stream (Counted stream)) (key : α) :
    t.value? key = if key ∈ stream then some (stream.count key : Int) else none := by
  by_cases occurs : key ∈ stream
  · have member := (held.numbers key (stream.count key)).mpr ⟨occurs, rfl⟩
    rw [if_pos occurs, value?, lookup_of_mem t.distinct member]
  · have absent : key ∉ t.keys := fun member => occurs ((held.keys key).mp member)
    rw [if_neg occurs, value?, lookup_of_not_mem absent]

theorem Holds.value_getD (held : t.Holds stream (Counted stream)) (key : α) :
    (t.value? key).getD 0 = stream.count key := by
  rw [held.value?_eq]
  split
  · rfl
  · rename_i absent
    rw [List.count_eq_zero_of_not_mem absent]
    rfl

theorem Holds.count (held : t.Holds stream (Counted stream)) (key : α) :
    (t.count key).Holds (stream ++ [key]) (Counted (stream ++ [key])) := by
  apply held.put
  intro k m
  rw [held.value_getD]
  exact counted_append stream key k m

theorem Holds.countAll (held : t.Holds stream (Counted stream)) (keys : List α) :
    (t.countAll keys).Holds (stream ++ keys) (Counted (stream ++ keys)) := by
  induction keys generalizing t stream with
  | nil =>
    rw [List.append_nil]
    exact held
  | cons key keys ih =>
    rw [List.append_cons]
    exact ih (held.count key)

theorem Holds.putAll {given : List (α × Int)}
    (held : t.Holds (given.map (·.1)) (GivenLast given)) (entries : List (α × Int)) :
    (t.putAll entries).Holds ((given ++ entries).map (·.1)) (GivenLast (given ++ entries)) := by
  induction entries generalizing t given with
  | nil =>
    rw [List.append_nil]
    exact held
  | cons entry entries ih =>
    obtain ⟨key, n⟩ := entry
    have next := held.put key n (givenLast_append given key n)
    rw [← List.map_singleton (f := (·.1)) (a := (key, n)), ← List.map_append] at next
    rw [List.append_cons]
    exact ih next

theorem Holds.one_le (held : t.Holds stream (Counted stream)) {key : α} {n : Int}
    (member : (key, n) ∈ t.entries) : 1 ≤ n := by
  obtain ⟨occurs, counted⟩ := (held.numbers key n).mp member
  have positive := List.count_pos_iff.mpr occurs
  rw [counted]
  omega

/-- As a mapping, a count does not depend on the order of its stream. -/
theorem Holds.value?_perm {u : Tally α} {other : List α} (held : t.Holds stream (Counted stream))
    (also : u.Holds other (Counted other)) (perm : stream.Perm other) (key : α) :
    t.value? key = u.value? key := by
  rw [held.value?_eq, also.value?_eq, perm.count_eq]
  simp only [perm.mem_iff]

theorem holds_keys (t : Tally α) : t.Holds t.keys fun key n => (key, n) ∈ t.entries := by
  refine ⟨fun key => Iff.rfl, ?_, ?_⟩
  · have distinct : t.keys.Nodup := t.distinct
    rw [List.pairwise_iff_getElem]
    intro i j before inside earlier
    rw [distinct.idxOf_getElem i before, distinct.idxOf_getElem j inside]
    exact earlier
  · intro key n
    constructor
    · intro member
      exact ⟨List.mem_map_of_mem (f := (·.1)) member, member⟩
    · exact And.right

theorem entries_putAll {entries : List (α × Int)}
    (distinct : ((t.entries ++ entries).map (·.1)).Nodup) :
    (t.putAll entries).entries = t.entries ++ entries := by
  induction entries generalizing t with
  | nil => simp [putAll]
  | cons entry entries ih =>
    obtain ⟨key, n⟩ := entry
    have fresh : key ∉ t.entries.map (·.1) := by
      rw [List.map_append, List.nodup_append] at distinct
      intro known
      exact distinct.2.2 key known key (by simp) rfl
    have put : (t.put key n).entries = t.entries ++ [(key, n)] := putEntry_of_not_mem fresh
    have later := @ih (t.put key n) (by rwa [put, List.append_assoc])
    rw [put, List.append_assoc] at later
    exact later

theorem entries_ofEntries {entries : List (α × Int)} (distinct : (entries.map (·.1)).Nodup) :
    (ofEntries entries).entries = entries :=
  entries_putAll (t := empty) distinct

end Tally

end SourceCensus
