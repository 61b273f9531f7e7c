/-! Numbers kept under keys, in the order in which the keys were first seen. Each key stands once; a
   key seen again keeps its place. A ranking has the greatest numbers first, and among equal ones
   keeps that order. -/
namespace SourceCensus

variable {α : Type}

def byNumber (entries : List (α × Int)) : List (α × Int) :=
  entries.mergeSort fun a b => decide (b.2 ≤ a.2)

def cut (limit : Int) (entries : List (α × Int)) : List (α × Int) :=
  if 0 < limit then entries.take limit.toNat else entries

def rank (entries : List (α × Int)) (limit : Int) : List (α × Int) := cut limit (byNumber entries)

theorem perm_byNumber (entries : List (α × Int)) : (byNumber entries).Perm entries :=
  List.mergeSort_perm _ _

variable [DecidableEq α]

/-- Puts a number under a key: in the place the key has, or last. -/
def putEntry (key : α) (value : Int) : List (α × Int) → List (α × Int)
  | [] => [(key, value)]
  | (k, v) :: rest => if k = key then (key, value) :: rest else (k, v) :: putEntry key value rest

theorem keys_putEntry (key : α) (value : Int) (entries : List (α × Int)) :
    (putEntry key value entries).map (·.1) =
      if key ∈ entries.map (·.1) then entries.map (·.1) else entries.map (·.1) ++ [key] := by
  induction entries with
  | nil => simp [putEntry]
  | cons head rest ih =>
    obtain ⟨k, v⟩ := head
    by_cases same : k = key
    · subst same
      simp [putEntry]
    · by_cases member : key ∈ rest.map (·.1)
      · simp_all [putEntry]
      · simp_all [putEntry, Ne.symm same]

structure Tally (α : Type) [DecidableEq α] where
  entries : List (α × Int)
  distinct : (entries.map (·.1)).Nodup

namespace Tally

def empty : Tally α := ⟨[], List.nodup_nil⟩

def size (t : Tally α) : Nat := t.entries.length

def keys (t : Tally α) : List α := t.entries.map (·.1)

def value? (t : Tally α) (key : α) : Option Int := t.entries.lookup key

def put (t : Tally α) (key : α) (value : Int) : Tally α where
  entries := putEntry key value t.entries
  distinct := by
    rw [keys_putEntry]
    split
    · exact t.distinct
    · rename_i absent
      exact List.nodup_append.mpr ⟨t.distinct, by simp, by
        intro a member b single
        simp only [List.mem_singleton] at single
        rintro rfl
        exact absent (single ▸ member)⟩

def count (t : Tally α) (key : α) : Tally α := t.put key ((t.value? key).getD 0 + 1)

def countAll (t : Tally α) (keys : List α) : Tally α := keys.foldl count t

/-- Every key with its number; the last number given for a key stays. -/
def putAll (t : Tally α) (entries : List (α × Int)) : Tally α :=
  entries.foldl (fun t entry => t.put entry.1 entry.2) t

def ofEntries (entries : List (α × Int)) : Tally α := empty.putAll entries

end Tally

end SourceCensus
