import SourceCensus.Proofs.Files.Locate

/-! Writing to a file. At a place where a file can be written, a new file takes the place of what was
   there, and whatever else holds bytes keeps them. -/
namespace SourceCensus.Files
open Encoding

namespace Tree

def bytesAt (t : Tree) (place : Place) : Bytes :=
  match t.at? place with
  | some (.file bytes) => bytes
  | _ => []

/-- A place in a folder where nothing is yet, or a file. -/
inductive Writable (t : Tree) : Place → Prop
  | entry {folder : Place} {entries : List (String × Tree)} {name : String}
      (found : t.at? folder = some (.folder entries))
      (free : ∀ inner, entries.lookup name = some inner → inner.isFile) :
      Writable t (folder ++ [name])

theorem lookup_putEntry (name key : String) (new : Tree) (entries : List (String × Tree)) :
    (putEntry name new entries).lookup key = if key = name then some new else entries.lookup key := by
  induction entries with
  | nil => by_cases same : key = name <;> simp [putEntry, same]
  | cons entry rest ih =>
    obtain ⟨k, u⟩ := entry
    rw [putEntry]
    by_cases same : key = name
    · subst same
      by_cases taken : k = key
      · simp [taken]
      · simp [taken, ih, List.lookup_cons, beq_eq_false_iff_ne.mpr (Ne.symm taken)]
    · have apart : (key == name) = false := beq_eq_false_iff_ne.mpr same
      by_cases taken : k = name
      · simp [taken, same, apart, List.lookup_cons]
      · simp [taken, same, ih, List.lookup_cons]

theorem bytesAt_cons (t : Tree) (name : String) (rest : Place) :
    t.bytesAt (name :: rest) = (t.child? name).elim [] (·.bytesAt rest) := by
  rw [bytesAt, at?]
  cases t.child? name with
  | none => rfl
  | some inner => rfl

theorem bytesAt_of_isFile {t : Tree} (file : t.isFile) {place : Place} (below : place ≠ []) :
    t.bytesAt place = [] := by
  cases place with
  | nil => exact absurd rfl below
  | cons name rest =>
    cases t with
    | file bytes => rfl
    | link | folder => cases file

section put
variable {t : Tree} {folder : Place} {entries : List (String × Tree)} {name : String}

theorem child?_put (t new : Tree) (name : String) (rest : Place) (key : String) :
    (t.put new (name :: rest)).child? key =
      if key = name then some (((t.child? name).getD (.folder [])).put new rest)
      else t.child? key := by
  rw [put]
  exact lookup_putEntry name key _ t.entries

theorem at?_put_folder (found : t.at? folder = some (.folder entries)) (new : Tree) :
    (t.put new (folder ++ [name])).at? folder = some (.folder (putEntry name new entries)) := by
  induction folder generalizing t with
  | nil =>
    cases found
    rfl
  | cons first rest ih =>
    obtain ⟨inner, listed, deeper⟩ := Option.bind_eq_some_iff.mp found
    rw [List.cons_append, at?, child?_put, if_pos rfl, listed]
    exact ih deeper

/-- A file put at a writable place holds its bytes there, and no other file changes. -/
theorem bytesAt_put {place : Place} (writable : t.Writable place) (bytes : Bytes) (other : Place) :
    (t.put (.file bytes) place).bytesAt other = if other = place then bytes else t.bytesAt other := by
  obtain @⟨folder, entries, name, found, free⟩ := writable
  induction folder generalizing t other with
  | nil =>
    cases found
    cases other with
    | nil => rfl
    | cons key rest =>
      rw [List.nil_append, bytesAt_cons, bytesAt_cons, child?_put]
      by_cases here : key = name
      · subst here
        cases rest with
        | nil => simp [put, bytesAt, at?]
        | cons =>
          -- Nothing lies below the new file, nor below the one before it.
          rw [if_pos rfl, if_neg (by simp)]
          cases listed : (Tree.folder entries).child? key with
          | none => rfl
          | some inner => exact (bytesAt_of_isFile (free inner listed) (by simp)).symm
      · simp [here]
  | cons first middle ih =>
    obtain ⟨inner, listed, deeper⟩ := Option.bind_eq_some_iff.mp found
    cases other with
    | nil =>
      cases t with
      | file | link => cases found
      | folder => rfl
    | cons key rest =>
      rw [List.cons_append, bytesAt_cons, bytesAt_cons, child?_put]
      by_cases here : key = first
      · subst here
        simpa [listed] using ih rest deeper
      · simp [here]

theorem Writable.put {place : Place} (writable : t.Writable place) (bytes : Bytes) :
    (t.put (.file bytes) place).Writable place := by
  obtain ⟨found, free⟩ := writable
  refine .entry (at?_put_folder found _) ?_
  intro inner listed
  rw [lookup_putEntry, if_pos rfl] at listed
  cases listed
  rfl

end put

end Tree

namespace Disk
variable {d : Disk} {place : Place}

theorem writable_of_writablePlace {links : Nat} {here : Place} {steps : List String}
    (chosen : d.writablePlace links here steps = .ok place) : d.tree.Writable place := by
  induction links using Nat.strongRecOn generalizing here steps with
  | _ links ih =>
    rw [writablePlace] at chosen
    obtain ⟨folder, -, chosen⟩ := bind_eq_ok chosen
    split at chosen
    · rename_i entries found
      dsimp only at chosen
      split at chosen
      · cases chosen
      split at chosen
      · cases chosen
      split at chosen
      · cases chosen
      · -- A link is followed with one link less.
        cases links with
        | zero => cases chosen
        | succ links => exact ih links (Nat.lt_succ_self links) chosen
      · rename_i noFolder noLink
        cases chosen
        refine .entry found ?_
        intro inner listed
        cases inner with
        | file => rfl
        | link target => exact absurd listed (noLink target)
        | folder inside => exact absurd listed (noFolder inside)
    · cases chosen
    · cases chosen

theorem bytesAt_append (writable : d.tree.Writable place) (text : String) (other : Place) :
    (d.append place text).tree.bytesAt other =
      d.tree.bytesAt other ++ if other = place then text.toUTF8.toList else [] := by
  refine (Tree.bytesAt_put writable _ other).trans ?_
  by_cases same : other = place
  · simp only [same, if_true]
    rfl
  · simp [same]

theorem bytesAt_touch (writable : d.tree.Writable place) (other : Place) :
    (d.touch place).tree.bytesAt other = d.tree.bytesAt other := by
  rw [touch]
  split
  · rfl
  · rename_i missing
    rw [Tree.bytesAt_put writable]
    split
    · rename_i same
      have nothing : d.tree.at? place = none := by simpa using missing
      rw [same, Tree.bytesAt, nothing]
    · rfl

theorem writable_append (writable : d.tree.Writable place) (text : String) :
    (d.append place text).tree.Writable place := writable.put _

theorem writable_touch (writable : d.tree.Writable place) :
    (d.touch place).tree.Writable place := by
  rw [touch]
  split
  · exact writable
  · exact writable.put _

end Disk

end SourceCensus.Files
