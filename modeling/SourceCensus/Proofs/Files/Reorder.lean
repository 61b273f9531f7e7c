import SourceCensus.Proofs.Files.Locate

/-! Folders that list their entries in another order. Paths lead to the same places, and to the same
   things there but for the order in which folders list. -/
namespace SourceCensus.Files

/-- Trees that hold the same, listed in any order. -/
inductive Tree.Reorders : Tree → Tree → Prop
  | file (bytes : Encoding.Bytes) : Reorders (.file bytes) (.file bytes)
  | link (target : String) : Reorders (.link target) (.link target)
  | folder {entries others : List (String × Tree)}
      (names : (entries.map Prod.fst).Perm (others.map Prod.fst))
      (below : ∀ {name : String} {t u : Tree}, entries.lookup name = some t →
        others.lookup name = some u → Reorders t u) :
      Reorders (.folder entries) (.folder others)

namespace Tree.Reorders
variable {t u : Tree}

theorem symm (same : t.Reorders u) : u.Reorders t := by
  induction same with
  | file bytes => exact .file bytes
  | link target => exact .link target
  | folder names _ ih => exact .folder names.symm fun listed there => ih there listed

theorem lookup_eq_some {entries others : List (String × Tree)}
    (same : (Tree.folder entries).Reorders (.folder others)) {name : String} {inner : Tree}
    (listed : entries.lookup name = some inner) :
    ∃ other, others.lookup name = some other ∧ inner.Reorders other := by
  cases same with
  | folder names below =>
    have member : name ∈ entries.map Prod.fst := by
      rw [← lookup_isSome_iff_mem, listed]
      rfl
    have kept := (lookup_isSome_iff_mem others name).mpr (names.mem_iff.mp member)
    obtain ⟨other, there⟩ := Option.isSome_iff_exists.mp kept
    exact ⟨other, there, below listed there⟩

theorem lookup_eq_link {entries others : List (String × Tree)}
    (same : (Tree.folder entries).Reorders (.folder others)) {name target : String}
    (listed : entries.lookup name = some (.link target)) : others.lookup name = some (.link target) := by
  obtain ⟨other, there, alike⟩ := same.lookup_eq_some listed
  cases alike
  exact there

theorem lookup_eq_none {entries others : List (String × Tree)}
    (same : (Tree.folder entries).Reorders (.folder others)) {name : String}
    (missing : entries.lookup name = none) : others.lookup name = none := by
  cases there : others.lookup name with
  | none => rfl
  | some other =>
    obtain ⟨inner, listed, -⟩ := same.symm.lookup_eq_some there
    cases missing.symm.trans listed

theorem at?_eq_some (same : t.Reorders u) {place : Place} {inner : Tree}
    (found : t.at? place = some inner) :
    ∃ other, u.at? place = some other ∧ inner.Reorders other := by
  induction place generalizing t u with
  | nil =>
    cases found
    exact ⟨u, rfl, same⟩
  | cons name rest ih =>
    cases same with
    | file | link => cases found
    | folder names below =>
      obtain ⟨middle, listed, deeper⟩ := Option.bind_eq_some_iff.mp found
      obtain ⟨other, there, alike⟩ :=
        Tree.Reorders.lookup_eq_some (.folder names below) listed
      obtain ⟨end', reached, alike⟩ := ih alike deeper
      exact ⟨end', Option.bind_eq_some_iff.mpr ⟨other, there, reached⟩, alike⟩

theorem at?_eq_folder (same : t.Reorders u) {place : Place} {entries : List (String × Tree)}
    (found : t.at? place = some (.folder entries)) :
    ∃ others, u.at? place = some (.folder others) ∧
      (Tree.folder entries).Reorders (.folder others) := by
  obtain ⟨other, there, alike⟩ := same.at?_eq_some found
  cases alike with
  | folder names below => exact ⟨_, there, .folder names below⟩

theorem at?_eq_none (same : t.Reorders u) {place : Place} (missing : t.at? place = none) :
    u.at? place = none := by
  cases there : u.at? place with
  | none => rfl
  | some other =>
    obtain ⟨inner, found, -⟩ := same.symm.at?_eq_some there
    cases missing.symm.trans found

theorem proper (same : t.Reorders u) (proper : t.Proper) : u.Proper := by
  induction same with
  | file | link => exact proper
  | @folder entries others names below ih =>
    cases proper with
    | folder distinct named inner =>
      have once := names.nodup_iff.mp distinct
      have kept {entry : String × Tree} (member : entry ∈ others) :
          ∃ t, entries.lookup entry.1 = some t ∧ others.lookup entry.1 = some entry.2 := by
        have there := lookup_of_mem once member
        obtain ⟨t, listed, -⟩ := Tree.Reorders.lookup_eq_some
          (Tree.Reorders.folder names below).symm there
        exact ⟨t, listed, there⟩
      refine .folder once ?_ ?_
      · intro entry member
        obtain ⟨t, listed, -⟩ := kept member
        exact named (entry.1, t) (mem_of_lookup listed)
      · intro entry member
        obtain ⟨t, listed, there⟩ := kept member
        exact ih listed there (inner _ (mem_of_lookup listed))

theorem isFile_eq (same : t.Reorders u) : t.isFile = u.isFile := by
  cases same <;> rfl

theorem isLink_eq (same : t.Reorders u) : t.isLink = u.isLink := by
  cases same <;> rfl

theorem descend_eq (same : t.Reorders u) (links : Nat) (follow : Bool) (here : Place)
    (steps : List String) : descend u links follow here steps = descend t links follow here steps := by
  fun_induction descend t links follow here steps with
  | case1 => rw [descend]
  | case2 links here name rest entries found idle ih =>
    obtain ⟨others, found, -⟩ := same.at?_eq_folder found
    rw [descend, found, ← ih]
    simp only [idle, if_true]
  | case3 links here rest entries found _ ih =>
    obtain ⟨others, found, -⟩ := same.at?_eq_folder found
    rw [descend, found, ← ih]
    simp
  | case4 links here name rest entries found moving down long =>
    obtain ⟨others, found, -⟩ := same.at?_eq_folder found
    rw [descend, found]
    simp [moving, down, long]
  | case5 links here name rest entries found moving down short missing =>
    obtain ⟨others, found, alike⟩ := same.at?_eq_folder found
    rw [descend, found]
    simp [moving, down, short, alike.lookup_eq_none missing]
  | case6 links here name rest entries found moving down short target listed last =>
    obtain ⟨others, found, alike⟩ := same.at?_eq_folder found
    rw [descend, found]
    simp only [moving, down, short, alike.lookup_eq_link listed, last, if_true, if_false, Bool.false_eq_true]
  | case7 here name rest entries found moving down short target listed last =>
    obtain ⟨others, found, alike⟩ := same.at?_eq_folder found
    rw [descend, found]
    simp only [moving, down, short, alike.lookup_eq_link listed, last, if_false, Bool.false_eq_true]
  | case8 here name rest entries found moving down short last links listed =>
    obtain ⟨others, found, alike⟩ := same.at?_eq_folder found
    rw [descend, found]
    simp only [moving, down, short, alike.lookup_eq_link listed, last, if_true, if_false, Bool.false_eq_true]
  | case9 here name rest entries found moving down short target listed last links some ih =>
    obtain ⟨others, found, alike⟩ := same.at?_eq_folder found
    rw [descend, found, ← ih]
    simp only [moving, down, short, alike.lookup_eq_link listed, last, some, if_false, Bool.false_eq_true]
  | case10 links here name rest entries found moving down short inner notLink listed ih =>
    obtain ⟨others, found, alike⟩ := same.at?_eq_folder found
    obtain ⟨other, there, alike⟩ := alike.lookup_eq_some listed
    rw [descend, found, ← ih]
    simp only [moving, down, short, there, if_false, Bool.false_eq_true]
    cases alike with
    | link target => exact absurd rfl (notLink target)
    | file | folder => rfl
  | case11 links here name rest inner notFolder found =>
    obtain ⟨other, found, alike⟩ := same.at?_eq_some found
    rw [descend, found]
    cases alike with
    | folder => exact absurd rfl (notFolder _)
    | file | link => rfl
  | case12 links here name rest missing => rw [descend, same.at?_eq_none missing]

end Tree.Reorders

namespace Disk
variable {d : Disk} {tree : Tree}

def relisted (d : Disk) (tree : Tree) : Disk := { d with tree }

theorem locate_relisted (same : d.tree.Reorders tree) (path : String) (follow : Bool) :
    (d.relisted tree).locate path follow = d.locate path follow := by
  rw [locate, locate, relisted, same.descend_eq]

theorem find_relisted_ok (same : d.tree.Reorders tree) {path : String} {t : Tree}
    (found : d.find path = .ok t) : ∃ u, (d.relisted tree).find path = .ok u ∧ t.Reorders u := by
  obtain ⟨place, reached, there⟩ := find_eq_ok found
  obtain ⟨u, held, alike⟩ := same.at?_eq_some there
  refine ⟨u, ?_, alike⟩
  rw [find_of_place ((locate_relisted same path true).trans reached)]
  exact congrArg (Option.elim · _ _) held

theorem find_relisted_error (same : d.tree.Reorders tree) {path : String} {refusal : Refusal}
    (refused : d.find path = .error refusal) : (d.relisted tree).find path = .error refusal := by
  cases reached : d.locate path true with
  | error other =>
    rw [find_of_refusal ((locate_relisted same path true).trans reached)]
    exact (find_of_refusal reached).symm.trans refused
  | ok place =>
    rw [find_of_place reached] at refused
    rw [find_of_place ((locate_relisted same path true).trans reached)]
    cases there : d.tree.at? place with
    | some t =>
      rw [there] at refused
      cases refused
    | none =>
      rw [there] at refused
      rw [relisted, same.at?_eq_none there]
      exact refused

theorem find_relisted_eq_error_iff (same : d.tree.Reorders tree) {path : String} {refusal : Refusal} :
    (d.relisted tree).find path = .error refusal ↔ d.find path = .error refusal := by
  refine ⟨fun refused => ?_, find_relisted_error same⟩
  cases looked : d.find path with
  | ok t =>
    obtain ⟨u, there, -⟩ := find_relisted_ok same looked
    cases refused.symm.trans there
  | error other => exact (find_relisted_error same looked).symm.trans refused

end Disk

end SourceCensus.Files
