import SourceCensus.Files.Exclusion
import SourceCensus.Proofs.Files.Reorder

/-! What a walk is asked for: which names below a root, and in which order. The order is strict, so there
   is at most one list of them, and it is the same however folders list their entries. -/
namespace SourceCensus.Files

/-- How the names below a root are visited: the files of a folder by name, then what is below its
   folders, also by name. -/
inductive VisitedBefore : List String → List String → Prop
  | files {a b : String} (less : a < b) : VisitedBefore [a] [b]
  | fileFirst {a b c : String} {rest : List String} : VisitedBefore [a] (b :: c :: rest)
  | folders {a b c d : String} {rest others : List String} (less : a < b) :
      VisitedBefore (a :: c :: rest) (b :: d :: others)
  | within {a : String} {rest others : List String} (inner : VisitedBefore rest others) :
      VisitedBefore (a :: rest) (a :: others)

namespace VisitedBefore
variable {x y : List String}

theorem above (before : VisitedBefore x y) (names : List String) :
    VisitedBefore (names ++ x) (names ++ y) := by
  induction names with
  | nil => exact before
  | cons name names ih => exact .within ih

theorem asymm (before : VisitedBefore x y) : ¬ VisitedBefore y x := by
  induction before with
  | files less =>
    intro behind
    cases behind with
    | files more => exact String.lt_asymm less more
    | within inner => cases inner
  | fileFirst =>
    intro behind
    cases behind with
    | within inner => cases inner
  | folders less =>
    intro behind
    cases behind with
    | folders more => exact String.lt_asymm less more
    | within inner => exact String.lt_irrefl _ less
  | within inner ih =>
    intro behind
    cases behind with
    | files less => exact String.lt_irrefl _ less
    | folders less => exact String.lt_irrefl _ less
    | fileFirst => cases inner
    | within behind => exact ih behind

theorem irrefl (x : List String) : ¬ VisitedBefore x x := fun before => before.asymm before

end VisitedBefore

section
variable (d : Disk) (root : Path) (top : List (String × Tree)) (suffix : String)
  (patterns : List String)

/-- The files that are asked for: those below the root, in folders that are no links, and the links
   there that lead to a file, with the suffix and not left out. -/
structure Sought (names : List String) : Prop where
  held : ∃ t, (Tree.folder top).at? names = some t ∧
    (t.isFile ∨ t.isLink ∧ ∃ bytes, d.find (root.beneath names).toString = .ok (.file bytes))
  suffix : (Path.mk "" names).suffix = suffix
  kept : ∀ pattern ∈ patterns, (Path.mk "" names).matchesPath (Path.ofString pattern) = false

structure Lists (paths : List Path) : Prop where
  members : ∀ path, path ∈ paths ↔
    ∃ names, Sought d root top suffix patterns names ∧ path = root.beneath names
  once : paths.Nodup
  order : paths.Pairwise fun p q =>
    ∃ a b, p = root.beneath a ∧ q = root.beneath b ∧ VisitedBefore a b

/-- Of the files and links below the root that have the suffix and are not left out, none is under a path
    that is too long to be looked at, nor is what such a link holds. -/
def InReach : Prop :=
  ∀ names t, (Tree.folder top).at? names = some t → t.isFile ∨ t.isLink →
    (Path.mk "" names).suffix = suffix →
    (∀ pattern ∈ patterns, (Path.mk "" names).matchesPath (Path.ofString pattern) = false) →
    d.find (root.beneath names).toString ≠ .error .nameTooLong

end

variable {d : Disk} {root : Path} {top : List (String × Tree)} {suffix : String}
  {patterns : List String}

theorem Sought.short {names : List String} (sought : Sought d root top suffix patterns names)
    (reach : InReach d root top suffix patterns) :
    d.find (root.beneath names).toString ≠ .error .nameTooLong := by
  obtain ⟨t, held, kind⟩ := sought.held
  exact reach names t held (kind.imp_right And.left) sought.suffix sought.kept

theorem Lists.unique {paths others : List Path} (one : Lists d root top suffix patterns paths)
    (other : Lists d root top suffix patterns others) : paths = others := by
  have perm : paths.Perm others := by
    rw [List.perm_ext_iff_of_nodup one.once other.once]
    intro path
    rw [one.members, other.members]
  refine List.Perm.eq_of_pairwise ?_ one.order other.order perm
  rintro _ _ - - ⟨a, b, rfl, rfl, ahead⟩ ⟨b', a', sameB, sameA, behind⟩
  cases root.beneath_injective sameA
  cases root.beneath_injective sameB
  exact absurd behind ahead.asymm

variable {tree : Tree} {others : List (String × Tree)} (same : d.tree.Reorders tree)
  (tops : (Tree.folder top).Reorders (.folder others))
include same tops

theorem InReach.relisted (reach : InReach d root top suffix patterns) :
    InReach (d.relisted tree) root others suffix patterns := by
  intro names u held kind suffixed kept
  obtain ⟨t, there, alike⟩ := tops.symm.at?_eq_some held
  rw [alike.isFile_eq, alike.isLink_eq] at kind
  rw [ne_eq, Disk.find_relisted_eq_error_iff same]
  exact reach names t there kind suffixed kept

theorem Sought.relisted {names : List String} (sought : Sought d root top suffix patterns names) :
    Sought (d.relisted tree) root others suffix patterns names := by
  obtain ⟨⟨t, held, kind⟩, suffix, kept⟩ := sought
  obtain ⟨u, there, alike⟩ := tops.at?_eq_some held
  refine ⟨⟨u, there, ?_⟩, suffix, kept⟩
  rw [← alike.isFile_eq, ← alike.isLink_eq]
  refine kind.imp_right fun ⟨link, bytes, found⟩ => ⟨link, bytes, ?_⟩
  obtain ⟨v, looked, alike⟩ := Disk.find_relisted_ok same found
  cases alike
  exact looked

theorem Lists.relisted {paths : List Path} (lists : Lists d root top suffix patterns paths) :
    Lists (d.relisted tree) root others suffix patterns paths := by
  refine ⟨?_, lists.once, lists.order⟩
  intro path
  rw [lists.members]
  refine exists_congr fun names => and_congr_left fun _ => ⟨Sought.relisted same tops, ?_⟩
  exact Sought.relisted (d := d.relisted tree) same.symm tops.symm

end SourceCensus.Files
