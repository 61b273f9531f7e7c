import Mathlib
import SourceCensus.Files.Walk
import SourceCensus.Proofs.Files.Sought

/-! What a walk lists. Whether one path is taken is told first, then what one folder holds and what is
   met in the folders below it; the whole walk is the list of what is asked for. -/
namespace SourceCensus.Files

section listing
variable {entries : List (String × Tree)}

theorem perm_sortedByName (entries : List (String × Tree)) :
    (sortedByName entries).Perm entries := List.mergeSort_perm _ _

theorem pairwise_sortedByName (distinct : (entries.map Prod.fst).Nodup) :
    (sortedByName entries).Pairwise fun a b => a.1 < b.1 := by
  have sorted : (sortedByName entries).Pairwise fun a b => decide (a.1 ≤ b.1) = true := by
    refine List.pairwise_mergeSort ?_ ?_ entries
    · intro a b c first second
      rw [decide_eq_true_eq] at *
      exact String.le_trans first second
    · intro a b
      rw [Bool.or_eq_true, decide_eq_true_eq, decide_eq_true_eq]
      exact String.le_total a.1 b.1
  have apart : (sortedByName entries).Pairwise fun a b => a.1 ≠ b.1 := by
    rw [← List.pairwise_map]
    exact ((perm_sortedByName entries).map Prod.fst).nodup_iff.mpr distinct
  refine (sorted.and apart).imp ?_
  rintro a b ⟨most, other⟩
  rw [decide_eq_true_eq] at most
  refine String.not_le.mp fun least => other (String.le_antisymm most least)

end listing

section walk
variable {d : Disk} {w : Wanted} {root : Path} {top : List (String × Tree)} {patterns : List String}

theorem patternsOf_list (patterns : List String) :
    patternsOf (.list (patterns.map .text)) = .ok (patterns.map .text) := by
  cases patterns <;> rfl

theorem isExcluded_patterns (path : Path) 
    (parted : ∀ pattern ∈ patterns, (Path.ofString pattern).parts ≠ []) :
    isExcluded path (patterns.map .text) =
      .ok (patterns.any fun pattern => path.matchesPath (Path.ofString pattern)) := by
  induction patterns with
  | nil => rfl
  | cons pattern rest ih =>
    obtain ⟨here, parted⟩ := List.forall_mem_cons.mp parted
    have glob : globOf (.text pattern) = .ok (Path.ofString pattern) := by
      simp [globOf, here]
    rw [List.map_cons, isExcluded, glob, List.any_cons]
    simp only [bind, Except.bind]
    cases path.matchesPath (Path.ofString pattern) with
    | true => rfl
    | false => exact ih parted

theorem isFile?_of_find (path : String) (short : d.find path ≠ .error .nameTooLong) :
    ∃ found, d.isFile? path = .ok found ∧
      (found = true ↔ ∃ bytes, d.find path = .ok (.file bytes)) := by
  rw [Disk.isFile?, Disk.look]
  cases looked : d.find path with
  | ok t => cases t <;> simp [Except.map, Tree.isFile]
  | error refusal => cases refusal <;> simp_all [Except.map]

theorem suffix_beneath {names : List String} (nonempty : names ≠ []) :
    (root.beneath names).suffix = (Path.mk "" names).suffix := by
  simp [Path.suffix, Path.name, Path.beneath, List.getLast?_append, List.getLast?_eq_some_getLast nonempty]

/-- The settings of a walk that leaves out what a list of patterns matches, none of them empty, and goes
   into no links. -/
structure Wanted.Plain (w : Wanted) (patterns : List String) : Prop where
  exclude : w.exclude = .list (patterns.map .text)
  parted : ∀ pattern ∈ patterns, (Path.ofString pattern).parts ≠ []
  unfollowed : w.followLinks = false

theorem isWanted_beneath (plain : w.Plain patterns) {names : List String} (nonempty : names ≠ [])
    (short : (Path.mk "" names).suffix = w.suffix →
      (∀ pattern ∈ patterns, (Path.mk "" names).matchesPath (Path.ofString pattern) = false) →
      d.find (root.beneath names).toString ≠ .error .nameTooLong) :
    ∃ taken, d.isWanted w root (root.beneath names) = .ok taken ∧ (taken = true ↔
      (Path.mk "" names).suffix = w.suffix ∧
      (∀ pattern ∈ patterns, (Path.mk "" names).matchesPath (Path.ofString pattern) = false) ∧
      ∃ bytes, d.find (root.beneath names).toString = .ok (.file bytes)) := by
  have below : (root.beneath names).below root = ⟨"", names⟩ := by
    simp [Path.below, Path.beneath]
  have excluded : isExcludedBy ⟨"", names⟩ w.exclude = .ok (patterns.any fun pattern =>
      (Path.mk "" names).matchesPath (Path.ofString pattern)) := by
    rw [isExcludedBy, plain.exclude, patternsOf_list]
    exact isExcluded_patterns _ plain.parted
  have kept : (∀ pattern ∈ patterns, (Path.mk "" names).matchesPath (Path.ofString pattern) = false) ↔
      (patterns.any fun pattern => (Path.mk "" names).matchesPath (Path.ofString pattern)) = false := by
    simp
  rw [Disk.isWanted, suffix_beneath nonempty, below, excluded]
  rw [kept] at short ⊢
  simp only [bind, Except.bind]
  by_cases same : (Path.mk "" names).suffix = w.suffix
  · cases none : patterns.any fun pattern =>
        (Path.mk "" names).matchesPath (Path.ofString pattern) with
    | true => exact ⟨false, by simp [same]; rfl, by simp⟩
    | false =>
      obtain ⟨found, looked, file⟩ := isFile?_of_find _ (short same none)
      exact ⟨found, by simp [same, looked], by simp [same, file]⟩
  · exact ⟨false, by simp [same]; rfl, by simp [same]⟩

theorem mem_wantedAmong {paths : List Path} {result : Except Fault Path}
    (decided : ∀ path ∈ paths, ∃ taken, d.isWanted w root path = .ok taken) :
    result ∈ d.wantedAmong w root paths ↔
      ∃ path ∈ paths, d.isWanted w root path = .ok true ∧ result = .ok path := by
  rw [Disk.wantedAmong, List.mem_filterMap]
  refine exists_congr fun path => and_congr_right fun member => ?_
  obtain ⟨taken, decided⟩ := decided path member
  rw [decided]
  cases taken <;> simp [eq_comm]

theorem pairwise_wantedAmong {paths : List Path} {before : Except Fault Path → Except Fault Path → Prop}
    (decided : ∀ path ∈ paths, ∃ taken, d.isWanted w root path = .ok taken)
    (order : paths.Pairwise fun p q => before (.ok p) (.ok q)) :
    (d.wantedAmong w root paths).Pairwise before := by
  rw [Disk.wantedAmong, List.pairwise_filterMap]
  refine order.imp_of_mem ?_
  intro p q first second ahead x taken y kept
  obtain ⟨one, decidedFirst⟩ := decided p first
  obtain ⟨two, decidedSecond⟩ := decided q second
  rw [decidedFirst] at taken
  rw [decidedSecond] at kept
  cases one <;> cases two <;> cases taken <;> cases kept
  exact ahead

structure Reaches (d : Disk) (root : Path) (top : List (String × Tree)) (above : List String)
    (entries : List (String × Tree)) : Prop where
  held : (Tree.folder top).at? above = some (.folder entries)
  found : d.find (root.beneath above).toString = .ok (.folder entries)
  clean : (root.beneath above).Clean
  distinct : (entries.map Prod.fst).Nodup
  named : ∀ entry ∈ entries, IsEntryName entry.1
  below : ∀ entry ∈ entries, entry.2.Proper

def Disk.othersIn (d : Disk) (current : Path) (entries : List (String × Tree)) :
    List (String × Tree) :=
  (sortedByName entries).filter fun entry => !d.leadsToFolder (current.child entry.1) entry.2

def enteredFrom (entries : List (String × Tree)) : List (String × Tree) :=
  (sortedByName entries).filter fun entry => !entry.2.isFile && !entry.2.isLink

theorem mem_enteredFrom {entries : List (String × Tree)} {entry : String × Tree} :
    entry ∈ enteredFrom entries ↔ entry ∈ entries ∧ ∃ inner, entry.2 = .folder inner := by
  rw [enteredFrom, List.mem_filter, (perm_sortedByName entries).mem_iff]
  refine and_congr_right fun _ => ?_
  cases entry.2 <;> simp [Tree.isFile, Tree.isLink]

theorem leaf_of_notFolder {path : Path} {t : Tree} (notFolder : d.leadsToFolder path t = false) :
    t.isFile ∨ t.isLink := by
  cases t with
  | file bytes => exact .inl rfl
  | link target => exact .inr rfl
  | folder entries => cases notFolder

theorem length_beneath_snoc (root : Path) (above : List String) (name : String) :
    (root.beneath (above ++ [name])).names.length = (root.beneath above).names.length + 1 := by
  simp [Path.beneath, Nat.add_assoc]

theorem mem_othersIn {current : Path} {entries : List (String × Tree)} {entry : String × Tree} :
    entry ∈ d.othersIn current entries ↔
      entry ∈ entries ∧ d.leadsToFolder (current.child entry.1) entry.2 = false := by
  rw [Disk.othersIn, List.mem_filter, (perm_sortedByName entries).mem_iff, Bool.not_eq_true']

theorem walkFrom_succ (plain : w.Plain patterns) {depth : Nat} {current : Path}
    {entries : List (String × Tree)} (found : d.find current.toString = .ok (.folder entries)) :
    d.walkFrom w root (depth + 1) current =
      d.wantedAmong w root ((d.othersIn current entries).map fun entry => current.child entry.1) ++
        (enteredFrom entries).flatMap fun entry => d.walkFrom w root depth (current.child entry.1) := by
  rw [Disk.walkFrom, found]
  have entered (entry : String × Tree) :
      (d.leadsToFolder (current.child entry.1) entry.2 && (w.followLinks || !entry.2.isLink)) =
        (!entry.2.isFile && !entry.2.isLink) := by
    rw [plain.unfollowed]
    cases entry.2 <;> simp [Disk.leadsToFolder, Tree.isFile, Tree.isLink]
  simp only [entered]
  rfl

namespace Reaches
variable {above : List String} {entries : List (String × Tree)}
  (reached : Reaches d root top above entries)
include reached

theorem held_below (rest : List String) :
    (Tree.folder top).at? (above ++ rest) = (Tree.folder entries).at? rest := by
  rw [Tree.at?_append, reached.held, Option.bind_some]

theorem held_child (name : String) :
    (Tree.folder top).at? (above ++ [name]) = entries.lookup name :=
  Tree.at?_child reached.held name

theorem held_of_mem {entry : String × Tree} (member : entry ∈ entries) :
    (Tree.folder top).at? (above ++ [entry.1]) = some entry.2 := by
  rw [reached.held_child, lookup_of_mem reached.distinct member]

theorem sought_ne_nil {suffix : String} {rest : List String}
    (sought : Sought d root top suffix patterns (above ++ rest)) : rest ≠ [] := by
  rintro rfl
  obtain ⟨t, held, kind⟩ := sought.held
  rw [List.append_nil, reached.held] at held
  cases held
  simp [Tree.isFile, Tree.isLink] at kind

theorem find_child {entry : String × Tree} (member : entry ∈ entries)
    (notLink : entry.2.isLink = false) :
    d.find (root.beneath (above ++ [entry.1])).toString = .ok entry.2 ∨
      d.find (root.beneath (above ++ [entry.1])).toString = .error .nameTooLong := by
  rw [← Path.child_beneath]
  exact Disk.find_child reached.clean reached.found (reached.named entry member)
    (lookup_of_mem reached.distinct member) notLink

theorem clean_child {entry : String × Tree} (member : entry ∈ entries) :
    (root.beneath (above ++ [entry.1])).Clean := by
  rw [← Path.child_beneath]
  exact reached.clean.child (reached.named _ member).toIsName

theorem shallow : (root.beneath above).names.length < longestPath :=
  Disk.depth_lt_of_find reached.clean reached.found

variable (reach : InReach d root top w.suffix patterns)
include reach

theorem entered {entry : String × Tree} (entered : entry ∈ enteredFrom entries) :
    (∃ inner, Reaches d root top (above ++ [entry.1]) inner) ∨
      ((∀ depth, d.walkFrom w root depth (root.beneath (above ++ [entry.1])) = []) ∧
        ∀ rest, ¬ Sought d root top w.suffix patterns (above ++ entry.1 :: rest)) := by
  -- The path of the folder may be too long. Then those of all that lies below it are so, too.
  obtain ⟨name, t⟩ := entry
  obtain ⟨member, inner, kind⟩ := mem_enteredFrom.mp entered
  cases kind
  have clean := reached.clean_child member
  have proper := reached.below _ member
  rcases reached.find_child member rfl with found | refused
  · refine .inl ⟨inner, ?_⟩
    cases proper with
    | folder distinct named below =>
      exact ⟨reached.held_of_mem member, found, clean, distinct, named, below⟩
  · refine .inr ⟨fun depth => ?_, fun rest sought => ?_⟩
    · cases depth with
      | zero => rfl
      | succ depth => rw [Disk.walkFrom, refused]
    · obtain ⟨t, held, -⟩ := sought.held
      have inside : (Tree.folder inner).at? rest = some t := by
        rw [List.append_cons, Tree.at?_append, reached.held_of_mem member] at held
        exact held
      have named : ∀ name ∈ rest, IsName name :=
        fun name among => (proper.names inside name among).toIsName
      refine sought.short reach ?_
      rw [List.append_cons]
      exact Disk.find_beneath_tooLong clean refused named

variable (plain : w.Plain patterns)
include plain

theorem decided {entry : String × Tree} (member : entry ∈ entries)
    (leaf : entry.2.isFile ∨ entry.2.isLink) :
    ∃ taken, d.isWanted w root (root.beneath (above ++ [entry.1])) = .ok taken ∧ (taken = true ↔
      (Path.mk "" (above ++ [entry.1])).suffix = w.suffix ∧
      (∀ pattern ∈ patterns,
        (Path.mk "" (above ++ [entry.1])).matchesPath (Path.ofString pattern) = false) ∧
      ∃ bytes, d.find (root.beneath (above ++ [entry.1])).toString = .ok (.file bytes)) :=
  isWanted_beneath plain (List.append_ne_nil_of_right_ne_nil above (List.cons_ne_nil entry.1 []))
    (reach _ _ (reached.held_of_mem member) leaf)

theorem taken_iff {entry : String × Tree} (member : entry ∈ entries) :
    d.leadsToFolder (root.beneath (above ++ [entry.1])) entry.2 = false ∧
        d.isWanted w root (root.beneath (above ++ [entry.1])) = .ok true ↔
      Sought d root top w.suffix patterns (above ++ [entry.1]) := by
  have held := reached.held_of_mem member
  obtain ⟨name, t⟩ := entry
  cases t with
  | file bytes =>
    obtain ⟨taken, decided, told⟩ := reached.decided reach plain member (.inl rfl)
    rw [decided, Except.ok.injEq, told]
    constructor
    · rintro ⟨-, suffix, kept, -⟩
      exact ⟨⟨_, held, Or.inl rfl⟩, suffix, kept⟩
    · intro sought
      have found := (reached.find_child member rfl).resolve_right (sought.short reach)
      exact ⟨rfl, sought.suffix, sought.kept, bytes, found⟩
  | link target =>
    obtain ⟨taken, decided, told⟩ := reached.decided reach plain member (.inr rfl)
    rw [decided, Except.ok.injEq, told]
    constructor
    · rintro ⟨-, suffix, kept, file⟩
      exact ⟨⟨_, held, Or.inr ⟨rfl, file⟩⟩, suffix, kept⟩
    · rintro ⟨⟨t, there, kind⟩, suffix, kept⟩
      cases held.symm.trans there
      obtain ⟨-, bytes, found⟩ := kind.resolve_left Bool.false_ne_true
      exact ⟨by simp [Disk.leadsToFolder, Disk.isFolder, found], suffix, kept, bytes, found⟩
  | folder inner =>
    constructor
    · rintro ⟨notFolder, -⟩
      cases notFolder
    · rintro ⟨⟨t, there, kind⟩, -, -⟩
      cases held.symm.trans there
      simp [Tree.isFile, Tree.isLink] at kind

theorem decided_others :
    ∀ path ∈ (d.othersIn (root.beneath above) entries).map fun entry =>
        (root.beneath above).child entry.1, ∃ taken, d.isWanted w root path = .ok taken := by
  intro path member
  obtain ⟨entry, listed, rfl⟩ := List.mem_map.mp member
  obtain ⟨listed, notFolder⟩ := mem_othersIn.mp listed
  obtain ⟨taken, decided, -⟩ := reached.decided reach plain listed (leaf_of_notFolder notFolder)
  rw [Path.child_beneath]
  exact ⟨taken, decided⟩

theorem mem_others {result : Except Fault Path} :
    result ∈ d.wantedAmong w root ((d.othersIn (root.beneath above) entries).map
        fun entry => (root.beneath above).child entry.1) ↔
      ∃ name, Sought d root top w.suffix patterns (above ++ [name]) ∧
        result = .ok (root.beneath (above ++ [name])) := by
  rw [mem_wantedAmong (reached.decided_others reach plain)]
  constructor
  · rintro ⟨path, member, taken, rfl⟩
    obtain ⟨entry, listed, rfl⟩ := List.mem_map.mp member
    obtain ⟨listed, notFolder⟩ := mem_othersIn.mp listed
    rw [Path.child_beneath] at taken notFolder ⊢
    exact ⟨entry.1, (reached.taken_iff reach plain listed).mp ⟨notFolder, taken⟩, rfl⟩
  · rintro ⟨name, sought, rfl⟩
    obtain ⟨t, held, -⟩ := sought.held
    rw [reached.held_child] at held
    have listed := mem_of_lookup held
    obtain ⟨notFolder, taken⟩ := (reached.taken_iff reach plain listed).mpr sought
    rw [← Path.child_beneath] at notFolder taken ⊢
    exact ⟨_, List.mem_map_of_mem (mem_othersIn.mpr ⟨listed, notFolder⟩), taken, rfl⟩

theorem mem_walkFrom {depth : Nat} (deep : longestPath ≤ depth + (root.beneath above).names.length)
    {result : Except Fault Path} :
    result ∈ d.walkFrom w root depth (root.beneath above) ↔
      ∃ rest, Sought d root top w.suffix patterns (above ++ rest) ∧
        result = .ok (root.beneath (above ++ rest)) := by
  -- By induction on the depth: what a walk lists from a folder on is what is asked for below it.
  induction depth generalizing above entries with
  | zero =>
    have shallow := reached.shallow
    omega
  | succ depth ih =>
    have inner {entry : String × Tree} (entered : entry ∈ enteredFrom entries) :
        result ∈ d.walkFrom w root depth ((root.beneath above).child entry.1) ↔
          ∃ rest, Sought d root top w.suffix patterns (above ++ entry.1 :: rest) ∧
            result = .ok (root.beneath (above ++ entry.1 :: rest)) := by
      rw [Path.child_beneath]
      rcases reached.entered reach entered with ⟨below, deeper⟩ | ⟨nothing, none⟩
      · rw [ih deeper (by rw [length_beneath_snoc]; omega)]
        simp
      · simp [nothing, none]
    rw [walkFrom_succ plain reached.found, List.mem_append, reached.mem_others reach plain,
      List.mem_flatMap]
    constructor
    · rintro (⟨name, sought, rfl⟩ | ⟨entry, entered, met⟩)
      · exact ⟨[name], sought, rfl⟩
      · obtain ⟨rest, sought, rfl⟩ := (inner entered).mp met
        exact ⟨entry.1 :: rest, sought, rfl⟩
    · rintro ⟨rest, sought, rfl⟩
      match rest with
      | [] => exact absurd rfl (reached.sought_ne_nil sought)
      | [name] => exact Or.inl ⟨name, sought, rfl⟩
      | name :: next :: more =>
        obtain ⟨t, held, -⟩ := sought.held
        rw [reached.held_below] at held
        obtain ⟨middle, listed, deeper⟩ := Option.bind_eq_some_iff.mp held
        -- Something is below the middle one, so it is a folder.
        cases middle with
        | file | link => cases deeper
        | folder below =>
          have entered := mem_enteredFrom.mpr ⟨mem_of_lookup listed, below, rfl⟩
          exact Or.inr ⟨_, entered, (inner entered).mpr ⟨next :: more, sought, rfl⟩⟩

theorem pairwise_walkFrom {depth : Nat}
    (deep : longestPath ≤ depth + (root.beneath above).names.length) :
    (d.walkFrom w root depth (root.beneath above)).Pairwise fun x y =>
      ∃ a b, x = .ok (root.beneath a) ∧ y = .ok (root.beneath b) ∧ VisitedBefore a b := by
  induction depth generalizing above entries with
  | zero =>
    have shallow := reached.shallow
    omega
  | succ depth ih =>
    have listed := pairwise_sortedByName reached.distinct
    have deeper (name : String) :
        longestPath ≤ depth + (root.beneath (above ++ [name])).names.length := by
      rw [length_beneath_snoc]
      omega
    have below {entry : String × Tree} (entered : entry ∈ enteredFrom entries)
        {result : Except Fault Path}
        (met : result ∈ d.walkFrom w root depth ((root.beneath above).child entry.1)) :
        ∃ next more, result = .ok (root.beneath (above ++ entry.1 :: next :: more)) := by
      rw [Path.child_beneath] at met
      rcases reached.entered reach entered with ⟨below, inside⟩ | ⟨nothing, -⟩
      · rw [inside.mem_walkFrom reach plain (deeper _)] at met
        obtain ⟨rest, sought, rfl⟩ := met
        obtain ⟨next, more, rfl⟩ := List.exists_cons_of_ne_nil (inside.sought_ne_nil sought)
        exact ⟨next, more, by simp⟩
      · rw [nothing] at met
        cases met
    rw [walkFrom_succ plain reached.found, List.pairwise_append, List.pairwise_flatMap]
    refine ⟨?files, ⟨?inside, ?across⟩, ?filesFirst⟩
    case files =>
      refine pairwise_wantedAmong (reached.decided_others reach plain) ?_
      rw [List.pairwise_map]
      refine (listed.filter _).imp ?_
      intro a b less
      rw [Path.child_beneath, Path.child_beneath]
      exact ⟨_, _, rfl, rfl, (VisitedBefore.files less).above above⟩
    case inside =>
      intro entry entered
      rw [Path.child_beneath]
      rcases reached.entered reach entered with ⟨below, inside⟩ | ⟨nothing, -⟩
      · exact ih inside (deeper _)
      · rw [nothing]
        exact List.Pairwise.nil
    case across =>
      refine List.Pairwise.imp_of_mem ?_ (listed.filter _)
      intro a b first second less x inFirst y inSecond
      obtain ⟨_, _, rfl⟩ := below first inFirst
      obtain ⟨_, _, rfl⟩ := below second inSecond
      exact ⟨_, _, rfl, rfl, (VisitedBefore.folders less).above above⟩
    case filesFirst =>
      intro x taken y met
      obtain ⟨name, -, rfl⟩ := (reached.mem_others reach plain).mp taken
      obtain ⟨entry, entered, met⟩ := List.mem_flatMap.mp met
      obtain ⟨_, _, rfl⟩ := below entered met
      exact ⟨_, _, rfl, rfl, VisitedBefore.fileFirst.above above⟩

end Reaches

theorem walkFrom_succ_of_deep (proper : d.tree.Proper) {depth : Nat} {current : Path}
    (clean : current.Clean) (deep : longestPath ≤ depth + current.names.length) :
    d.walkFrom w root (depth + 1) current = d.walkFrom w root depth current := by
  -- By induction on the depth: where it reaches as far as paths can be long, one level more finds
  -- nothing more, links that lead back up included.
  induction depth generalizing current with
  | zero =>
    rw [Disk.walkFrom, Disk.walkFrom]
    split
    · have shallow := Disk.depth_lt_of_find clean ‹_›
      omega
    · rfl
  | succ depth ih =>
    rw [Disk.walkFrom, Disk.walkFrom]
    split
    · rename_i entries found
      obtain ⟨place, -, there⟩ := Disk.find_eq_ok found
      have named : ∀ entry ∈ entries, IsEntryName entry.1 := by
        cases proper.at? there with
        | folder distinct named below => exact named
      refine congrArg _ (List.flatMap_congr fun entry among => ih (clean.child ?_) ?_)
      · have listed := (perm_sortedByName entries).mem_iff.mp (List.mem_of_mem_filter among)
        exact (named entry listed).toIsName
      · rw [Path.child, List.length_append, List.length_singleton]
        omega
    · rfl

theorem walkFrom_of_longestPath_le (proper : d.tree.Proper) (clean : root.Clean) {depth : Nat}
    (deep : longestPath ≤ depth) :
    d.walkFrom w root depth root = d.walkFrom w root longestPath root := by
  induction depth, deep using Nat.le_induction with
  | base => rfl
  | succ depth deep ih =>
    rw [walkFrom_succ_of_deep proper clean (Nat.le_add_right_of_le deep), ih]

theorem walk_eq_walkFrom (found : d.find root.toString = .ok (.folder top)) :
    d.walk w root = d.walkFrom w root longestPath (root.beneath []) := by
  rw [Disk.walk, Disk.listingRefusal?, found, Path.beneath_nil]

theorem walk_lists (proper : d.tree.Proper) (clean : root.Clean)
    (found : d.find root.toString = .ok (.folder top)) (plain : w.Plain patterns)
    (reach : InReach d root top w.suffix patterns) :
    ∃ paths, Lists d root top w.suffix patterns paths ∧ d.walk w root = paths.map .ok := by
  obtain ⟨place, -, there⟩ := Disk.find_eq_ok found
  have deep : longestPath ≤ longestPath + (root.beneath []).names.length := Nat.le_add_right _ _
  have reached : Reaches d root top [] top := by
    rw [← root.beneath_nil] at found clean
    cases proper.at? there with
    | folder distinct named below => exact ⟨rfl, found, clean, distinct, named, below⟩
  have whole := walk_eq_walkFrom (w := w) found
  have met (result : Except Fault Path) : result ∈ d.walk w root ↔
      ∃ names, Sought d root top w.suffix patterns names ∧ result = .ok (root.beneath names) := by
    rw [whole]
    exact reached.mem_walkFrom reach plain deep
  have order := reached.pairwise_walkFrom reach plain deep
  obtain ⟨paths, listed⟩ : ∃ paths : List Path, d.walk w root = paths.map .ok := by
    refine exists_map_ok fun result member => ?_
    obtain ⟨names, -, rfl⟩ := (met result).mp member
    exact ⟨_, rfl⟩
  rw [← whole, listed, List.pairwise_map] at order
  have before : paths.Pairwise fun p q =>
      ∃ a b, p = root.beneath a ∧ q = root.beneath b ∧ VisitedBefore a b := by
    simpa only [Except.ok.injEq] using order
  refine ⟨paths, ⟨?_, ?_, before⟩, listed⟩
  · intro path
    have member := met (.ok path)
    rw [listed] at member
    simpa using member
  · refine before.imp ?_
    rintro _ _ ⟨a, b, rfl, same, ahead⟩ rfl
    exact VisitedBefore.irrefl b (root.beneath_injective same ▸ ahead)

/-- A walk that goes into no links lists each path that is asked for once, and in order, whatever the
    order in which folders list their entries. -/
theorem walk_lists_sought (proper : d.tree.Proper) (clean : root.Clean)
    (found : d.find root.toString = .ok (.folder top)) (plain : w.Plain patterns)
    (reach : InReach d root top w.suffix patterns) :
    ∃ paths, Lists d root top w.suffix patterns paths ∧ d.walk w root = paths.map .ok ∧
      ∀ tree, d.tree.Reorders tree → (d.relisted tree).walk w root = paths.map .ok := by
  obtain ⟨paths, lists, walked⟩ := walk_lists proper clean found plain reach
  refine ⟨paths, lists, walked, ?_⟩
  intro tree same
  obtain ⟨_, there, tops⟩ := Disk.find_relisted_ok same found
  cases tops with
  | @folder _ others names below =>
    have tops := Tree.Reorders.folder names below
    obtain ⟨relisted, lists', walked'⟩ :=
      walk_lists (same.proper proper) clean there plain (reach.relisted same tops)
    rw [walked', (lists.relisted same tops).unique lists']

end walk

def codeFiles : Wanted := ⟨".c", .list [], false⟩

theorem plain_codeFiles : codeFiles.Plain [] := ⟨rfl, by simp, rfl⟩

def linkedFile : Disk := ⟨.folder [("b.c", .file []), ("a.c", .link "b.c")], [], []⟩

theorem at?_linkedFile {name : String} {rest : List String} {t : Tree}
    (held : linkedFile.tree.at? (name :: rest) = some t) :
    (name = "a.c" ∨ name = "b.c") ∧ rest = [] := by
  obtain ⟨inner, listed, deeper⟩ := Option.bind_eq_some_iff.mp held
  have member : (name, inner) ∈ linkedFile.tree.entries := mem_of_lookup listed
  simp only [linkedFile, Tree.entries, List.mem_cons, Prod.mk.injEq] at member
  rcases member with ⟨rfl, rfl⟩ | ⟨rfl, rfl⟩ | none
  · cases rest with
    | nil => exact ⟨Or.inr rfl, rfl⟩
    | cons next more => cases deeper
  · cases rest with
    | nil => exact ⟨Or.inl rfl, rfl⟩
    | cons next more => cases deeper
  · cases none

theorem walk_lists_sought_linkedFile :
    ∃ paths, Lists linkedFile (Path.ofString ".") linkedFile.tree.entries ".c" [] paths ∧
      linkedFile.walk codeFiles (Path.ofString ".") = paths.map .ok ∧
      ∀ tree, linkedFile.tree.Reorders tree →
        (linkedFile.relisted tree).walk codeFiles (Path.ofString ".") = paths.map .ok := by
  have top : linkedFile.find "." = .ok linkedFile.tree := by cbv
  have first : linkedFile.find "a.c" = .ok (.file []) := by cbv
  have second : linkedFile.find "b.c" = .ok (.file []) := by cbv
  have proper : linkedFile.tree.Proper :=
    .folder (by decide) (by decide) (by simp [Tree.Proper.file, Tree.Proper.link])
  refine walk_lists_sought proper (Path.clean_ofString ".") top plain_codeFiles ?_
  intro names t held _ _ _ refused
  cases names with
  | nil => cases top.symm.trans refused
  | cons name rest =>
    obtain ⟨rfl | rfl, rfl⟩ := at?_linkedFile held
    · cases first.symm.trans refused
    · cases second.symm.trans refused

def lettered (n : Nat) : String := String.ofList (List.replicate n 'x')

theorem noSlash_lettered (n : Nat) : '/' ∉ (lettered n).toList := by
  rw [lettered, String.toList_ofList]
  intro member
  cases List.eq_of_mem_replicate member

theorem utf8ByteSize_lettered (n : Nat) : (lettered n).utf8ByteSize = n := by
  rw [lettered]
  induction n with
  | zero => rfl
  | succ n ih =>
    rw [List.replicate_succ', String.ofList_append, String.utf8ByteSize_append, ih]
    rfl

def linkBetween (target : String) : Disk :=
  ⟨.folder [("a.c", .file []), ("b.c", .link target), ("c.c", .file [])], [], []⟩

theorem find_linkBetween (target : String) :
    (linkBetween target).find "." = .ok (linkBetween target).tree := by
  cbv

theorem find_overlongLink {target : String} (plain : '/' ∉ target.toList)
    (long : longestName < target.utf8ByteSize) :
    (linkBetween target).find "b.c" = .error .nameTooLong := by
  have top : (linkBetween target).tree.at? [] = some (linkBetween target).tree := rfl
  have nonempty : target ≠ "" := by
    rintro rfl
    cases long
  have start : startOf [] target = [] := ite_self []
  have followed : descend (linkBetween target).tree mostLinks true [] ["b.c"] = _ :=
    descend_link top (by decide) (by decide) rfl nonempty
  rw [stepsOf_of_noSlash plain, start, descend_tooLong top long []] at followed
  refine Disk.find_of_refusal ?_
  have short : ¬ longestPath ≤ "b.c".utf8ByteSize := by decide
  rw [Disk.locate, if_neg (by decide), if_neg short, stepsOf_of_noSlash (by decide)]
  exact followed

theorem mem_walk_overlongLink {target : String} (plain : '/' ∉ target.toList)
    (long : longestName < target.utf8ByteSize) :
    .error (.refused .nameTooLong "b.c") ∈
      (linkBetween target).walk codeFiles (Path.ofString ".") := by
  have refused := find_overlongLink plain long
  have top : (linkBetween target).find (Path.ofString ".").toString = _ := find_linkBetween target
  have notFolder : (linkBetween target).isFolder "b.c" = false := by
    rw [Disk.isFolder, refused]
  have wanted : (linkBetween target).isWanted codeFiles (Path.ofString ".") ⟨"", ["b.c"]⟩ =
      .error (.refused .nameTooLong "b.c") := by
    have looked : (linkBetween target).isFile? "b.c" = .error (.refused .nameTooLong "b.c") := by
      rw [Disk.isFile?, Disk.look, refused]
      rfl
    rw [Disk.isWanted, if_neg (by decide)]
    exact looked
  have other : ("b.c", Tree.link target) ∈
      (linkBetween target).othersIn (Path.ofString ".") (linkBetween target).tree.entries :=
    mem_othersIn.mpr ⟨by simp [linkBetween, Tree.entries], notFolder⟩
  rw [Disk.walk, Disk.listingRefusal?, top]
  refine (walkFrom_succ plain_codeFiles top).symm ▸ List.mem_append_left _ ?_
  refine List.mem_filterMap.mpr ⟨_, List.mem_map_of_mem other, ?_⟩
  have same : (Path.ofString ".").child "b.c" = ⟨"", ["b.c"]⟩ := by decide
  rw [same, wanted]

/-- Two files are asked for, but no list of files is what the walk gives. -/
theorem walk_linkBetween_overlong :
    (linkBetween (lettered 300)).tree.Proper ∧
      (linkBetween (lettered 300)).find "." = .ok (linkBetween (lettered 300)).tree ∧
      codeFiles.Plain [] ∧
      ¬ ∃ paths : List Path,
        (linkBetween (lettered 300)).walk codeFiles (Path.ofString ".") = paths.map .ok := by
  have long : longestName < (lettered 300).utf8ByteSize := by
    rw [utf8ByteSize_lettered]
    decide
  refine ⟨.folder (by decide) (by decide) (by simp [Tree.Proper.file, Tree.Proper.link]),
    find_linkBetween _, plain_codeFiles, ?_⟩
  rintro ⟨paths, listed⟩
  have met := mem_walk_overlongLink (noSlash_lettered 300) long
  rw [listed] at met
  simp at met

end SourceCensus.Files
