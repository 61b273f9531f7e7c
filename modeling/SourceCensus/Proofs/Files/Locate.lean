import SourceCensus.Proofs.Fault
import SourceCensus.Proofs.Files.Path

/-! Looking below a folder that was found. What a folder lists under a name is found under the path of
   the folder with that name behind it, unless that path is too long to be looked at. -/
namespace SourceCensus.Files

structure IsEntryName (name : String) : Prop extends IsName name where
  noParent : name ≠ ".."

instance (name : String) : Decidable (IsEntryName name) :=
  decidable_of_iff (name ≠ "" ∧ name ≠ "." ∧ '/' ∉ name.toList ∧ name ≠ "..")
    ⟨fun ⟨nonempty, noPoint, noSlash, noParent⟩ => ⟨⟨nonempty, noPoint, noSlash⟩, noParent⟩,
      fun ⟨⟨nonempty, noPoint, noSlash⟩, noParent⟩ => ⟨nonempty, noPoint, noSlash, noParent⟩⟩

/-- A tree whose folders list each name once, and only names that can be told apart from steps. -/
inductive Tree.Proper : Tree → Prop
  | file (bytes : Encoding.Bytes) : Proper (.file bytes)
  | link (target : String) : Proper (.link target)
  | folder {entries : List (String × Tree)} (distinct : (entries.map Prod.fst).Nodup)
      (named : ∀ entry ∈ entries, IsEntryName entry.1)
      (below : ∀ entry ∈ entries, entry.2.Proper) : Proper (.folder entries)

theorem mem_of_lookup {α β : Type} [BEq α] [LawfulBEq α] {entries : List (α × β)} {key : α}
    {value : β} (listed : entries.lookup key = some value) : (key, value) ∈ entries := by
  obtain ⟨before, behind, rfl, -⟩ := List.lookup_eq_some_iff.mp listed
  simp

theorem lookup_of_mem {entries : List (String × Tree)} (distinct : (entries.map Prod.fst).Nodup)
    {entry : String × Tree} (member : entry ∈ entries) : entries.lookup entry.1 = some entry.2 := by
  obtain ⟨before, behind, rfl⟩ := List.append_of_mem member
  refine List.lookup_eq_some_iff.mpr ⟨before, behind, rfl, ?_⟩
  intro earlier ahead
  rw [List.map_append, List.nodup_append] at distinct
  have apart := distinct.2.2 earlier.1 (List.mem_map_of_mem ahead) entry.1 (by simp)
  simpa using Ne.symm apart

theorem lookup_isSome_iff_mem (entries : List (String × Tree)) (name : String) :
    (entries.lookup name).isSome ↔ name ∈ entries.map Prod.fst := by
  simp [List.lookup_isSome_iff]

theorem Tree.at?_append (t : Tree) (a b : Place) : t.at? (a ++ b) = (t.at? a).bind (·.at? b) := by
  induction a generalizing t with
  | nil => rfl
  | cons name rest ih =>
    rw [List.cons_append, Tree.at?, Tree.at?]
    cases t.child? name with
    | none => rfl
    | some inner => exact ih inner

theorem Tree.at?_child {t : Tree} {place : Place} {entries : List (String × Tree)}
    (found : t.at? place = some (.folder entries)) (name : String) :
    t.at? (place ++ [name]) = entries.lookup name := by
  rw [at?_append, found]
  simp [Tree.at?, Tree.child?, Tree.entries]

/-- What is shown of a tree and goes on to what its folders list holds wherever one looks. -/
theorem Tree.at?_induction {P : Tree → Prop}
    (step : ∀ {entries : List (String × Tree)} {name : String} {inner : Tree},
      P (.folder entries) → entries.lookup name = some inner → P inner)
    {t inner : Tree} (whole : P t) {place : Place} (found : t.at? place = some inner) : P inner := by
  induction place generalizing t with
  | nil =>
    cases found
    exact whole
  | cons name rest ih =>
    cases t with
    | file | link => cases found
    | folder entries =>
      obtain ⟨middle, listed, deeper⟩ := Option.bind_eq_some_iff.mp found
      exact ih (step whole listed) deeper

theorem Tree.Proper.at? {t inner : Tree} (proper : t.Proper) {place : Place}
    (found : t.at? place = some inner) : inner.Proper := by
  refine Tree.at?_induction ?_ proper found
  intro entries name inner proper listed
  cases proper with
  | folder distinct named below => exact below _ (mem_of_lookup listed)

theorem Tree.Proper.names {t inner : Tree} (proper : t.Proper) {place : Place}
    (found : t.at? place = some inner) : ∀ name ∈ place, IsEntryName name := by
  induction place generalizing t with
  | nil => exact List.forall_mem_nil _
  | cons name rest ih =>
    cases proper with
    | file | link => cases found
    | folder distinct named below =>
      obtain ⟨middle, listed, deeper⟩ := Option.bind_eq_some_iff.mp found
      have member := mem_of_lookup listed
      exact List.forall_mem_cons.mpr ⟨named _ member, ih (below _ member) deeper⟩

section descend
variable {tree : Tree} {links : Nat} {follow : Bool} {here place : Place}

theorem descend_idle {entries : List (String × Tree)} (found : tree.at? here = some (.folder entries))
    {idle : List String} (still : ∀ step ∈ idle, step = "" ∨ step = ".") (rest : List String) :
    descend tree links follow here (idle ++ rest) = descend tree links follow here rest := by
  induction idle with
  | nil => rfl
  | cons step idle ih =>
    obtain ⟨stays, still⟩ := List.forall_mem_cons.mp still
    rw [List.cons_append, descend, found]
    simp only [Bool.or_eq_true, decide_eq_true_eq, stays, if_true]
    exact ih still

theorem descend_starts_at_folder {steps : List String} (nonempty : steps ≠ [])
    (reached : descend tree links follow here steps = .ok place) :
    ∃ entries, tree.at? here = some (.folder entries) := by
  cases steps with
  | nil => exact absurd rfl nonempty
  | cons step rest =>
    rw [descend] at reached
    split at reached
    · rename_i found
      exact ⟨_, found⟩
    · cases reached
    · cases reached

theorem descend_tooLong_starts_at_folder {steps : List String}
    (refused : descend tree links follow here steps = .error .nameTooLong) :
    ∃ entries, tree.at? here = some (.folder entries) := by
  cases steps with
  | nil =>
    rw [descend] at refused
    cases refused
  | cons step rest =>
    rw [descend] at refused
    split at refused
    · rename_i found
      exact ⟨_, found⟩
    · cases refused
    · cases refused

theorem descend_append {steps : List String}
    (reached : descend tree links true here steps = .ok place) :
    ∃ left, ∀ follow more, more ≠ [] →
      descend tree links follow here (steps ++ more) = descend tree left follow place more := by
  fun_induction descend tree links true here steps with
  | case1 links here =>
    cases reached
    exact ⟨links, fun _ _ _ => rfl⟩
  | case2 links here name rest entries found idle ih =>
    obtain ⟨left, same⟩ := ih reached
    refine ⟨left, fun follow more nonempty => ?_⟩
    rw [← same follow more nonempty, List.cons_append, descend]
    simp only [found, idle, if_true]
  | case3 links here rest entries found _ ih =>
    obtain ⟨left, same⟩ := ih reached
    refine ⟨left, fun follow more nonempty => ?_⟩
    rw [← same follow more nonempty, List.cons_append, descend]
    simp [found]
  -- More steps follow, so a link is followed even where it was the last step.
  | case9 here name rest entries found moving down short target listed _ links some ih =>
    obtain ⟨left, same⟩ := ih reached
    refine ⟨left, fun follow more nonempty => ?_⟩
    rw [← same follow more nonempty, List.cons_append, descend]
    simp [found, moving, down, short, listed, some, nonempty]
  | case10 links here name rest entries found moving down short t notLink listed ih =>
    obtain ⟨left, same⟩ := ih reached
    refine ⟨left, fun follow more nonempty => ?_⟩
    rw [← same follow more nonempty, List.cons_append, descend]
    simp [found, moving, down, short, listed]
  | _ => simp_all

theorem descend_append_error {steps more : List String} {refusal : Refusal} (onward : more ≠ [])
    (refused : descend tree links true here steps = .error refusal) :
    descend tree links follow here (steps ++ more) = .error refusal := by
  fun_induction descend tree links true here steps with
  | case1 => cases refused
  | case2 links here name rest entries found idle ih =>
    rw [← ih refused, List.cons_append, descend]
    simp only [found, idle, if_true]
  | case3 links here rest entries found _ ih =>
    rw [← ih refused, List.cons_append, descend]
    simp [found]
  | case5 links here name rest entries found moving down short unlisted =>
    rw [← refused, List.cons_append, descend]
    simp [found, moving, down, short, unlisted]
  | case7 here name rest entries found moving down short target listed =>
    rw [← refused, List.cons_append, descend]
    simp [found, moving, down, short, listed, onward]
  | case8 here name rest entries found moving down short _ links listed =>
    rw [← refused, List.cons_append, descend]
    simp [found, moving, down, short, listed, onward]
  | case9 here name rest entries found moving down short target listed _ links nonempty ih =>
    rw [← ih refused, List.cons_append, descend]
    simp [found, moving, down, short, listed, nonempty, onward]
  | case10 links here name rest entries found moving down short t notLink listed ih =>
    rw [← ih refused, List.cons_append, descend]
    simp [found, moving, down, short, listed]
  | _ => simp_all [descend]

theorem descend_entry {entries : List (String × Tree)}
    (found : tree.at? here = some (.folder entries)) {name : String} (named : IsEntryName name) {t : Tree}
    (listed : entries.lookup name = some t) (notLink : t.isLink = false) :
    descend tree links follow here [name] =
      if longestName < name.utf8ByteSize then .error .nameTooLong else .ok (here ++ [name]) := by
  have moving : ¬ (decide (name = "") || decide (name = ".")) = true := by
    simp [named.nonempty, named.noPoint]
  rw [descend, found]
  simp only [moving, named.noParent, listed, if_false]
  cases t with
  | link target => cases notLink
  | file | folder => simp [descend]

theorem descend_missing {entries : List (String × Tree)}
    (found : tree.at? here = some (.folder entries)) {name : String} (named : IsEntryName name)
    (short : name.utf8ByteSize ≤ longestName) (unlisted : entries.lookup name = none) :
    descend tree links follow here [name] = .error .missing := by
  rw [descend, found]
  simp [named.nonempty, named.noPoint, named.noParent, Nat.not_lt.mpr short, unlisted]

theorem descend_link {entries : List (String × Tree)}
    (found : tree.at? here = some (.folder entries)) {name : String} (named : IsEntryName name)
    (short : name.utf8ByteSize ≤ longestName) {target : String}
    (listed : entries.lookup name = some (.link target)) (nonempty : target ≠ "") :
    descend tree (links + 1) true here [name] =
      descend tree links true (startOf here target) (stepsOf target) := by
  rw [descend, found]
  simp [named.nonempty, named.noPoint, named.noParent, Nat.not_lt.mpr short, listed, nonempty]

theorem descend_tooLong {entries : List (String × Tree)}
    (found : tree.at? here = some (.folder entries)) {name : String}
    (long : longestName < name.utf8ByteSize) (rest : List String) :
    descend tree links follow here (name :: rest) = .error .nameTooLong := by
  have other (step : String) (fits : step.utf8ByteSize ≤ longestName) : name ≠ step := by
    rintro rfl
    omega
  rw [descend, found]
  simp [other "" (by decide), other "." (by decide), other ".." (by decide), long]

end descend

namespace Disk
variable {d : Disk} {p : Path}

theorem locate_of_clean (clean : p.Clean) (follow : Bool) :
    d.locate p.toString follow =
      if longestPath ≤ p.toString.utf8ByteSize then .error .nameTooLong
      else descend d.tree mostLinks follow (if p.root = "" then d.here else []) (stepsOf p.toString) := by
  rw [locate, if_neg p.toString_ne_empty, clean.startOf_toString]

theorem find_of_place {path : String} {place : Place} (reached : d.locate path true = .ok place) :
    d.find path = (d.tree.at? place).elim (.error .missing) .ok := by
  simp only [find, reached, bind, Except.bind]
  cases d.tree.at? place <;> rfl

theorem find_of_refusal {path : String} {refusal : Refusal}
    (refused : d.locate path true = .error refusal) : d.find path = .error refusal := by
  rw [find, refused]
  rfl

theorem find_eq_ok {path : String} {t : Tree} (found : d.find path = .ok t) :
    ∃ place, d.locate path true = .ok place ∧ d.tree.at? place = some t := by
  cases reached : d.locate path true with
  | error refusal => cases (find_of_refusal reached).symm.trans found
  | ok place =>
    refine ⟨place, rfl, ?_⟩
    rw [find_of_place reached] at found
    cases there : d.tree.at? place with
    | none =>
      rw [there] at found
      cases found
    | some other =>
      rw [there] at found
      cases found
      rfl

theorem look_eq_error {path : String} {fault : Fault} (refused : d.look path = .error fault) :
    d.find path = .error .nameTooLong ∧ fault = .refused .nameTooLong path := by
  rw [look] at refused
  split at refused
  · cases refused
  · cases refused
    exact ⟨‹_›, rfl⟩
  · cases refused

theorem size_lt_of_find {path : String} {t : Tree} (found : d.find path = .ok t) :
    path.utf8ByteSize < longestPath := by
  obtain ⟨place, reached, -⟩ := find_eq_ok found
  rw [locate] at reached
  split at reached
  · cases reached
  split at reached
  · cases reached
  · rename_i short
    exact Nat.not_le.mp short

/-- Nothing is found as deep as the longest path is long. -/
theorem depth_lt_of_find (clean : p.Clean) {t : Tree} (found : d.find p.toString = .ok t) :
    p.names.length < longestPath :=
  Nat.lt_of_le_of_lt clean.length_names_le (size_lt_of_find found)

theorem locate_of_find_error {path : String} {refusal : Refusal} (refused : d.find path = .error refusal)
    (other : refusal ≠ .missing) : d.locate path true = .error refusal := by
  cases reached : d.locate path true with
  | error other =>
    rw [find_of_refusal reached] at refused
    cases refused
    rfl
  | ok place =>
    rw [find_of_place reached] at refused
    cases there : d.tree.at? place with
    | none =>
      rw [there] at refused
      cases refused
      exact absurd rfl other
    | some t =>
      rw [there] at refused
      cases refused

theorem find_child_tooLong (clean : p.Clean) (refused : d.find p.toString = .error .nameTooLong)
    {name : String} (named : IsName name) :
    d.find (p.child name).toString = .error .nameTooLong := by
  have located := locate_of_find_error refused (by simp)
  refine find_of_refusal ?_
  rw [locate_of_clean clean] at located
  rw [locate_of_clean (clean.child named)]
  split
  · rfl
  rename_i short
  have longer := p.size_le_child name
  rw [if_neg (by omega)] at located
  obtain ⟨_, start⟩ := descend_tooLong_starts_at_folder located
  obtain ⟨idle, steps, still⟩ := clean.stepsOf_toString
  obtain ⟨idle', steps', still'⟩ := (clean.child named).stepsOf_toString
  rw [steps, descend_idle start still] at located
  rw [steps']
  exact (descend_idle start still' _).trans (descend_append_error (List.cons_ne_nil name []) located)

theorem find_beneath_tooLong {root : Path} {above rest : List String}
    (clean : (root.beneath above).Clean)
    (refused : d.find (root.beneath above).toString = .error .nameTooLong)
    (named : ∀ name ∈ rest, IsName name) :
    d.find (root.beneath (above ++ rest)).toString = .error .nameTooLong := by
  induction rest generalizing above with
  | nil => rwa [List.append_nil]
  | cons name rest ih =>
    obtain ⟨here, below⟩ := List.forall_mem_cons.mp named
    have deeper := find_child_tooLong clean refused here
    have clean := clean.child here
    rw [Path.child_beneath] at clean deeper
    rw [List.append_cons]
    exact ih clean deeper below

theorem locate_child (clean : p.Clean) {entries : List (String × Tree)}
    (found : d.find p.toString = .ok (.folder entries)) :
    ∃ place left, d.tree.at? place = some (.folder entries) ∧
      ∀ name follow, IsName name → d.locate (p.child name).toString follow =
        if longestPath ≤ (p.child name).toString.utf8ByteSize then .error .nameTooLong
        else descend d.tree left follow place [name] := by
  obtain ⟨place, reached, there⟩ := find_eq_ok found
  rw [locate_of_clean clean] at reached
  split at reached
  · cases reached
  obtain ⟨_, start⟩ := descend_starts_at_folder (stepsOf_ne_nil _) reached
  obtain ⟨idle, steps, still⟩ := clean.stepsOf_toString
  rw [steps, descend_idle start still] at reached
  obtain ⟨left, onward⟩ := descend_append reached
  refine ⟨place, left, there, ?_⟩
  intro name follow named
  obtain ⟨idle', steps', still'⟩ := (clean.child named).stepsOf_toString
  rw [locate_of_clean (clean.child named), steps']
  split
  · rfl
  · exact (descend_idle start still' _).trans (onward follow [name] (List.cons_ne_nil _ _))

/-- What a folder lists is found there, unless it is a link or its path is too long. -/
theorem find_child (clean : p.Clean) {entries : List (String × Tree)}
    (found : d.find p.toString = .ok (.folder entries)) {name : String} (named : IsEntryName name)
    {t : Tree} (listed : entries.lookup name = some t) (notLink : t.isLink = false) :
    d.find (p.child name).toString = .ok t ∨
      d.find (p.child name).toString = .error .nameTooLong := by
  obtain ⟨place, left, there, locate⟩ := locate_child clean found
  have looked := locate name true named.toIsName
  rw [descend_entry there named listed notLink] at looked
  split at looked
  · exact Or.inr (find_of_refusal looked)
  split at looked
  · exact Or.inr (find_of_refusal looked)
  · refine Or.inl ?_
    rw [find_of_place looked, Tree.at?_child there, listed]
    rfl

theorem find_topmost {entries : List (String × Tree)} (top : d.tree = .folder entries) (name : String)
    (named : IsEntryName name) (short : name.utf8ByteSize ≤ longestName) :
    (entries.lookup name = none → d.find ("/" ++ name) = .error .missing) ∧
    ∀ t, entries.lookup name = some t → t.isLink = false → d.find ("/" ++ name) = .ok t := by
  have there : d.tree.at? [] = some (.folder entries) := congrArg some top
  have size : ("/" ++ name).utf8ByteSize < longestPath := by
    have slash : "/".utf8ByteSize = 1 := rfl
    rw [String.utf8ByteSize_append, slash]
    unfold longestPath longestName at *
    omega
  have start : startOf d.here ("/" ++ name) = [] := by simp [startOf]
  have steps : stepsOf ("/" ++ name) = [""] ++ [name] := by
    rw [stepsOf_slash, stepsOf_of_noSlash named.noSlash]
    rfl
  have located : d.locate ("/" ++ name) true = descend d.tree mostLinks true [] [name] := by
    rw [locate, if_neg (by simp), if_neg (by omega), start, steps]
    exact descend_idle there (by simp) [name]
  constructor
  · intro unlisted
    exact find_of_refusal (located.trans (descend_missing there named short unlisted))
  · intro t listed notLink
    have reached : d.locate ("/" ++ name) true = .ok [name] := by
      rw [located, descend_entry there named listed notLink, if_neg (by omega)]
      rfl
    have below := Tree.at?_child there name
    rw [List.nil_append, listed] at below
    rw [find_of_place reached, below]
    rfl

end Disk

end SourceCensus.Files
