import SourceCensus.Proofs.Files.Walk
import SourceCensus.Proofs.Settings.Basic

/-! Which files an extension finds. A walk compares the suffix of the settings with what follows the last
   point of a name, so an extension with a point inside or at its end names no file at all, while any
   other one names every file that it stands behind. -/
namespace SourceCensus.Files
open Settings

theorem suffixOf_append {stem bare : List Char} (before : stem ≠ []) (behind : bare ≠ [])
    (plain : '.' ∉ bare) : suffixOf (stem ++ '.' :: bare) = '.' :: bare := by
  have letters : ∀ c ∈ bare.reverse, (c != '.') = true := by
    intro c member
    rw [bne_iff_ne]
    rintro rfl
    exact plain (List.mem_reverse.mp member)
  have tail : ((stem ++ '.' :: bare).reverse.takeWhile (· != '.')).reverse = bare := by
    have turned : (stem ++ '.' :: bare).reverse = bare.reverse ++ '.' :: stem.reverse := by simp
    rw [turned, List.takeWhile_append_of_pos letters, List.takeWhile_cons_of_neg (by simp)]
    simp
  have place : 0 < stem.length := List.length_pos_of_ne_nil before
  have size : (stem ++ '.' :: bare).length - bare.length - 1 = stem.length := by
    rw [List.length_append, List.length_cons]
    omega
  simp only [suffixOf, tail, size]
  simp [place, behind]

theorem point_notMem_of_suffixOf {name bare : List Char} (same : suffixOf name = '.' :: bare) :
    '.' ∉ bare := by
  simp only [suffixOf] at same
  split at same
  · intro point
    rw [← (List.cons.inj same).2, List.mem_reverse] at point
    simpa using List.mem_takeWhile_imp point
  · cases same

section extension
variable [CharacterNames]

theorem bareExtension_ne_nil {layer : Layer} {s : Settings} (accepted : ofLayer layer = .ok s) :
    bareExtension s.extension ≠ [] := by
  obtain ⟨-, same, valid⟩ := ofLayer_eq_ok accepted
  obtain ⟨extension, written, c, member, other⟩ := valid.extension
  have kept : s.extension = extension :=
    Setting.text.inj ((congrFun same .extension).trans written)
  rw [kept, bareExtension, ne_eq, List.dropWhile_eq_nil_iff, not_forall]
  exact ⟨c, by simp [member, other]⟩

theorem suffix_child_eq_iff {layer : Layer} {s : Settings} (accepted : ofLayer layer = .ok s)
    (root : Path) {stem : String} (before : stem ≠ "") :
    (root.child (stem ++ s.suffix)).suffix = s.suffix ↔ '.' ∉ bareExtension s.extension := by
  have name : (root.child (stem ++ s.suffix)).suffix =
      String.ofList (suffixOf (stem.toList ++ '.' :: bareExtension s.extension)) := by
    simp [Path.suffix, Path.name, Path.child, Settings.suffix]
  rw [name, Settings.suffix]
  constructor
  · exact fun same => point_notMem_of_suffixOf (String.ofList_injective same)
  · intro plain
    have letters : stem.toList ≠ [] := fun none => before (String.toList_eq_nil_iff.mp none)
    rw [suffixOf_append letters (bareExtension_ne_nil accepted) plain]

end extension

def upToFault : List (Except Fault Path) → List Path
  | .ok path :: rest => path :: upToFault rest
  | _ => []

theorem upToFault_append (paths : List Path) (rest : List (Except Fault Path)) :
    upToFault (paths.map .ok ++ rest) = paths ++ upToFault rest := by
  induction paths with
  | nil => rfl
  | cons path paths ih => rw [List.map_cons, List.cons_append, upToFault, ih, List.cons_append]

variable {d : Disk} {w : Wanted} {root : Path}

theorem walkFrom_eq_nil (never : ∀ path : Path, path.suffix ≠ w.suffix) (depth : Nat) (current : Path) :
    d.walkFrom w root depth current = [] := by
  have refused (path : Path) : d.isWanted w root path = .ok false := if_pos (never path)
  have none (paths : List Path) : d.wantedAmong w root paths = [] := by
    simp [Disk.wantedAmong, refused]
  induction depth generalizing current with
  | zero => rfl
  | succ depth ih =>
    rw [Disk.walkFrom]
    split
    · simp [none, ih]
    · rfl

theorem upToFault_walk_eq_nil (never : ∀ path : Path, path.suffix ≠ w.suffix) :
    upToFault (d.walk w root) = [] := by
  rw [Disk.walk]
  split
  · rfl
  · rw [walkFrom_eq_nil never]
    rfl

section listed
variable {top : List (String × Tree)} {name : String} {bytes : Encoding.Bytes}

/-- Of the files and links with a suffix that a folder lists up to a name, none is under a path that is
    too long to be looked at, nor is what such a link holds. -/
def InReachUpTo (d : Disk) (root : Path) (top : List (String × Tree)) (suffix name : String) : Prop :=
  ∀ entry ∈ top, entry.2.isFile ∨ entry.2.isLink → entry.1 ≤ name →
    (root.child entry.1).suffix = suffix →
    d.find (root.child entry.1).toString ≠ .error .nameTooLong

theorem InReachUpTo.decided (reach : InReachUpTo d root top w.suffix name) (plain : w.Plain [])
    {entry : String × Tree} (member : entry ∈ top) (leaf : entry.2.isFile ∨ entry.2.isLink)
    (ahead : entry.1 ≤ name) :
    ∃ taken, d.isWanted w root (root.child entry.1) = .ok taken ∧ (taken = true ↔
      (root.child entry.1).suffix = w.suffix ∧
        ∃ bytes, d.find (root.child entry.1).toString = .ok (.file bytes)) := by
  have single : root.child entry.1 = root.beneath [entry.1] := rfl
  have suffix : (root.child entry.1).suffix = (Path.mk "" [entry.1]).suffix :=
    suffix_beneath (List.cons_ne_nil entry.1 [])
  obtain ⟨taken, decided, told⟩ := isWanted_beneath plain (List.cons_ne_nil entry.1 [])
    fun same _ => reach entry member leaf ahead (suffix.trans same)
  rw [← single] at decided told
  refine ⟨taken, decided, told.trans ?_⟩
  rw [suffix]
  simp

/-- A file right below the root is met, whatever stands behind it, if it has the suffix. -/
theorem mem_upToFault_walk (proper : d.tree.Proper) (clean : root.Clean)
    (found : d.find root.toString = .ok (.folder top)) (plain : w.Plain [])
    (listed : top.lookup name = some (.file bytes)) (reach : InReachUpTo d root top w.suffix name)
    (suffix : (root.child name).suffix = w.suffix) : root.child name ∈ upToFault (d.walk w root) := by
  obtain ⟨place, -, there⟩ := Disk.find_eq_ok found
  obtain ⟨distinct, named⟩ : (top.map Prod.fst).Nodup ∧ ∀ entry ∈ top, IsEntryName entry.1 := by
    cases proper.at? there with
    | folder distinct named below => exact ⟨distinct, named⟩
  have member : (name, Tree.file bytes) ∈ top := mem_of_lookup listed
  -- The files of a folder come by name, so those in front of it bear lesser names.
  obtain ⟨front, behind, parts⟩ : ∃ front behind,
      d.othersIn root top = front ++ (name, Tree.file bytes) :: behind :=
    List.append_of_mem (mem_othersIn.mpr ⟨member, rfl⟩)
  have order : (d.othersIn root top).Pairwise fun a b => a.1 < b.1 :=
    (pairwise_sortedByName distinct).filter _
  rw [parts] at order
  have ahead {entry : String × Tree} (before : entry ∈ front) : entry.1 ≤ name := by
    have less := (List.pairwise_append.mp order).2.2 entry before _ List.mem_cons_self
    exact String.not_lt.mp (String.lt_asymm less)
  obtain ⟨paths, taken⟩ : ∃ paths : List Path,
      d.wantedAmong w root (front.map fun entry => root.child entry.1) = paths.map .ok := by
    refine exists_map_ok fun result met => ?_
    have decided : ∀ path ∈ front.map fun entry => root.child entry.1,
        ∃ taken, d.isWanted w root path = .ok taken := by
      intro path member
      obtain ⟨entry, before, rfl⟩ := List.mem_map.mp member
      obtain ⟨other, notFolder⟩ := mem_othersIn.mp (parts ▸ List.mem_append_left _ before)
      obtain ⟨taken, decided, -⟩ :=
        reach.decided plain other (leaf_of_notFolder notFolder) (ahead before)
      exact ⟨taken, decided⟩
    obtain ⟨path, -, -, rfl⟩ := (mem_wantedAmong decided).mp met
    exact ⟨path, rfl⟩
  have wanted : d.isWanted w root (root.child name) = .ok true := by
    obtain ⟨taken, decided, told⟩ := reach.decided plain member (.inl rfl) (String.le_refl name)
    have looked := Disk.find_child clean found (named _ member) listed rfl
    have file := looked.resolve_right (reach _ member (.inl rfl) (String.le_refl name) suffix)
    rw [decided, told.mpr ⟨suffix, bytes, file⟩]
  -- The files of the root come before all folders, so only those in front can end the walk too early.
  have walked : d.walk w root = paths.map .ok ++ .ok (root.child name) ::
      (d.wantedAmong w root (behind.map fun entry => root.child entry.1) ++
        (enteredFrom top).flatMap fun entry =>
          d.walkFrom w root (longestPath - 1) (root.child entry.1)) := by
    have deep : longestPath = longestPath - 1 + 1 := rfl
    rw [walk_eq_walkFrom found, Path.beneath_nil, deep, walkFrom_succ plain found, parts, ← taken]
    simp [Disk.wantedAmong, wanted]
  rw [walked, upToFault_append, upToFault]
  simp

end listed

def unfiltered (s : Settings) : Wanted := ⟨s.suffix, .list [], false⟩

/-- An extension that settings are accepted with finds every file right below a root whose name ends in
    it, unless there is a point in it behind those that it starts with. Then no walk finds any file. -/
theorem extension_finds_iff [CharacterNames] {layer : Layer} {s : Settings}
    (accepted : ofLayer layer = .ok s)
    (proper : d.tree.Proper) (clean : root.Clean) {top : List (String × Tree)}
    (found : d.find root.toString = .ok (.folder top)) {stem : String} (before : stem ≠ "")
    {bytes : Encoding.Bytes} (listed : top.lookup (stem ++ s.suffix) = some (.file bytes))
    (reach : InReachUpTo d root top s.suffix (stem ++ s.suffix)) :
    (root.child (stem ++ s.suffix) ∈ upToFault (d.walk (unfiltered s) root) ↔
      '.' ∉ bareExtension s.extension) ∧
    ('.' ∈ bareExtension s.extension →
      ∀ (d : Disk) (w : Wanted) (root : Path), w.suffix = s.suffix → upToFault (d.walk w root) = []) := by
  have never (point : '.' ∈ bareExtension s.extension) (path : Path) : path.suffix ≠ s.suffix := by
    rw [Path.suffix, Settings.suffix]
    exact fun same => point_notMem_of_suffixOf (String.ofList_injective same) point
  constructor
  · constructor
    · intro met point
      rw [upToFault_walk_eq_nil (never point)] at met
      cases met
    · intro plain
      exact mem_upToFault_walk proper clean found ⟨rfl, by simp, rfl⟩ listed reach
        ((suffix_child_eq_iff accepted root before).mpr plain)
  · rintro point d w root same
    exact upToFault_walk_eq_nil (same ▸ never point)

def layerFor (extension : String) : Layer :=
  [("extension", .text extension), ("class_pattern", .text "class"), ("max_file_size_mb", .int 1)]

def settingsFor (extension : String) : Settings where
  extension := extension
  classPattern := ⟨"class", Pattern.literally "class"⟩
  stripLiterals := .bool false
  limit := .int 10
  verbosity := .normal
  logFile := .none
  excludePatterns := .list []
  followSymlinks := .bool false
  maxFileSize := .whole 1
  encoding := .text "utf-8"

theorem ofLayer_layerFor [CharacterNames] {extension : String} (bare : ∃ c ∈ extension.toList, c ≠ '.') :
    ofLayer (layerFor extension) = .ok (settingsFor extension) := by
  have written : checkExtension (.text extension) = .ok extension := checkExtension_eq_ok.mpr ⟨rfl, bare⟩
  have step : ofLayer (layerFor extension) =
      (checkExtension (.text extension)).bind fun extension => .ok (settingsFor extension) := rfl
  rw [step, written]
  rfl

theorem find_linkBetween_file (target : String) :
    (linkBetween target).find "a.c" = .ok (.file []) := by
  cbv

theorem extension_finds_iff_linkBetween :
    @ofLayer Text.asciiNames (layerFor "c") = .ok (settingsFor "c") ∧
      (linkBetween (lettered 300)).tree.Proper ∧
      (linkBetween (lettered 300)).find "." = .ok (linkBetween (lettered 300)).tree ∧
      InReachUpTo (linkBetween (lettered 300)) (Path.ofString ".")
        (linkBetween (lettered 300)).tree.entries ".c" "a.c" ∧
      (Path.ofString ".").child "a.c" ∈
        upToFault ((linkBetween (lettered 300)).walk (unfiltered (settingsFor "c")) (Path.ofString ".")) := by
  have accepted : @ofLayer Text.asciiNames (layerFor "c") = .ok (settingsFor "c") :=
    @ofLayer_layerFor Text.asciiNames "c" ⟨'c', by decide⟩
  have proper : (linkBetween (lettered 300)).tree.Proper :=
    .folder (by decide) (by decide) (by simp [Tree.Proper.file, Tree.Proper.link])
  have reach : InReachUpTo (linkBetween (lettered 300)) (Path.ofString ".")
      (linkBetween (lettered 300)).tree.entries ".c" "a.c" := by
    intro entry member _ ahead _ refused
    simp only [linkBetween, Tree.entries, List.mem_cons, List.not_mem_nil, or_false] at member
    rcases member with rfl | rfl | rfl
    · cases (find_linkBetween_file (lettered 300)).symm.trans refused
    · exact absurd ahead (by decide)
    · exact absurd ahead (by decide)
  have listed : (linkBetween (lettered 300)).tree.entries.lookup ("a" ++ (settingsFor "c").suffix) =
      some (.file []) := rfl
  have finds := @extension_finds_iff _ _ Text.asciiNames _ _ accepted proper (Path.clean_ofString ".") _
    (find_linkBetween _) _ (by decide) _ listed reach
  exact ⟨accepted, proper, find_linkBetween _, reach, finds.1.mpr (by decide)⟩

/-- The checks let an extension pass that has a point inside, and no walk finds the file behind it. -/
theorem accepted_extension_finds_nothing :
    let disk : Disk := ⟨.folder [("a.d.ts", .file [])], [], []⟩
    @ofLayer Text.asciiNames (layerFor "d.ts") = .ok (settingsFor "d.ts") ∧ disk.tree.Proper ∧
      "a" ++ (settingsFor "d.ts").suffix = "a.d.ts" ∧ disk.find "a.d.ts" = .ok (.file []) ∧
      disk.walk (unfiltered (settingsFor "d.ts")) (Path.ofString ".") = [] := by
  refine ⟨@ofLayer_layerFor Text.asciiNames "d.ts" ⟨'d', by decide⟩, ?_, by decide, ?_, ?_⟩
  · exact .folder (by decide) (by decide) (by simp [Tree.Proper.file])
  · cbv
  · cbv

end SourceCensus.Files
