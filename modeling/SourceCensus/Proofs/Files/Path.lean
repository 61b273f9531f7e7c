import SourceCensus.Files.Locate

/-! The text of a path and the steps it stands for. Cutting the text at its slashes gives back the
   names, behind at most a few steps that lead nowhere. -/
namespace SourceCensus.Files

theorem splitAtSlash_eq_splitOn (text : List Char) : splitAtSlash text = text.splitOn '/' := by
  induction text with
  | nil => rfl
  | cons c text ih =>
    rw [List.splitOn_cons_eq_if_modifyHead, ← ih]
    simp only [splitAtSlash, List.foldr_cons, beq_iff_eq]
    split
    · rfl
    · split
      · rename_i pieces
        simp [pieces]
      · rename_i pieces
        exact absurd (ih.symm.trans pieces) (List.splitOn_ne_nil '/' text)

theorem slash_notMem_of_mem {text piece : List Char} (member : piece ∈ splitAtSlash text) :
    '/' ∉ piece := by
  rw [splitAtSlash_eq_splitOn] at member
  induction text generalizing piece with
  | nil => simp_all
  | cons c text ih =>
    rw [List.splitOn_cons_eq_if_modifyHead] at member
    split at member
    · rcases List.mem_cons.mp member with rfl | later
      · exact List.not_mem_nil
      · exact ih later
    · rename_i other
      cases pieces : text.splitOn '/' with
      | nil => exact absurd pieces (List.splitOn_ne_nil '/' text)
      | cons first rest =>
        rw [pieces, List.modifyHead_cons] at member
        rw [pieces] at ih
        rcases List.mem_cons.mp member with rfl | later
        · have plain := ih List.mem_cons_self
          rw [beq_iff_eq] at other
          simp [Ne.symm other, plain]
        · exact ih (List.mem_cons_of_mem _ later)

/-- A name that a path may hold. Two points count as one. -/
structure IsName (name : String) : Prop where
  nonempty : name ≠ ""
  noPoint : name ≠ "."
  noSlash : '/' ∉ name.toList

structure Path.Clean (p : Path) : Prop where
  root : p.root = "" ∨ p.root = "/" ∨ p.root = "//"
  names : ∀ name ∈ p.names, IsName name

theorem Path.clean_ofString (text : String) : (Path.ofString text).Clean := by
  constructor
  · rw [Path.ofString, Path.rootOf.eq_def]
    split <;> simp
  · intro name member
    obtain ⟨piece, kept, rfl⟩ := List.mem_map.mp member
    rw [List.mem_filter, Bool.and_eq_true, decide_eq_true_eq, decide_eq_true_eq] at kept
    obtain ⟨cut, nonempty, noPoint⟩ := kept
    refine ⟨?_, ?_, ?_⟩
    · exact fun none => nonempty (String.ofList_eq_empty_iff.mp none)
    · exact fun point => noPoint (String.ofList_injective point)
    · rw [String.toList_ofList]
      exact slash_notMem_of_mem cut

def Path.beneath (root : Path) (names : List String) : Path := ⟨root.root, root.names ++ names⟩

@[simp] theorem Path.beneath_nil (root : Path) : root.beneath [] = root := by
  simp [beneath]

theorem Path.child_beneath (root : Path) (names : List String) (name : String) :
    (root.beneath names).child name = root.beneath (names ++ [name]) := by
  simp [beneath, child]

theorem Path.beneath_injective (root : Path) : Function.Injective root.beneath := by
  intro a b same
  simpa [beneath] using same

theorem Path.Clean.child {p : Path} (clean : p.Clean) {name : String} (named : IsName name) :
    (p.child name).Clean := by
  refine ⟨clean.root, ?_⟩
  intro other member
  rcases List.mem_append.mp member with above | last
  · exact clean.names other above
  · rw [List.mem_singleton.mp last]
    exact named

theorem stepsOf_ne_nil (path : String) : stepsOf path ≠ [] := by
  simp [stepsOf, splitAtSlash_eq_splitOn, List.splitOn_ne_nil]

theorem stepsOf_of_noSlash {text : String} (plain : '/' ∉ text.toList) : stepsOf text = [text] := by
  rw [stepsOf, splitAtSlash_eq_splitOn, List.splitOn_eq_singleton plain, List.map_singleton,
    String.ofList_toList]

theorem stepsOf_intercalate {names : List String} (some : names ≠ [])
    (plain : ∀ name ∈ names, '/' ∉ name.toList) : stepsOf ("/".intercalate names) = names := by
  have cut : (['/'].intercalate (names.map String.toList)).splitOn '/' = names.map String.toList := by
    refine List.splitOn_intercalate '/' ?_ (by simpa using some)
    simpa using plain
  rw [stepsOf, splitAtSlash_eq_splitOn, String.toList_intercalate]
  exact (congrArg _ cut).trans (by simp)

theorem stepsOf_slash (text : String) : stepsOf ("/" ++ text) = "" :: stepsOf text := by
  simp only [stepsOf, splitAtSlash_eq_splitOn, String.toList_append]
  exact congrArg (List.map String.ofList) (List.splitOn_append_cons_self [] text.toList)

theorem head?_intercalate {names : List String} (named : ∀ name ∈ names, IsName name) :
    ("/".intercalate names).toList.head? ≠ some '/' := by
  cases names with
  | nil => decide
  | cons name rest =>
    obtain ⟨first, -⟩ := List.forall_mem_cons.mp named
    rw [String.toList_intercalate]
    cases letters : name.toList with
    | nil => exact absurd (String.toList_eq_nil_iff.mp letters) first.nonempty
    | cons c others =>
      have plain : c ≠ '/' := by
        rintro rfl
        exact first.noSlash (letters ▸ List.mem_cons_self)
      cases rest <;> simp [List.intercalate, letters, plain]

theorem Path.namesOf_toList (text : String) :
    Path.namesOf text.toList = (stepsOf text).filter fun step => step ≠ "" && step ≠ "." := by
  have point (piece : List Char) : String.ofList piece = "." ↔ piece = ['.'] :=
    ⟨fun same => String.ofList_injective same, congrArg String.ofList⟩
  rw [Path.namesOf, stepsOf, List.filter_map]
  refine congrArg _ (List.filter_congr fun piece _ => ?_)
  simp [String.ofList_eq_empty_iff, point]

theorem Path.toString_of_root {p : Path} (rooted : p.root ≠ "") :
    p.toString = p.root ++ "/".intercalate p.names := by
  simp [toString, rooted]

theorem Path.Clean.toString_of_names {p : Path} (clean : p.Clean) (relative : p.root = "")
    (some : p.names ≠ []) : p.toString = "/".intercalate p.names := by
  have written : "/".intercalate p.names ≠ "" := by
    intro none
    have steps := stepsOf_intercalate some fun name member => (clean.names name member).noSlash
    rw [none] at steps
    have blank : "" ∈ p.names := steps ▸ List.mem_singleton_self ""
    exact (clean.names "" blank).nonempty rfl
  simp [toString, relative, written]

theorem Path.Clean.stepsOf_toString {p : Path} (clean : p.Clean) :
    ∃ idle, stepsOf p.toString = idle ++ p.names ∧ ∀ step ∈ idle, step = "" ∨ step = "." := by
  by_cases none : p.names = []
  · refine ⟨stepsOf p.toString, by simp [none], ?_⟩
    rcases clean.root with root | root | root <;> simp [toString, root, none, stepsOf, splitAtSlash]
  · have names := stepsOf_intercalate none fun name member => (clean.names name member).noSlash
    rcases clean.root with root | root | root
    · exact ⟨[], by rw [clean.toString_of_names root none, names]; rfl, by simp⟩
    · refine ⟨[""], ?_, by simp⟩
      rw [toString_of_root (by simp [root]), root, stepsOf_slash, names]
      rfl
    · refine ⟨["", ""], ?_, by simp⟩
      have twice : "//" ++ "/".intercalate p.names = "/" ++ ("/" ++ "/".intercalate p.names) := by
        rw [← String.append_assoc]
        rfl
      rw [toString_of_root (by simp [root]), root, twice, stepsOf_slash, stepsOf_slash, names]
      rfl

theorem Path.Clean.startOf_toString {p : Path} (clean : p.Clean) (here : Place) :
    startOf here p.toString = if p.root = "" then here else [] := by
  rcases clean.root with root | root | root
  · rw [if_pos root, startOf, if_neg]
    cases names : p.names with
    | nil => simp [toString, root, names]
    | cons name rest =>
      rw [clean.toString_of_names root (by simp [names])]
      exact head?_intercalate clean.names
  · simp [toString_of_root, root, startOf]
  · simp [toString_of_root, root, startOf]

theorem length_le_size_intercalate {names : List String} (named : ∀ name ∈ names, name ≠ "") :
    names.length ≤ ("/".intercalate names).utf8ByteSize := by
  induction names with
  | nil => exact Nat.zero_le _
  | cons name rest ih =>
    obtain ⟨nonempty, named⟩ := List.forall_mem_cons.mp named
    have some : 0 < name.utf8ByteSize := by
      rwa [Nat.pos_iff_ne_zero, ne_eq, String.utf8ByteSize_eq_zero_iff]
    have later := ih named
    cases rest with
    | nil =>
      rw [List.length_singleton, String.intercalate_singleton]
      exact some
    | cons next rest =>
      have slash : "/".utf8ByteSize = 1 := rfl
      rw [String.intercalate_cons_cons, String.utf8ByteSize_append, String.utf8ByteSize_append, slash]
      rw [List.length_cons]
      omega

theorem size_intercalate_le_snoc (names : List String) (name : String) :
    ("/".intercalate names).utf8ByteSize ≤ ("/".intercalate (names ++ [name])).utf8ByteSize := by
  induction names with
  | nil => exact Nat.zero_le _
  | cons first rest ih =>
    cases rest with
    | nil =>
      rw [List.singleton_append, String.intercalate_cons_cons, String.intercalate_singleton,
        String.utf8ByteSize_append, String.utf8ByteSize_append]
      omega
    | cons next rest =>
      rw [List.cons_append] at ih ⊢
      rw [List.cons_append, String.intercalate_cons_cons, String.intercalate_cons_cons]
      simp only [String.utf8ByteSize_append]
      omega

theorem Path.size_toString (p : Path) : p.toString.utf8ByteSize =
    max 1 (p.root.utf8ByteSize + ("/".intercalate p.names).utf8ByteSize) := by
  rw [← String.utf8ByteSize_append]
  simp only [toString]
  split
  · rename_i none
    rw [none]
    rfl
  · rename_i text
    have some : 0 < (p.root ++ "/".intercalate p.names).utf8ByteSize := by
      rwa [Nat.pos_iff_ne_zero, ne_eq, String.utf8ByteSize_eq_zero_iff]
    omega

theorem Path.Clean.length_names_le {p : Path} (clean : p.Clean) :
    p.names.length ≤ p.toString.utf8ByteSize := by
  have inner := length_le_size_intercalate fun name member => (clean.names name member).nonempty
  rw [p.size_toString]
  omega

theorem Path.size_le_child (p : Path) (name : String) :
    p.toString.utf8ByteSize ≤ (p.child name).toString.utf8ByteSize := by
  have longer := size_intercalate_le_snoc p.names name
  rw [size_toString, size_toString, child]
  dsimp only
  omega

theorem Path.toString_ne_empty (p : Path) : p.toString ≠ "" := by
  simp only [toString]
  split
  · simp
  · assumption

end SourceCensus.Files
