import SourceCensus.Proofs.Files.Locate

/-! Resolved paths. A place that was worked out from a path holds names only, so the path of that place
   is written as the place is, and leads back to it. -/
namespace SourceCensus.Files

def Place.Named (place : Place) : Prop := ∀ name ∈ place, IsName name

/-- A step that comes from a path; it may lead nowhere or back. -/
def IsStep (step : String) : Prop := '/' ∉ step.toList

theorem isStep_of_mem {path step : String} (cut : step ∈ stepsOf path) : IsStep step := by
  obtain ⟨piece, inside, rfl⟩ := List.mem_map.mp cut
  rw [IsStep, String.toList_ofList]
  exact slash_notMem_of_mem inside

theorem IsStep.isName {step : String} (plain : IsStep step)
    (moving : ¬ (decide (step = "") || decide (step = ".")) = true) : IsName step := by
  simp only [Bool.or_eq_true, decide_eq_true_eq, not_or] at moving
  exact ⟨moving.1, moving.2, plain⟩

namespace Place.Named
variable {place : Place}

theorem dropLast (named : place.Named) : Place.Named (List.dropLast place) :=
  fun name member => named name (List.dropLast_subset place member)

theorem snoc (named : place.Named) {name : String} (last : IsName name) :
    Place.Named (place ++ [name]) := by
  intro other member
  rcases List.mem_append.mp member with before | here
  · exact named other before
  · rw [List.mem_singleton.mp here]
    exact last

theorem startOf (named : place.Named) (path : String) : Place.Named (startOf place path) := by
  rw [Files.startOf]
  split
  · exact fun name none => absurd none List.not_mem_nil
  · exact named

theorem appendNames (named : place.Named) {names : List String} (plain : ∀ step ∈ names, IsStep step) :
    Place.Named (appendNames place names) := by
  induction names generalizing place with
  | nil => exact named
  | cons name rest ih =>
    obtain ⟨first, plain⟩ := List.forall_mem_cons.mp plain
    rw [Files.appendNames, List.foldl_cons]
    refine ih ?_ plain
    split
    · exact named
    split
    · exact named.dropLast
    · rename_i moving _
      exact named.snoc (first.isName moving)

end Place.Named

def Seen.Named (seen : Seen) : Prop := ∀ link ∈ seen, ∀ place ∈ link.2, Place.Named place

theorem Seen.Named.cons {seen : Seen} (known : seen.Named) (link : Place) {end? : Option Place}
    (named : ∀ place ∈ end?, Place.Named place) : Seen.Named ((link, end?) :: seen) := by
  intro other member
  rcases List.mem_cons.mp member with rfl | later
  · exact named
  · exact known other later

structure Resolved.Named (r : Resolved) : Prop where
  place : r.place.Named
  left : ∀ step ∈ r.left, IsStep step
  seen : r.seen.Named

theorem resolveSteps_named {tree : Tree} {fuel : Nat} {seen : Seen} {here : Place} {steps : List String}
    (named : here.Named) (plain : ∀ step ∈ steps, IsStep step) (known : seen.Named) :
    (resolveSteps tree fuel seen here steps).Named := by
  fun_induction resolveSteps tree fuel seen here steps with
  | case1 => exact ⟨named, plain, known⟩
  | case2 fuel seen here name rest idle ih =>
    exact ih named (List.forall_mem_cons.mp plain).2 known
  | case3 fuel seen here rest _ ih =>
    exact ih named.dropLast (List.forall_mem_cons.mp plain).2 known
  | case4 fuel seen here name rest moving down next target there place met ih =>
    exact ih (known _ (mem_of_lookup met) place rfl) (List.forall_mem_cons.mp plain).2 known
  | case5 fuel seen here name rest moving | case6 seen here name rest moving =>
    obtain ⟨first, plain⟩ := List.forall_mem_cons.mp plain
    exact ⟨named.snoc (first.isName moving), plain, known⟩
  | case7 seen here name rest moving down next target there met fuel inner looped ih =>
    obtain ⟨place, left, seen⟩ := ih (named.startOf target) (fun _ => isStep_of_mem)
      (known.cons next (by simp))
    refine ⟨place, ?_, seen⟩
    intro step member
    rcases List.mem_append.mp member with inside | behind
    · exact left step inside
    · exact (List.forall_mem_cons.mp plain).2 step behind
  | case8 seen here name rest moving down next target there met fuel inner looped _ ih outer =>
    obtain ⟨place, left, seen⟩ := ih (named.startOf target) (fun _ => isStep_of_mem)
      (known.cons next (by simp))
    refine outer place (List.forall_mem_cons.mp plain).2 (seen.cons next ?_)
    intro _ same
    cases same
    exact place
  | case9 fuel seen here name rest moving down next notLink ih =>
    obtain ⟨first, plain⟩ := List.forall_mem_cons.mp plain
    exact ih (named.snoc (first.isName moving)) plain known

namespace Disk
variable {d : Disk}

theorem resolve_named (here : d.here.Named) (path : String) : (d.resolve path).Named := by
  have found : (resolveSteps d.tree (d.tree.size + 1) [] (startOf d.here path) (stepsOf path)).Named :=
    resolveSteps_named (here.startOf path) (fun _ => isStep_of_mem)
      (fun _ none => absurd none List.not_mem_nil)
  exact found.place.appendNames found.left

theorem ofString_pathText {place : Place} (named : place.Named) :
    Path.ofString (pathText place) = ⟨"/", place⟩ := by
  have root : Path.rootOf (pathText place).toList = "/" := by
    have first := head?_intercalate named
    rw [pathText, String.toList_append]
    cases letters : ("/".intercalate place).toList with
    | nil => rfl
    | cons c rest =>
      rw [letters] at first
      simp_all [Path.rootOf]
  have names : Path.namesOf (pathText place).toList = place := by
    have kept : (place.filter fun step => step ≠ "" && step ≠ ".") = place := by
      refine List.filter_eq_self.mpr fun name member => ?_
      simp [(named name member).nonempty, (named name member).noPoint]
    rw [Path.namesOf_toList, pathText, stepsOf_slash, List.filter_cons_of_neg (by decide)]
    by_cases none : place = []
    · rw [none]
      rfl
    · rwa [stepsOf_intercalate none fun name member => (named name member).noSlash]
  rw [Path.ofString, root, names]

/-- A folder that was resolved is found under its resolved path. -/
theorem find_resolveFolder (here : d.here.Named) {path root : Path}
    (resolved : d.resolveFolder path = .ok root) :
    root.Clean ∧ ∃ entries, d.find root.toString = .ok (.folder entries) := by
  have named := resolve_named here path.toString
  have text : (⟨"/", d.resolve path.toString⟩ : Path).toString = pathText (d.resolve path.toString) :=
    Path.toString_of_root (by simp)
  rw [resolveFolder, ofString_pathText named] at resolved
  split at resolved
  · cases resolved
  · cases resolved
  · cases resolved
  · rename_i entries found
    cases resolved
    exact ⟨⟨Or.inr (Or.inl rfl), named⟩, entries, text ▸ found⟩
  · cases resolved

end Disk

end SourceCensus.Files
