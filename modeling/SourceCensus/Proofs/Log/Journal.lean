import SourceCensus.Proofs.Files.Write
import SourceCensus.Proofs.Log.Hierarchy

/-! Any history of setting up and logging. After each setting up the screen is open once and at most one
   file, the one that this setting up named, if it did not fail; the level is that of the last setting
   up that did not fail; and every file grows by the lines of the records that were kept while it was
   open, in their order. The three are told apart by what one event does and carried along the history. -/
namespace SourceCensus.Log
open Files

inductive Use
  | call (source : String)
  | emit (time : String) (record : Record)

inductive Event
  | setUp (verbose quiet : Bool) (file : Setting)
  | use (use : Use)

structure State where
  disk : Disk
  journal : Journal

namespace State

def start (d : Disk) : State := ⟨d, .silent⟩

def after (s : State) : Event → State
  | .setUp verbose quiet file =>
    let done := s.journal.setUp s.disk verbose quiet file
    ⟨done.disk, done.journal⟩
  | .use (.call source) => { s with journal := s.journal.call source }
  | .use (.emit time record) => ⟨s.journal.write s.disk time [record], s.journal.heed record⟩

def run (s : State) (events : List Event) : State := events.foldl after s

/-- What each event brings, told from the state that it finds, in the order of the events. -/
def along {α : Type} (brings : State → Event → List α) : State → List Event → List α
  | _, [] => []
  | s, event :: rest => brings s event ++ along brings (s.after event) rest

def levels (s : State) : Event → List Level
  | .setUp verbose quiet file =>
    match (s.journal.setUp s.disk verbose quiet file).fault with
    | none => [.chosen verbose quiet]
    | some _ => []
  | .use _ => []

/-- The line that a file is due: that of a record that is kept while the file is open. -/
def linesFor (place : Place) (s : State) : Event → List String
  | .use (.emit time record) =>
    if place ∈ s.journal.files ∧ s.journal.keeps record then [Journal.lineOf time record] else []
  | _ => []

/-- What can be open. A file is open only under a level that was set with it. -/
inductive Opened (d : Disk) (threshold : Nat) : List Outlet → Prop
  | silent : Opened d threshold []
  | screen : Opened d threshold [.screen]
  | file {place : Place} (writable : d.tree.Writable place) (levelled : 0 < threshold) :
      Opened d threshold [.screen, .file place]

/-- How a state can look. Sources that are always heard found out of each level what holds still. -/
structure Sound (s : State) : Prop where
  opened : Opened s.disk s.journal.threshold s.journal.opened
  settled : ∀ source level verdict, ((source, level), verdict) ∈ s.journal.verdicts →
    Belongs source → verdict = decide (s.journal.inForce ≤ level.number)

end State

theorem Level.number_pos (level : Level) : 0 < level.number := by
  cases level <;> simp [number]

namespace Journal
variable {j : Journal} {d : Disk}

theorem filePlace_eq_ok {file : Setting} {found : Option Place} (opened : filePlace d file = .ok found) :
    (file.isTrue = false ∧ found = none) ∨
      (file.isTrue = true ∧ ∃ place, found = some place ∧ d.tree.Writable place) := by
  unfold filePlace at opened
  cases filled : file.isTrue with
  | false =>
    rw [filled] at opened
    cases opened
    exact .inl ⟨rfl, rfl⟩
  | true =>
    refine .inr ⟨rfl, ?_⟩
    rw [filled] at opened
    cases file with
    | text path =>
      simp only [Bool.not_true, Bool.false_eq_true, if_false] at opened
      split at opened
      · cases opened
      split at opened
      · cases opened
      split at opened
      · rename_i place chosen
        cases opened
        exact ⟨place, rfl, Disk.writable_of_writablePlace chosen⟩
      · cases opened
    | _ => cases opened

theorem writable_of_filePlace {file : Setting} {place : Place}
    (opened : filePlace d file = .ok (some place)) : d.tree.Writable place := by
  rcases filePlace_eq_ok opened with ⟨-, none⟩ | ⟨-, place, found, writable⟩
  · cases none
  · cases found
    exact writable

/-- All that setting up can do: it fails with the screen open, or opens the screen alone, or the screen
   and the file that is named. -/
theorem setUp_cases (j : Journal) (d : Disk) (verbose quiet : Bool) (file : Setting) :
    (∃ fault, filePlace d file = .error fault ∧ j.setUp d verbose quiet file =
      ⟨d, { j with opened := [.screen] }, some fault⟩) ∨
    (filePlace d file = .ok none ∧ j.setUp d verbose quiet file =
      ⟨d, ⟨[.screen], (Level.chosen verbose quiet).number, false, j.sources, []⟩, none⟩) ∨
    (∃ place, filePlace d file = .ok (some place) ∧ j.setUp d verbose quiet file =
      ⟨d.touch place, ⟨[.screen, .file place], (Level.chosen verbose quiet).number, false,
        j.sources, []⟩, none⟩) := by
  rw [setUp]
  cases named : filePlace d file with
  | error fault => exact .inl ⟨fault, rfl, rfl⟩
  | ok found =>
    cases found with
    | none => exact .inr (.inl ⟨rfl, rfl⟩)
    | some place => exact .inr (.inr ⟨place, rfl, rfl⟩)

@[simp] theorem places_screen : [Outlet.screen].filterMap Outlet.place? = [] := rfl

@[simp] theorem places_file (place : Place) :
    [Outlet.screen, .file place].filterMap Outlet.place? = [place] := rfl

theorem files_of_opened {outlets : List Outlet} (opened : j.opened = outlets) :
    j.files = outlets.filterMap Outlet.place? := by
  rw [files, opened]

theorem write_single (time : String) (r : Record) :
    j.write d time [r] = if j.keeps r then j.emit d (lineOf time r) else d := by
  rw [write, kept, kept]
  by_cases keeps : j.keeps r <;> simp [keeps]

end Journal

namespace State
variable {s : State}

theorem sound_start (d : Disk) : (start d).Sound := ⟨.silent, nofun⟩

theorem Opened.receive {d : Disk} {threshold : Nat} {outlets : List Outlet}
    (opened : Opened d threshold outlets) (line : String) :
    Opened (outlets.foldl (fun d outlet => outlet.receive d line) d) threshold outlets := by
  cases opened with
  | silent => exact .silent
  | screen => exact .screen
  | file writable levelled => exact .file (Disk.writable_append writable line) levelled

theorem Sound.allows_of_belongs (sound : s.Sound) {r : Record} (belongs : Belongs r.source) :
    s.journal.allows r = decide (s.journal.inForce ≤ r.level.number) := by
  rw [Journal.allows]
  cases found : s.journal.verdicts.lookup (r.source, r.level) with
  | some verdict => exact sound.settled _ _ _ (mem_of_lookup found) belongs
  | none => rw [Option.getD_none, Journal.inForceFor, if_pos (s.journal.hears_of_belongs belongs)]

theorem Sound.inForce_of_files (sound : s.Sound) (some : s.journal.files ≠ []) :
    s.journal.inForce = s.journal.threshold := by
  have opened := sound.opened
  generalize outlets : s.journal.opened = listed at opened
  rw [Journal.files_of_opened outlets] at some
  cases opened with
  | silent => exact absurd rfl some
  | screen => exact absurd rfl some
  | file writable levelled => rw [Journal.inForce, if_neg (Nat.pos_iff_ne_zero.mp levelled)]

theorem Sound.keeps_iff (sound : s.Sound) {r : Record} (belongs : Belongs r.source) :
    s.journal.keeps r = true ↔ s.journal.inForce ≤ r.level.number := by
  rw [Journal.keeps, s.journal.hears_of_belongs belongs, Bool.true_and,
    sound.allows_of_belongs belongs, decide_eq_true_eq]

theorem Sound.after (sound : s.Sound) (event : Event) : (s.after event).Sound := by
  match event with
  | .setUp verbose quiet file =>
    rw [State.after]
    obtain ⟨fault, -, done⟩ | ⟨-, done⟩ | ⟨place, named, done⟩ :=
      s.journal.setUp_cases s.disk verbose quiet file <;> rw [done]
    · exact ⟨.screen, sound.settled⟩
    · exact ⟨.screen, nofun⟩
    · exact ⟨.file (Disk.writable_touch (Journal.writable_of_filePlace named)) (Level.number_pos _),
        nofun⟩
  | .use (.call source) => exact ⟨sound.opened, sound.settled⟩
  | .use (.emit time record) =>
    refine ⟨?_, ?_⟩
    · rw [State.after, Journal.write_single]
      split
      · exact sound.opened.receive _
      · exact sound.opened
    · intro source level verdict member belongs
      rcases List.mem_cons.mp member with new | old
      · obtain ⟨rfl, rfl⟩ := Prod.mk.inj (Prod.mk.inj new).1
        exact (Prod.mk.inj new).2.trans (sound.allows_of_belongs belongs)
      · exact sound.settled source level verdict old belongs

theorem threshold_after (s : State) (event : Event) : (s.after event).journal.threshold =
    ((s.levels event).getLast?.map Level.number).getD s.journal.threshold := by
  cases event with
  | setUp verbose quiet file =>
    rw [State.after, levels]
    obtain ⟨fault, -, done⟩ | ⟨-, done⟩ | ⟨place, -, done⟩ :=
      s.journal.setUp_cases s.disk verbose quiet file <;> rw [done] <;> rfl
  | use use => cases use <;> rfl

theorem bytesAt_after (sound : s.Sound) (event : Event) (place : Place) :
    (s.after event).disk.tree.bytesAt place = s.disk.tree.bytesAt place ++
      (linesFor place s event).flatMap fun line => line.toUTF8.toList := by
  -- Of the outlets that are open, the file alone takes lines.
  match event with
  | .setUp verbose quiet file =>
    rw [State.after]
    obtain ⟨fault, -, done⟩ | ⟨-, done⟩ | ⟨named, chosen, done⟩ :=
      s.journal.setUp_cases s.disk verbose quiet file <;> rw [done]
    · simp [linesFor]
    · simp [linesFor]
    · simp [linesFor, Disk.bytesAt_touch (Journal.writable_of_filePlace chosen)]
  | .use (.call source) => simp [State.after, linesFor]
  | .use (.emit time record) =>
    rw [State.after, Journal.write_single, linesFor]
    cases kept : s.journal.keeps record with
    | false => simp
    | true =>
      have opened := sound.opened
      generalize outlets : s.journal.opened = listed at opened
      rw [if_pos rfl, Journal.emit, Journal.files_of_opened outlets, outlets]
      cases opened with
      | silent => simp
      | screen => simp [Outlet.receive]
      | @file opened writable levelled =>
        -- The screen leaves the disk as it is, so the file takes the line from there.
        refine (Disk.bytesAt_append writable _ place).trans ?_
        by_cases here : place = opened <;> simp [here]

theorem Sound.run (sound : s.Sound) (events : List Event) : (s.run events).Sound := by
  induction events generalizing s with
  | nil => exact sound
  | cons event rest ih => exact ih (sound.after event)

theorem threshold_run (s : State) (events : List Event) : (s.run events).journal.threshold =
    ((along levels s events).getLast?.map Level.number).getD s.journal.threshold := by
  induction events generalizing s with
  | nil => rfl
  | cons event rest ih =>
    refine (ih (s.after event)).trans ?_
    rw [along, List.getLast?_append, threshold_after]
    cases (along levels (s.after event) rest).getLast? <;> rfl

theorem bytesAt_run (sound : s.Sound) (events : List Event) (place : Place) :
    (s.run events).disk.tree.bytesAt place = s.disk.tree.bytesAt place ++
      (along (linesFor place) s events).flatMap fun line => line.toUTF8.toList := by
  induction events generalizing s with
  | nil => simp [run, along]
  | cons event rest ih =>
    refine (ih (sound.after event)).trans ?_
    rw [along, List.flatMap_append, bytesAt_after sound, List.append_assoc]

theorem journal_run_uses (s : State) (uses : List Use) :
    (s.run (uses.map .use)).journal.opened = s.journal.opened ∧
      (s.run (uses.map .use)).journal.threshold = s.journal.threshold := by
  induction uses generalizing s with
  | nil => exact ⟨rfl, rfl⟩
  | cons first rest ih =>
    obtain ⟨opened, threshold⟩ := ih (s.after (.use first))
    cases first <;> exact ⟨opened, threshold⟩

theorem run_append (s : State) (before more : List Event) :
    s.run (before ++ more) = (s.run before).run more := List.foldl_append

end State

end SourceCensus.Log
