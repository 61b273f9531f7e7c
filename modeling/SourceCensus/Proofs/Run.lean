import Mathlib
import SourceCensus.Proofs.Census
import SourceCensus.Proofs.Fault
import SourceCensus.Proofs.Ranking
import SourceCensus.Run

/-! What a report says of a walk. The progress of a run agrees with the files visited so far, and every
   visit keeps it so; the report then ranks what the texts of the whole walk hold. -/
namespace SourceCensus.Run
open Encoding Files

/-- A text, or a complaint that sets the file aside. -/
def Readable (outcome : Except Fault (List Char)) : Prop :=
  (∃ text, outcome = .ok text) ∨
    ∃ c : Complaint, c.family = .fileAccess ∧ outcome = .error (.complaint c)

abbrev Visited := Path × Except Fault (List Char)

def texts (reads : List Visited) : List (List Char) := reads.filterMap fun read => read.2.toOption

def refusals (reads : List Visited) : List (String × String) :=
  reads.filterMap fun read =>
    match read.2 with
    | .error (.complaint c) => some (read.1.toString, c.reason)
    | _ => none

def notesOf (r : Run) : Visited → List Log.Record
  | (path, .ok text) =>
    note .debug ("Scanning " ++ path.toString) :: Census.notes r.scanner r.modes text
  | (path, .error (.complaint c)) => [note .warning s!"Skipping {path.toString}: {c.reason}"]
  | (_, .error _) => []

/-- Each file was read when those before it had been noted. -/
def ReadInTurn (r : Run) (read : List Log.Record → Path → Except Fault (List Char)) :
    List Log.Record → List Visited → Prop
  | _, [] => True
  | noted, (path, outcome) :: rest =>
    outcome = read noted path ∧ r.ReadInTurn read (noted ++ r.notesOf (path, outcome)) rest

variable {r : Run} {seen : List Visited} {path : Path} {p q next : Progress}

theorem readInTurn_const {read : Path → Except Fault (List Char)} {noted : List Log.Record}
    {reads : List Visited} :
    r.ReadInTurn (fun _ => read) noted reads ↔ ∀ visited ∈ reads, visited.2 = read visited.1 := by
  induction reads generalizing noted with
  | nil => simp [ReadInTurn]
  | cons first rest ih => rw [ReadInTurn, ih, List.forall_mem_cons]

theorem visit_eq_ok {outcome : Except Fault (List Char)} (went : r.visit p path outcome = .ok next) :
    (∃ text, outcome = .ok text ∧ next = p.take r path text) ∨
      ∃ c : Complaint, c.family = .fileAccess ∧ outcome = .error (.complaint c) ∧
        next = p.skip path c.reason := by
  unfold visit at went
  split at went
  · exact Or.inl ⟨_, rfl, (Except.ok.inj went).symm⟩
  · split at went
    · rename_i family
      exact Or.inr ⟨_, family, rfl, (Except.ok.inj went).symm⟩
    · cases went
  · cases went

theorem visit_readable {outcome : Except Fault (List Char)} (readable : Readable outcome)
    (r : Run) (p : Progress) (path : Path) : ∃ next, r.visit p path outcome = .ok next := by
  rcases readable with ⟨text, rfl⟩ | ⟨c, family, rfl⟩
  · exact ⟨_, rfl⟩
  · exact ⟨_, if_pos family⟩

theorem notes_visit {outcome : Except Fault (List Char)} (went : r.visit p path outcome = .ok next) :
    next.notes = p.notes ++ r.notesOf (path, outcome) := by
  rcases visit_eq_ok went with ⟨text, rfl, rfl⟩ | ⟨c, -, rfl, rfl⟩ <;> rfl

structure Agrees (r : Run) (seen : List Visited) (p : Progress) : Prop where
  census : p.census.Takes r.scanner r.modes (texts seen)
  scanned : p.scanned = (texts seen).length
  skipped : p.skipped = refusals seen
  readable : ∀ visited ∈ seen, Readable visited.2

theorem agrees_start (r : Run) : r.Agrees [] .start :=
  ⟨Census.takes_empty _ _, rfl, rfl, fun _ none => absurd none List.not_mem_nil⟩

theorem Agrees.visit {outcome : Except Fault (List Char)} (agrees : r.Agrees seen p)
    (went : r.visit p path outcome = .ok next) : r.Agrees (seen ++ [(path, outcome)]) next := by
  have readable (last : Readable outcome) :
      ∀ visited ∈ seen ++ [(path, outcome)], Readable visited.2 := by
    intro visited member
    rcases List.mem_append.mp member with before | here
    · exact agrees.readable visited before
    · rw [List.mem_singleton.mp here]
      exact last
  rcases visit_eq_ok went with ⟨text, rfl, rfl⟩ | ⟨c, family, rfl, rfl⟩
  · have longer : texts (seen ++ [(path, .ok text)]) = texts seen ++ [text] := by
      simp [texts, List.filterMap_append, Except.toOption]
    have same : refusals (seen ++ [(path, .ok text)]) = refusals seen := by
      simp [refusals, List.filterMap_append]
    constructor
    · rw [longer]
      exact agrees.census.scan text
    · rw [longer, List.length_append, ← agrees.scanned]
      rfl
    · rw [same]
      exact agrees.skipped
    · exact readable (Or.inl ⟨text, rfl⟩)
  · have same : texts (seen ++ [(path, .error (.complaint c))]) = texts seen := by
      simp [texts, List.filterMap_append, Except.toOption]
    have longer : refusals (seen ++ [(path, .error (.complaint c))]) =
        refusals seen ++ [(path.toString, c.reason)] := by
      simp [refusals, List.filterMap_append]
    constructor
    · rw [same]
      exact agrees.census
    · rw [same]
      exact agrees.scanned
    · rw [longer, ← agrees.skipped]
      rfl
    · exact readable (Or.inr ⟨c, family, rfl⟩)

variable {read : List Log.Record → Path → Except Fault (List Char)}

theorem Agrees.visitAll {met : List (Except Fault Path)} (agrees : r.Agrees seen p)
    (done : r.visitAll read p met = (q, none)) :
    ∃ reads : List Visited, met = reads.map (fun visited => .ok visited.1) ∧
      r.ReadInTurn read p.notes reads ∧ r.Agrees (seen ++ reads) q := by
  induction met generalizing seen p with
  | nil =>
    obtain ⟨rfl, -⟩ := Prod.mk.inj done
    exact ⟨[], rfl, trivial, by rwa [List.append_nil]⟩
  | cons first rest ih =>
    cases first with
    | error fault => cases done
    | ok path =>
      rw [Run.visitAll] at done
      split at done
      · rename_i next went
        obtain ⟨reads, rfl, inTurn, later⟩ := ih (agrees.visit went) done
        rw [notes_visit went] at inTurn
        exact ⟨(path, read p.notes path) :: reads, rfl, ⟨rfl, inTurn⟩, by rwa [List.append_cons]⟩
      · cases done

theorem visitAll_readable {paths : List Path}
    (readable : ∀ path ∈ paths, ∀ notes, Readable (read notes path)) (r : Run) (p : Progress) :
    ∃ q, r.visitAll read p (paths.map .ok) = (q, none) := by
  induction paths generalizing p with
  | nil => exact ⟨p, rfl⟩
  | cons path paths ih =>
    obtain ⟨next, went⟩ := visit_readable (readable path List.mem_cons_self p.notes) r p path
    obtain ⟨q, done⟩ := ih (fun other later => readable other (List.mem_cons_of_mem path later)) next
    refine ⟨q, ?_⟩
    rw [List.map_cons, visitAll, went]
    exact done

/-- What the report shows for a mode: a ranking if the mode is asked for, and nothing if it is not. -/
def Shows {α β : Type} [DecidableEq α] (r : Run) (mode : Mode) (stream : List α)
    (value : α → Int → Prop) (render : List (α × Int) → List β) (shown : List β) : Prop :=
  (mode ∈ r.modes → ∃ limit ranking, limitNumber r.limit = .ok limit ∧
    Ranks stream value limit ranking ∧ shown = render ranking) ∧
  (mode ∉ r.modes → shown = [])

theorem shows_rankedFor {α β : Type} [DecidableEq α] {mode : Mode} {tally : Tally α}
    {stream : List α} {value : α → Int → Prop} {entries : List (α × Int)}
    (made : r.rankedFor mode tally = .ok entries) (held : mode ∈ r.modes → tally.Holds stream value)
    (render : List (α × Int) → List β) (nothing : render [] = []) :
    r.Shows mode stream value render (render entries) := by
  unfold rankedFor at made
  constructor
  · intro asked
    rw [if_pos (List.contains_iff_mem.mpr asked)] at made
    obtain ⟨limit, number, ranked⟩ := bind_eq_ok made
    exact ⟨limit, entries, number, Except.ok.inj ranked ▸ (held asked).ranks limit, rfl⟩
  · intro unasked
    rw [if_neg (List.contains_iff_mem.not.mpr unasked)] at made
    rw [← Except.ok.inj made, nothing]

/-- What a report must say after a walk on which these files were read. -/
structure Faithful (r : Run) (reads : List Visited) (report : Report) : Prop where
  readable : ∀ visited ∈ reads, Readable visited.2
  colors : r.Shows .color ((texts reads).flatMap Color.keys)
    (Counted ((texts reads).flatMap Color.keys))
    (List.map fun (key, count) => (Key.text key, count)) report.colors
  numbers : r.Shows .num ((texts reads).flatMap MagicNumber.all)
    (Counted ((texts reads).flatMap MagicNumber.all))
    (List.map fun (key, count) => (Key.number key, count)) report.numbers
  classes : r.Shows .classes (((texts reads).flatMap r.scanner.sizes).map (·.1))
    (GivenLast ((texts reads).flatMap r.scanner.sizes))
    (List.map fun (key, size) => (Key.text key, size)) report.classes
  contrast : r.Shows .contrast ((texts reads).flatMap Color.keys)
    (Counted ((texts reads).flatMap Color.keys)) Color.rows report.contrast
  scanned : report.filesScanned = (texts reads).length
  skipped : report.skipped = refusals reads

theorem Faithful.contrast_of_colors {reads : List Visited} {report : Report}
    (faithful : r.Faithful reads report) (colors : .color ∈ r.modes) (contrast : .contrast ∈ r.modes) :
    ∃ ranking : List (String × Int),
      report.colors = ranking.map (fun (key, count) => (Key.text key, count)) ∧
        report.contrast = Color.rows ranking := by
  obtain ⟨limit, ranking, number, ranks, shown⟩ := faithful.colors.1 colors
  obtain ⟨other, compared, also, same, rows⟩ := faithful.contrast.1 contrast
  obtain rfl : limit = other := Except.ok.inj (number.symm.trans also)
  rw [same.unique ranks] at rows
  exact ⟨ranking, shown, rows⟩

theorem Agrees.report {root : Path} {notes : List Log.Record} {report : Report}
    (agrees : r.Agrees seen p) (made : r.report root p = .ok (notes, report)) :
    r.Faithful seen report := by
  obtain ⟨colors, colorsMade, made⟩ := bind_eq_ok made
  obtain ⟨numbers, numbersMade, made⟩ := bind_eq_ok made
  obtain ⟨classes, classesMade, made⟩ := bind_eq_ok made
  obtain ⟨compared, comparedMade, made⟩ := bind_eq_ok made
  obtain ⟨-, rfl⟩ := Prod.mk.inj (Except.ok.inj made)
  have forColor (asked : .color ∈ r.modes) : Census.wantsColors r.modes = true := by
    simp [Census.wantsColors, asked]
  have forContrast (asked : .contrast ∈ r.modes) : Census.wantsColors r.modes = true := by
    simp [Census.wantsColors, asked]
  constructor
  · exact agrees.readable
  · exact shows_rankedFor colorsMade (fun asked => agrees.census.colors (forColor asked)) _ rfl
  · exact shows_rankedFor numbersMade agrees.census.numbers _ rfl
  · exact shows_rankedFor classesMade agrees.census.classes _ rfl
  · exact shows_rankedFor comparedMade (fun asked => agrees.census.colors (forContrast asked)) _ rfl
  · exact congrArg Int.ofNat agrees.scanned
  · exact agrees.skipped

theorem rankedFor_eq_ok {α : Type} [DecidableEq α] {limit : Int}
    (number : limitNumber r.limit = .ok limit) (mode : Mode) (tally : Tally α) :
    ∃ entries, r.rankedFor mode tally = .ok entries := by
  unfold rankedFor
  split
  · rw [ranked, number]
    exact ⟨_, rfl⟩
  · exact ⟨[], rfl⟩

theorem report_eq_ok {limit : Int} (number : limitNumber r.limit = .ok limit) (root : Path)
    (p : Progress) : ∃ notes report, r.report root p = .ok (notes, report) := by
  obtain ⟨colors, colorsMade⟩ := rankedFor_eq_ok number .color p.census.colors
  obtain ⟨numbers, numbersMade⟩ := rankedFor_eq_ok number .num p.census.numbers
  obtain ⟨classes, classesMade⟩ := rankedFor_eq_ok number .classes p.census.classes
  obtain ⟨compared, comparedMade⟩ := rankedFor_eq_ok number .contrast p.census.colors
  rw [report, colorsMade, numbersMade, classesMade, comparedMade]
  exact ⟨_, _, rfl⟩

theorem faithful_of_conclude {root : Path} {met : List (Except Fault Path)} {report : Report}
    (returns : (r.conclude root (r.visitAll read .start met)).result = .ok report) :
    ∃ reads : List Visited, met = reads.map (fun visited => .ok visited.1) ∧
      r.ReadInTurn read [] reads ∧ r.Faithful reads report := by
  cases done : r.visitAll read .start met with
  | mk p fault =>
    rw [done] at returns
    cases fault with
    | some fault => cases returns
    | none =>
      obtain ⟨reads, walked, inTurn, agrees⟩ := (agrees_start r).visitAll done
      refine ⟨reads, walked, inTurn, ?_⟩
      cases made : r.report root p with
      | error fault =>
        simp only [conclude, made] at returns
        cases returns
      | ok result =>
        simp only [conclude, made] at returns
        cases returns
        exact agrees.report made

def twoFiles : Disk := ⟨.folder [("a.dart", .file [57, 32]), ("b.dart", .file [57, 32])], [], []⟩

def numberRun : Run where
  root := ⟨"/", []⟩
  modes := [.num]
  limit := .int 1
  settings := {
    extension := "dart"
    classPattern := ⟨"class", Pattern.literally "class"⟩
    stripLiterals := .bool true
    limit := .int 1
    verbosity := .normal
    logFile := .none
    excludePatterns := .list []
    followSymlinks := .bool false
    maxFileSize := .whole 1
    encoding := .text "utf-8" }

def firstAlone (path : Path) : Except Fault (List Char) :=
  if path.name = "a.dart" then .ok "f(7, 9 + 9)".toList else inaccessible path "OS error"

end SourceCensus.Run
