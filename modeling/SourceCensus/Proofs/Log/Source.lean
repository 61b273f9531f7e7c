import SourceCensus.Proofs.Log.Journal

/-! Which records reach a journal. Names are put below the root by looking at their first letters only, so
   a name whose first part merely starts like the root's is left beside it, and its records are lost.
   So are those of a name that starts with a point, unless a source was asked for in between. -/
namespace SourceCensus.Log
open Files

def topmost (source : String) : List Char := source.toList.takeWhile (· != '.')

/-- A name that goes on where the root ends, with no point between. -/
def Overruns (name : String) : Prop := ∃ more, more ≠ [] ∧ topmost name = root.toList ++ more

theorem topmost_of_toList {source : String} {rest : List Char}
    (text : source.toList = root.toList ++ rest) :
    topmost source = root.toList ++ rest.takeWhile (· != '.') := by
  have plain : ∀ c ∈ root.toList, (c != '.') = true := List.all_eq_true.mp rfl
  rw [topmost, text, List.takeWhile_append_of_pos plain]

theorem startsWith_of_topmost {name : String} {more : List Char}
    (first : topmost name = root.toList ++ more) : name.startsWith root = true := by
  rw [String.startsWith_string_iff]
  refine (List.prefix_append _ more).trans ?_
  rw [← first]
  exact List.takeWhile_prefix _

theorem exists_points (text : String) :
    ∃ (count : Nat) (rest : String), text = String.ofList (List.replicate count '.') ++ rest ∧
      rest.startsWith "." = false := by
  let points := text.toList.takeWhile (· == '.')
  have same : points = List.replicate points.length '.' := by
    refine List.eq_replicate_of_mem fun c member => ?_
    simpa using List.mem_takeWhile_imp member
  refine ⟨points.length, String.ofList (text.toList.dropWhile (· == '.')), ?_, ?_⟩
  · rw [← same, ← String.ofList_append, List.takeWhile_append_dropWhile, String.ofList_toList]
  · rw [← Bool.not_eq_true, startsWith_point_iff, String.toList_ofList]
    intro first
    have other := List.head?_dropWhile_not (· == '.') text.toList
    simp [first] at other

theorem sourceName_parts (name : String) :
    ∃ (count : Nat) (rest : String), sourceName (some name) = pointed count ++ rest ∧
      rest.startsWith "." = false ∧ (Overruns name ↔ count = 0 ∧ rest ≠ "") := by
  by_cases starts : name.startsWith root = true
  · obtain ⟨behind, text⟩ := String.startsWith_string_iff.mp starts
    obtain ⟨count, rest, parts, plain⟩ := exists_points (String.ofList behind)
    have written : name = root ++ String.ofList behind := String.toList_injective (by simp [text])
    refine ⟨count, rest, ?_, plain, ?_⟩
    · rw [sourceName, if_pos starts, written, parts, pointed, String.append_assoc]
    · have letters : behind = List.replicate count '.' ++ rest.toList := by
        simpa using congrArg String.toList parts
      have first := topmost_of_toList text.symm
      simp only [Overruns, first, List.append_cancel_left_eq, exists_eq_right', letters]
      cases count with
      | succ count => simp [List.replicate_succ]
      | zero =>
        cases named : rest.toList with
        | nil => simp [String.toList_eq_nil_iff.mp named]
        | cons c more =>
          have letter : c ≠ '.' := by
            rintro rfl
            rw [← Bool.not_eq_true, startsWith_point_iff, named] at plain
            exact plain rfl
          have some : rest ≠ "" := by
            rintro rfl
            cases named
          simp [letter, some]
  · obtain ⟨count, rest, parts, plain⟩ := exists_points ("." ++ name)
    refine ⟨count, rest, ?_, plain, iff_of_false ?_ ?_⟩
    · rw [sourceName, if_neg starts, String.append_assoc, parts, pointed, String.append_assoc]
    · rintro ⟨more, -, same⟩
      exact starts (startsWith_of_topmost same)
    · rintro ⟨rfl, -⟩
      have point : rest.startsWith "." = true := by
        rw [startsWith_point_iff, show rest = "." ++ name by simpa using parts.symm]
        simp
      exact Bool.false_ne_true (plain.symm.trans point)

namespace Journal

def handed (j : Journal) (time : String) (r : Record) : List (Outlet × String) :=
  if j.keeps r then j.opened.map fun outlet => (outlet, lineOf time r) else []

theorem write_eq_foldl_handed (j : Journal) (d : Disk) (time : String) (r : Record) :
    j.write d time [r] = (j.handed time r).foldl (fun d (outlet, line) => outlet.receive d line) d := by
  rw [write_single, handed, emit]
  split
  · rw [List.foldl_map]
  · rfl

theorem handed_of_unheard (j : Journal) (time : String) {r : Record}
    (unheard : j.hears r.source = false) :
    j.handed time r = [] := by
  rw [handed, keeps, unheard, Bool.false_and]
  rfl

theorem setUp_opens (j : Journal) (d : Disk) (verbose quiet : Bool) (file : Setting) :
    let done := j.setUp d verbose quiet file
    .screen ∈ done.journal.opened ∧
      (done.fault = none → done.journal.threshold = (Level.chosen verbose quiet).number) := by
  intro done
  obtain ⟨fault, -, ended⟩ | ⟨-, ended⟩ | ⟨place, -, ended⟩ := j.setUp_cases d verbose quiet file <;>
    rw [show done = _ from ended]
  · exact ⟨by simp, nofun⟩
  · exact ⟨by simp, fun _ => rfl⟩
  · exact ⟨by simp, fun _ => rfl⟩

end Journal

namespace State
variable {s : State}

theorem Opened.nodup {d : Disk} {threshold : Nat} {outlets : List Outlet}
    (opened : Opened d threshold outlets) : outlets.Nodup := by
  cases opened <;> simp

/-- Each open outlet is handed the line of a record, and handed it once; open files have it then. -/
structure Delivers (s : State) (time : String) (record : Record) : Prop where
  once : ∀ outlet ∈ s.journal.opened,
    (s.journal.handed time record).count (outlet, Journal.lineOf time record) = 1
  grows : ∀ place ∈ s.journal.files,
    (s.after (.use (.emit time record))).disk.tree.bytesAt place =
      s.disk.tree.bytesAt place ++ (Journal.lineOf time record).toUTF8.toList

theorem Sound.delivers (sound : s.Sound) {record : Record} (kept : s.journal.keeps record = true)
    (time : String) : s.Delivers time record := by
  constructor
  · intro outlet opened
    -- No outlet is open twice, so none is handed the line twice.
    have apart : Function.Injective fun outlet : Outlet => (outlet, Journal.lineOf time record) :=
      fun _ _ => congrArg Prod.fst
    rw [Journal.handed, if_pos kept]
    exact List.count_eq_one_of_mem (sound.opened.nodup.map apart) (List.mem_map_of_mem opened)
  · intro place opened
    rw [bytesAt_after sound, linesFor, if_pos ⟨opened, kept⟩]
    simp

theorem keeps_of_unasked {record : Record} (heard : s.journal.hears record.source = true)
    (unasked : s.journal.verdicts.lookup (record.source, record.level) = none)
    (grave : s.journal.inForce ≤ record.level.number) : s.journal.keeps record = true := by
  rw [Journal.keeps, heard, Journal.allows, unasked, Option.getD_none, Journal.inForceFor, if_pos heard,
    decide_eq_true grave]
  rfl

/-- For any disk and any history with a setting up in it: a record of the level in force or above comes
    to every outlet that is open, once, if its name comes to stand at the root or behind a single point.
    If the name overruns the root, it comes to none. If several points come to stand behind the root,
    it comes to none unless these lead to the root. -/
theorem reaches_all_below_root (d : Disk) (before : List Event) (verbose quiet : Bool) (file : Setting)
    (uses : List Use) (name message time : String) (level : Level) :
    let found := (start d).run before
    let done := found.journal.setUp found.disk verbose quiet file
    let s := (start d).run (before ++ .setUp verbose quiet file :: uses.map .use)
    let record : Record := ⟨sourceName (some name), level, message⟩
    let handed := s.journal.handed time record
    .screen ∈ s.journal.opened ∧
      (done.fault = none → s.journal.inForce = (Level.chosen verbose quiet).number) ∧
      (s.after (.use (.emit time record))).disk =
        handed.foldl (fun d (outlet, line) => outlet.receive d line) s.disk ∧
      (Overruns name → handed = []) ∧
      (Belongs record.source → s.journal.inForce ≤ level.number → s.Delivers time record) ∧
      (¬ Overruns name → ¬ Belongs record.source → ∃ count rest, 2 ≤ count ∧
        record.source = pointed count ++ rest ∧ rest.startsWith "." = false ∧
        (climbs s.journal.sources count = false → handed = []) ∧
        (climbs s.journal.sources count = true →
          s.journal.verdicts.lookup (record.source, level) = none →
          s.journal.inForce ≤ level.number → s.Delivers time record)) := by
  intro found done s record handed
  have sound : s.Sound := (sound_start d).run _
  obtain ⟨opened, threshold⟩ : s.journal.opened = done.journal.opened ∧
      s.journal.threshold = done.journal.threshold := by
    rw [show s = _ from run_append _ _ _]
    exact journal_run_uses _ uses
  obtain ⟨screen, chosen⟩ := found.journal.setUp_opens found.disk verbose quiet file
  obtain ⟨count, rest, parts, plain, overruns⟩ := sourceName_parts name
  refine ⟨opened ▸ screen, ?level, s.journal.write_eq_foldl_handed s.disk time record, ?beside,
    fun belongs grave => sound.delivers ((sound.keeps_iff belongs).mpr grave) time, ?leaping⟩
  case level =>
    intro unfailed
    rw [Journal.inForce, threshold, chosen unfailed,
      if_neg (Nat.pos_iff_ne_zero.mp (Level.number_pos _))]
  case beside =>
    intro overrun
    obtain ⟨rfl, some⟩ := overruns.mp overrun
    refine s.journal.handed_of_unheard time ?_
    rw [show record.source = _ from parts, s.journal.hears_pointed plain (.inr some)]
    rfl
  case leaping =>
    intro within outside
    have none : count = 0 → rest = "" := by
      intro zero
      by_contra some
      exact within (overruns.mpr ⟨zero, some⟩)
    have two := two_le_of_not_belongs plain none (parts ▸ outside)
    have heard : s.journal.hears record.source = climbs s.journal.sources count := by
      rw [show record.source = _ from parts, s.journal.hears_pointed plain (.inl (by omega))]
    refine ⟨count, rest, two, parts, plain, ?_, ?_⟩
    · exact fun lost => s.journal.handed_of_unheard time (heard.trans lost)
    · exact fun climbs unasked grave =>
        sound.delivers (keeps_of_unasked (heard.trans climbs) unasked grave) time

def bare : Disk := ⟨.folder [], [], []⟩

def logName : Setting := .text "a.log"

theorem opened_bare : ((start bare).run [.setUp false false logName]).journal =
    ⟨[.screen, .file ["a.log"]], 30, false, [], []⟩ := by
  cbv

theorem belongs_core : Belongs (sourceName (some "core")) := .inr ⟨"core", by cbv, by cbv⟩

theorem reaches_all_below_root_core :
    let s := (start bare).run [.setUp false false logName]
    let record : Record := ⟨sourceName (some "core"), .warning, "odd"⟩
    s.journal.inForce ≤ record.level.number ∧ Belongs record.source ∧
      Outlet.file ["a.log"] ∈ s.journal.opened ∧ ["a.log"] ∈ s.journal.files ∧
      s.Delivers "now" record := by
  intro s record
  have journal : s.journal = _ := opened_bare
  have grave : s.journal.inForce ≤ record.level.number := by rw [journal]; decide
  have opened : Outlet.file ["a.log"] ∈ s.journal.opened := by rw [journal]; decide
  have file : ["a.log"] ∈ s.journal.files := by rw [journal]; decide
  obtain ⟨-, -, -, -, delivers, -⟩ :=
    reaches_all_below_root bare [] false false logName [] "core" "odd" "now" .warning
  exact ⟨grave, belongs_core, opened, file, delivers belongs_core grave⟩

theorem sourceName_resource_rankers :
    sourceName (some "resource_rankers") = pointed 0 ++ "s" := by cbv

/-- A name that only starts with the root's letters is not heard, however grave its records are. -/
theorem overrunning_name_unheard :
    let s := (start bare).run [.setUp false false logName]
    let source := sourceName (some "resource_rankers")
    s.journal.opened = [.screen, .file ["a.log"]] ∧ ¬ Belongs source ∧
      s.journal.handed "now" ⟨source, .critical, "lost"⟩ = [] := by
  intro s source
  have parts : source = pointed 0 ++ "s" := sourceName_resource_rankers
  have unheard (j : Journal) : j.hears source = false := by
    rw [parts, j.hears_pointed (by cbv) (.inr (by decide))]
    rfl
  refine ⟨?_, fun belongs => ?_, s.journal.handed_of_unheard "now" (unheard s.journal)⟩
  · rw [show s.journal = _ from opened_bare]
  · cases (unheard .silent).symm.trans (Journal.silent.hears_of_belongs belongs)

end State

end SourceCensus.Log
