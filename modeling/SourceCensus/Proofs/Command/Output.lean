import SourceCensus.Command.Session
import SourceCensus.Proofs.Block.Declaration
import SourceCensus.Proofs.Fault
import SourceCensus.Proofs.Files.Locate

/-! What a call has printed when it comes to its end with a report. The report is the last thing printed;
   what stands before it depends on the number of words, the format and the verbosity, which is known
   only after everything that settings come from was read. -/
namespace SourceCensus.Command
open Encoding Files Log Settings

/-- What a call reads off its arguments and finds on its way. -/
structure Course where
  options : Options
  format : Format
  request : Request
  settings : Settings
  report : Report

namespace Course

def run (c : Course) : Run :=
  .of (Path.ofString c.request.root) (some c.request.modes) (Session.limitOf c.request) c.settings

def begun (c : Course) (around : Surroundings) : Session := ((Session.start around).setUp c.settings).1

def seen (c : Course) (around : Surroundings) (notes : List Record) : Disk :=
  (c.begun around).journal.write (c.begun around).disk around.time notes

def opening (c : Course) (around : Surroundings) : String :=
  let root := ((c.begun around).disk.absolute (Path.ofString c.request.root)).toString
  screenText around.width ("Opening directory: " ++ Session.escaped root ++ "\n").toList

/-- A call, asked neither for the version nor for help, takes this course up to its report. -/
structure Completes [CharacterNames] [Codecs] (c : Course) (around : Surroundings)
    (args : List String) : Prop where
  options : Options.readAll .empty none args = .ok c.options
  format : c.options.format = .ok c.format
  files : c.options.checkFiles around.disk = .ok ()
  noVersion : c.options.has .version = false
  noHelp : c.options.has .help = false ∧ Request.helpWord ∉ c.options.words
  request : Request.ofWords c.options.words = .ok c.request
  settings : (Session.start around).settings c.options = .ok c.settings
  logs : ((Session.start around).setUp c.settings).2 = none
  report : (c.run.outcomeSeeing (c.begun around).disk (c.seen around)).result = .ok c.report
  written : ∃ text, Session.reportText c.format around.width c.report = .ok text

def preamble (c : Course) (around : Surroundings) : String :=
  if c.format = .json then ""
  else (if c.request.showsIntro then introPanel around.width else "") ++
    if c.request.showsIntro ∨ c.settings.verbosity = .verbose then c.opening around else ""

end Course

theorem Request.ofWords_eq_ok {words : List String} {request : Request}
    (read : ofWords words = .ok request) :
    request.showsHelp = words.contains helpWord ∧ request.showsIntro = decide (words.length < 2) := by
  obtain ⟨defaults, -, read⟩ := bind_eq_ok read
  obtain ⟨limit, -, read⟩ := bind_eq_ok read
  cases read
  exact ⟨rfl, rfl⟩

theorem Format.ofFoldedName?_of_toLower {name : String} {format : Format}
    (spelled : name.toList.map Char.toLower = format.name.toList) :
    ofFoldedName? name = some format := by
  have folded : name.toList.map foldLetter = name.toList.map Char.toLower := by
    apply List.map_congr_left
    intro c member
    have other : c ≠ 'ſ' := by
      rintro rfl
      have lowered := List.mem_map_of_mem (f := Char.toLower) member
      rw [spelled] at lowered
      revert lowered
      cases format <;> decide
    simp [foldLetter, other]
  rw [ofFoldedName?, folded, spelled, String.ofList_toList]
  cases format <;> rfl

namespace Session
variable {s : Session} {format : Format} {request : Request} {settings : Settings}

theorem printed_announce (s : Session) (format : Format) (request : Request) (settings : Settings) :
    (s.announce format request settings).printed = s.printed ++
      if (request.showsIntro ∨ settings.verbosity = .verbose) ∧ format ≠ .json then
        screenText s.around.width ("Opening directory: " ++
          escaped (s.disk.absolute (Path.ofString request.root)).toString ++ "\n").toList
      else "" := by
  unfold announce
  by_cases told : (request.showsIntro ∨ settings.verbosity = .verbose) ∧ format ≠ .json
  · simp [told, print, write]
  · simp [told]

theorem around_announce (s : Session) (format : Format) (request : Request) (settings : Settings) :
    (s.announce format request settings).around = s.around ∧
      (s.announce format request settings).journal = s.journal := by
  unfold announce
  split <;> exact ⟨rfl, rfl⟩

theorem scan_eq [Codecs] (s : Session) (format : Format) (request : Request) (settings : Settings)
    {report : Report} {text : String}
    (made : ((Run.of (Path.ofString request.root) (some request.modes) (limitOf request)
      settings).outcomeSeeing s.disk fun notes =>
        s.journal.write s.disk s.around.time notes).result = .ok report)
    (written : reportText format s.around.width report = .ok text) :
    (s.scan format request settings).1.printed = s.printed ++ text ∧
      (s.scan format request settings).2 = .done 0 := by
  have rendered : (((Run.of (Path.ofString request.root) (some request.modes) (limitOf request)
      settings).outcomeSeeing s.disk fun notes =>
        s.journal.write s.disk s.around.time notes).result.bind
          (reportText format s.around.width)) = .ok text := by
    rw [made]
    exact written
  unfold scan
  simp only [note, rendered, write]
  trivial

end Session

namespace Course.Completes
variable [CharacterNames] [Codecs]
variable {c : Course} {around : Surroundings} {args : List String} {text : String}

theorem serve (completes : c.Completes around args)
    (written : Session.reportText c.format around.width c.report = .ok text) (before : String) :
    (((Session.start around).write before).serve c.options c.format c.request).1.printed = before ++
        (if (c.request.showsIntro ∨ c.settings.verbosity = .verbose) ∧ c.format ≠ .json then
          c.opening around else "") ++ text ∧
      (((Session.start around).write before).serve c.options c.format c.request).2 = .done 0 := by
  let s := ((Session.start around).setUp c.settings).1.write before
  have settings : ((Session.start around).write before).settings c.options = .ok c.settings :=
    completes.settings
  have logs : ((Session.start around).write before).setUp c.settings = (s, none) :=
    Prod.ext rfl completes.logs
  have served : ((Session.start around).write before).serve c.options c.format c.request =
      (s.announce c.format c.request c.settings).scan c.format c.request c.settings := by
    simp only [Session.serve, settings, logs]
  obtain ⟨same, journal⟩ := Session.around_announce s c.format c.request c.settings
  have scanned := (s.announce c.format c.request c.settings).scan_eq c.format c.request c.settings
    (by rw [Session.disk, same, journal]; exact completes.report)
    (by rw [same]; exact written)
  have start : s.printed = before := String.empty_append
  rw [served]
  refine ⟨?_, scanned.2⟩
  rw [scanned.1, Session.printed_announce, start]
  rfl

theorem call [HelpPage] (completes : c.Completes around args)
    (written : Session.reportText c.format around.width c.report = .ok text) :
    ((Session.start around).call args).1.printed = c.preamble around ++ text ∧
      ((Session.start around).call args).2 = .done 0 := by
  have noHelpWord : c.request.showsHelp = false := by
    rw [(Request.ofWords_eq_ok completes.request).1]
    simpa using completes.noHelp.2
  have answered : (Session.start around).call args =
      (Session.start around).answer c.options c.format := by
    simp [Session.call, completes.options, completes.format, Session.disk, Session.start,
      completes.files, completes.noHelp.1, completes.noVersion]
  have unwritten : (Session.start around).write "" = Session.start around := by
    simp [Session.write, Session.start]
  rw [answered]
  simp only [Session.answer, completes.request, noHelpWord]
  by_cases json : c.format = .json
  · have served := completes.serve written ""
    rw [unwritten] at served
    simpa [json, Course.preamble] using served
  · cases intro : c.request.showsIntro with
    | true =>
      have served := completes.serve written (introPanel around.width)
      simpa [json, intro, Course.preamble, Session.start] using served
    | false =>
      have served := completes.serve written ""
      rw [unwritten] at served
      simpa [json, intro, Course.preamble] using served

end Course.Completes

/-- A call that comes to its report prints a document and nothing else, however the format is spelled,
    however many words there are and whatever is to be logged. Plain text for two words or more is
    preceded by the lines that announce the root if everything is to be told, and by nothing if not. -/
theorem report_stands_alone [CharacterNames] [Codecs] [HelpPage] {c : Course} {around : Surroundings}
    {args : List String}
    (completes : c.Completes around args) :
    (∀ name format, c.options.value? .format = some name →
      name.toList.map Char.toLower = (Format.name format).toList → c.format = format) ∧
    (c.format = .json → ∃ document, c.report.documentText = .ok document ∧
      ((Session.start around).call args).1.printed = document ++ "\n" ∧
      ((Session.start around).call args).2.code = 0) ∧
    (c.format = .plain → 2 ≤ c.options.words.length →
      ((Session.start around).call args).1.printed =
          (if c.settings.verbosity = .verbose then c.opening around else "") ++ c.report.plainText ∧
        ((Session.start around).call args).2.code = 0) := by
  obtain ⟨text, written⟩ := completes.written
  obtain ⟨printed, ends⟩ := completes.call written
  have done : ((Session.start around).call args).2.code = 0 := by rw [ends]; rfl
  refine ⟨?_, ?_, ?_⟩
  · intro name format named spelled
    have meant := completes.format
    simp only [Options.format, named, Format.ofFoldedName?_of_toLower spelled] at meant
    exact (Except.ok.inj meant).symm
  · intro json
    rw [json, Session.reportText] at written
    cases made : c.report.documentText with
    | error fault =>
      rw [made] at written
      cases written
    | ok document =>
      rw [made] at written
      have whole : document ++ "\n" = text := Except.ok.inj written
      refine ⟨document, rfl, ?_, done⟩
      rw [printed, whole, Course.preamble, if_pos json, String.empty_append]
  · intro plain two
    rw [plain] at written
    have whole : c.report.plainText = text := Except.ok.inj written
    have noIntro : c.request.showsIntro = false := by
      rw [(Request.ofWords_eq_ok completes.request).2, decide_eq_false_iff_not]
      omega
    refine ⟨?_, done⟩
    rw [printed, whole]
    simp [Course.preamble, plain, noIntro]

def oneNumberSettings : Encoding.Bytes :=
  [109, 97, 120, 95, 102, 105, 108, 101, 95, 115, 105, 122, 101, 95, 109, 98, 32, 61, 32, 49, 10]

def oneNumber : Surroundings where
  disk := ⟨.folder [(projectFileName, .file oneNumberSettings),
    ("lib", .folder [("a.dart", .file [102, 40, 57, 32, 41])])], [], []⟩
  environment := [("RANKER_VERBOSITY", "verbose")]
  width := 80
  time := ""

def oneNumberCourse : Course where
  options := ⟨["lib"], [], [(.format, "Json")]⟩
  format := .json
  request := ⟨"lib", [.color, .num, .classes], none, false, true⟩
  settings := {
    extension := "dart"
    classPattern := ⟨Block.classPattern, Block.classNode⟩
    stripLiterals := .bool false
    limit := .int 10
    verbosity := .verbose
    logFile := .none
    excludePatterns := .list []
    followSymlinks := .bool false
    maxFileSize := .whole 1
    encoding := .text "utf-8" }
  report := ⟨"/lib", ["color", "num", "class"], .int 10, 1, [], [(.number 9, 1)], [], [], []⟩

theorem settings_oneNumber :
    (Session.start oneNumber).settings oneNumberCourse.options = .ok oneNumberCourse.settings := by
  have user : oneNumber.disk.find "/.resource-ranker.toml" = .error .missing :=
    (Disk.find_topmost rfl userFileName (by decide) (by decide)).1 rfl
  have project : oneNumber.disk.find "/resource-ranker.toml" = .ok (.file oneNumberSettings) :=
    (Disk.find_topmost rfl projectFileName (by decide) (by decide)).2 _ rfl rfl
  have content : fileContent oneNumber.disk "/resource-ranker.toml" =
      .ok [("max_file_size_mb", .int 1)] := by
    rw [fileContent, project]
    cbv
  have userPath : userFile oneNumber.disk = "/.resource-ranker.toml" := rfl
  have projectPath : projectFile oneNumber.disk = "/resource-ranker.toml" := rfl
  have sources : sourcesOn oneNumber.disk none oneNumber.environment [] =
      ⟨none, some ⟨"/resource-ranker.toml", .ok [("max_file_size_mb", .int 1)]⟩, .ok .absent,
        oneNumber.environment, []⟩ := by
    rw [sourcesOn, userPath, projectPath, foundAt, foundAt, user, project, content]
    rfl
  have asked : (Session.start oneNumber).settings oneNumberCourse.options =
      loadOn oneNumber.disk none oneNumber.environment [] := rfl
  rw [asked, loadOn, sources]
  simp only [userPath, projectPath, Disk.exists?, Disk.look, user, project]
  rfl

theorem report_stands_alone_oneNumber :
    oneNumberCourse.Completes oneNumber ["lib", "-f", "Json"] ∧
      ∃ document, oneNumberCourse.report.documentText = .ok document ∧
        ((Session.start oneNumber).call ["lib", "-f", "Json"]).1.printed = document ++ "\n" ∧
        ((Session.start oneNumber).call ["lib", "-f", "Json"]).2.code = 0 := by
  have completes : oneNumberCourse.Completes oneNumber ["lib", "-f", "Json"] := {
    options := by cbv
    format := rfl
    files := rfl
    noVersion := rfl
    noHelp := ⟨rfl, by decide⟩
    request := rfl
    settings := settings_oneNumber
    logs := rfl
    report := by cbv
    written := ⟨_, rfl⟩ }
  exact ⟨completes, (report_stands_alone completes).2.1 rfl⟩

end SourceCensus.Command
