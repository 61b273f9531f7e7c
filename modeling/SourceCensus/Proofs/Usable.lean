import SourceCensus.Proofs.Files.Resolve
import SourceCensus.Proofs.Files.Walk
import SourceCensus.Proofs.Run
import SourceCensus.Settings.Load

/-! What a run can end in besides a report. Each fault is followed back to the setting it comes from, or
   to a path that is too long to be looked at. -/
namespace SourceCensus
open Encoding

namespace Files
variable {d : Disk} {w : Wanted} {root path : Path} {fault : Fault}

theorem isExcluded_eq_error {items : List Setting} (failed : isExcluded path items = .error fault) :
    ∃ item ∈ items, globOf item = .error fault := by
  induction items with
  | nil => cases failed
  | cons item rest ih =>
    rcases bind_eq_error failed with refused | ⟨glob, -, failed⟩
    · exact ⟨item, List.mem_cons_self, refused⟩
    · split at failed
      · cases failed
      · obtain ⟨other, later, refused⟩ := ih failed
        exact ⟨other, List.mem_cons_of_mem item later, refused⟩

theorem isWanted_eq_error (failed : d.isWanted w root path = .error fault) :
    patternsOf w.exclude = .error fault ∨
    (∃ items, patternsOf w.exclude = .ok items ∧ ∃ item ∈ items, globOf item = .error fault) ∨
    d.look path.toString = .error fault := by
  rw [Disk.isWanted] at failed
  split at failed
  · cases failed
  · rcases bind_eq_error failed with excluded | ⟨excluded, -, failed⟩
    · rcases bind_eq_error excluded with offered | ⟨items, offered, excluded⟩
      · exact Or.inl offered
      · exact Or.inr (Or.inl ⟨items, offered, isExcluded_eq_error excluded⟩)
    · split at failed
      · cases failed
      · exact Or.inr (Or.inr (map_eq_error failed))

theorem error_mem_walkFrom {depth : Nat} {above : List String}
    (met : .error fault ∈ d.walkFrom w root depth (root.beneath above)) :
    ∃ names, d.isWanted w root (root.beneath names) = .error fault := by
  induction depth generalizing above with
  | zero => cases met
  | succ depth ih =>
    rw [Disk.walkFrom] at met
    split at met
    · simp only [Path.child_beneath] at met
      rcases List.mem_append.mp met with here | below
      · obtain ⟨path, member, found⟩ := List.mem_filterMap.mp here
        obtain ⟨entry, -, rfl⟩ := List.mem_map.mp member
        split at found
        · cases found
        · cases found
        · cases found
          exact ⟨above ++ [entry.1], ‹_›⟩
      · obtain ⟨entry, -, below⟩ := List.mem_flatMap.mp below
        exact ih below
    · cases met

end Files

namespace Run
open Files

/-- What the fault of a run over a folder comes from: a setting that cannot be used, or a path below
    the folder that is too long to be looked at. An encoding may have a name that cannot be looked up, ask
    for a mark that a file does not have, or come from outside with a decoder that gives up on a file. -/
inductive Blames [Codecs] (r : Run) (d : Disk) (see : List Log.Record → Disk) (root : Path) :
    Fault → Prop
  | limit {fault : Fault} (number : limitNumber r.limit = .error fault) : Blames r d see root fault
  | size {count : Float} {fault : Fault} (real : r.settings.maxFileSize = .real count)
      (bytes : r.settings.maxBytes = .error fault) : Blames r d see root fault
  | patterns {fault : Fault} (offered : patternsOf r.settings.excludePatterns = .error fault) :
      Blames r d see root fault
  | glob {fault : Fault} {items : List Setting} {item : Setting}
      (offered : patternsOf r.settings.excludePatterns = .ok items) (among : item ∈ items)
      (refused : globOf item = .error fault) : Blames r d see root fault
  | encoding {fault : Fault} (named : encodingName r.settings.encoding = .error fault) :
      Blames r d see root fault
  | orderMark {name words : String} {encoding : Encoding} {notes : List Log.Record} {path : Path}
      {bytes : Bytes} (named : encodingName r.settings.encoding = .ok name)
      (known : ofName? name = some encoding) (marked : encoding = .utf16 ∨ encoding = .utf32)
      (held : (see notes).find path.toString = .ok (.file bytes))
      (stopped : decode encoding .replace bytes = .error (.stopped words)) :
      Blames r d see root (.undecoded words)
  | decoder {name words : String} {decode : Handling → Bytes → Except Failure (List Char)}
      {notes : List Log.Record} {path : Path} {bytes : Bytes}
      (named : encodingName r.settings.encoding = .ok name) (other : ofName? name = none)
      (known : Codecs.find (plainName name) = .text decode)
      (held : (see notes).find path.toString = .ok (.file bytes))
      (stopped : decode .replace bytes = .error (.stopped words)) :
      Blames r d see root (.undecoded words)
  | tooLong {names : List String}
      (looked : d.find (root.beneath names).toString = .error .nameTooLong) :
      Blames r d see root (.refused .nameTooLong (root.beneath names).toString)

variable {r : Run} {d : Disk} {see : List Log.Record → Disk} {root path : Path} {fault : Fault}

theorem blames_of_walk [Codecs] {entries : List (String × Tree)}
    (found : d.find root.toString = .ok (.folder entries))
    (met : .error fault ∈ d.walk r.wanted root) : Blames r d see root fault := by
  rw [walk_eq_walkFrom found] at met
  obtain ⟨names, failed⟩ := error_mem_walkFrom met
  rcases isWanted_eq_error failed with offered | ⟨items, offered, item, among, refused⟩ | looked
  · exact .patterns offered
  · exact .glob offered among refused
  · obtain ⟨tooLong, rfl⟩ := Disk.look_eq_error looked
    exact .tooLong tooLong

theorem decodeFrom_replace (codec : String) (next : Bytes → Piece) (fuel place : Nat) (bytes : Bytes) :
    ∃ text, decodeFrom codec .replace next fuel place bytes = .ok text := by
  induction fuel generalizing place bytes with
  | zero => exact ⟨[], rfl⟩
  | succ fuel ih =>
    cases bytes with
    | nil => exact ⟨[], rfl⟩
    | cons byte rest =>
      obtain ⟨text, decoded⟩ := ih (place + (next (byte :: rest)).width)
        ((byte :: rest).drop (next (byte :: rest)).width)
      simp only [decodeFrom, decoded]
      cases next (byte :: rest) with
      | char c width => exact ⟨c :: text, rfl⟩
      | flaw flaw width => exact ⟨replacement :: text, rfl⟩

theorem decodeAll_replace_ne {codec : String} {next : Bytes → Piece} {place : Nat} {bytes : Bytes}
    {failure : Failure} : decodeAll codec .replace next place bytes ≠ .error failure := by
  intro failed
  obtain ⟨text, decoded⟩ := decodeFrom_replace codec next bytes.length place bytes
  cases decoded.symm.trans failed

theorem decodeOrdered_replace {name : String} {width : Nat} {next : Bool → Bytes → Piece} {bytes : Bytes}
    {failure : Failure} (failed : decodeOrdered name width next .replace bytes = .error failure) :
    ∃ words, failure = .stopped words := by
  unfold decodeOrdered at failed
  simp only at failed
  split at failed
  · exact absurd failed decodeAll_replace_ne
  · split at failed
    · exact absurd failed decodeAll_replace_ne
    · split at failed
      · exact absurd ‹_› decodeAll_replace_ne
      · split at failed
        · cases failed
        · exact ⟨_, (Except.error.inj failed).symm⟩

/-- Of the decoders written out here, only those that want a mark stop at what they cannot read when they
    are to mend it. -/
theorem decode_replace {encoding : Encoding} {bytes : Bytes} {failure : Failure}
    (failed : decode encoding .replace bytes = .error failure) :
    (encoding = .utf16 ∨ encoding = .utf32) ∧ ∃ words, failure = .stopped words := by
  cases encoding with
  | utf16 => exact ⟨.inl rfl, decodeOrdered_replace failed⟩
  | utf32 => exact ⟨.inr rfl, decodeOrdered_replace failed⟩
  | utf8Marked =>
    rw [decode, decodeMarked] at failed
    split at failed
    · cases failed
    · exact absurd failed decodeAll_replace_ne
  | _ => exact absurd failed decodeAll_replace_ne

theorem real_of_maxBytes {s : Settings} (failed : s.maxBytes = .error fault) :
    ∃ count, s.maxFileSize = .real count := by
  rw [Settings.maxBytes] at failed
  cases size : s.maxFileSize with
  | real count => exact ⟨count, rfl⟩
  | whole count | truth value =>
    rw [size] at failed
    cases failed

theorem fileAccess_of_inaccessible {α : Type} {reason : String}
    (refused : inaccessible path reason = (.error fault : Except Fault α)) :
    ∃ c : Complaint, c.family = .fileAccess ∧ fault = .complaint c := by
  cases refused
  exact ⟨_, rfl, rfl⟩

theorem fileAccess_of_open? (refused : d.open? path = .error fault) :
    ∃ c : Complaint, c.family = .fileAccess ∧ fault = .complaint c := by
  rw [Disk.open?] at refused
  split at refused
  · cases refused
  · exact fileAccess_of_inaccessible refused

theorem decodedText_eq_error {decoded : Except Failure (List Char)}
    (failed : decodedText path decoded = .error fault) :
    (∃ c : Complaint, c.family = .fileAccess ∧ fault = .complaint c) ∨
      ∃ words, decoded = .error (.stopped words) ∧ fault = .undecoded words := by
  unfold decodedText at failed
  split at failed
  · cases failed
  · cases failed
    exact Or.inr ⟨_, rfl, rfl⟩
  · exact Or.inl (fileAccess_of_inaccessible failed)

theorem file_of_open? {bytes : Bytes} (opened : d.open? path = .ok (.file bytes)) :
    d.find path.toString = .ok (.file bytes) := by
  rw [Disk.open?] at opened
  split at opened
  · cases opened
    assumption
  · cases opened

theorem blames_of_read [Codecs] {notes : List Log.Record}
    (failed : r.readText (see notes) path = .error fault) :
    (∃ c : Complaint, c.family = .fileAccess ∧ fault = .complaint c) ∨ Blames r d see root fault := by
  rcases bind_eq_error failed with bytes | ⟨most, -, failed⟩
  · obtain ⟨count, real⟩ := real_of_maxBytes bytes
    exact Or.inr (.size real bytes)
  rcases bind_eq_error failed with unopened | ⟨t, -, failed⟩
  · exact Or.inl (fileAccess_of_open? unopened)
  rcases bind_eq_error failed with tooLarge | ⟨_, -, failed⟩
  · rw [Files.checkSize] at tooLarge
    split at tooLarge
    · exact Or.inl (fileAccess_of_inaccessible tooLarge)
    · cases tooLarge
  rcases bind_eq_error failed with named | ⟨name, named, failed⟩
  · exact Or.inr (.encoding named)
  rcases bind_eq_error failed with unopened | ⟨t, opened, failed⟩
  · exact Or.inl (fileAccess_of_open? unopened)
  split at failed
  · have held := file_of_open? opened
    split at failed
    · rename_i decode known
      refine (decodedText_eq_error failed).imp_right ?_
      rintro ⟨words, stopped, rfl⟩
      rw [codec] at known
      split at known
      · rename_i encoding written
        cases known
        exact .orderMark named written (decode_replace stopped).1 held stopped
      · exact .decoder named ‹_› known held stopped
    · exact Or.inl (fileAccess_of_inaccessible failed)
    · exact Or.inl (fileAccess_of_inaccessible failed)
  · exact Or.inl (fileAccess_of_inaccessible failed)

theorem visit_eq_error {p : Progress} {outcome : Except Fault (List Char)}
    (failed : r.visit p path outcome = .error fault) :
    outcome = .error fault ∧ ∀ c : Complaint, fault = .complaint c → c.family ≠ .fileAccess := by
  unfold visit at failed
  split at failed
  · cases failed
  · split at failed
    · cases failed
    · rename_i c other
      obtain rfl := Except.error.inj failed
      exact ⟨rfl, fun _ same => Fault.complaint.inj same ▸ other⟩
  · rename_i other
    obtain rfl := Except.error.inj failed
    exact ⟨rfl, fun c same => absurd same (other c)⟩

theorem blames_of_visitAll [Codecs] {met : List (Except Fault Path)} {p q : Progress}
    (faults : ∀ fault, .error fault ∈ met → Blames r d see root fault)
    (failed : r.visitAll (fun notes => r.readText (see notes)) p met = (q, some fault)) :
    Blames r d see root fault := by
  induction met generalizing p with
  | nil => cases failed
  | cons first rest ih =>
    cases first with
    | error other =>
      cases failed
      exact faults _ List.mem_cons_self
    | ok path =>
      rw [visitAll] at failed
      split at failed
      · exact ih (fun fault later => faults fault (List.mem_cons_of_mem _ later)) failed
      · rename_i other refused
        cases failed
        obtain ⟨unread, family⟩ := visit_eq_error refused
        rcases blames_of_read unread with ⟨c, aside, rfl⟩ | blames
        · exact absurd aside (family c rfl)
        · exact blames

theorem limit_of_rankedFor {α : Type} [DecidableEq α] {mode : Mode} {tally : Tally α}
    (failed : r.rankedFor mode tally = .error fault) : limitNumber r.limit = .error fault := by
  unfold rankedFor at failed
  split at failed
  · rcases bind_eq_error failed with number | ⟨limit, -, done⟩
    · exact number
    · cases done
  · cases failed

theorem limit_of_report {p : Progress} (failed : r.report root p = .error fault) :
    limitNumber r.limit = .error fault := by
  rcases bind_eq_error failed with colors | ⟨_, -, failed⟩
  · exact limit_of_rankedFor colors
  rcases bind_eq_error failed with numbers | ⟨_, -, failed⟩
  · exact limit_of_rankedFor numbers
  rcases bind_eq_error failed with classes | ⟨_, -, failed⟩
  · exact limit_of_rankedFor classes
  rcases bind_eq_error failed with compared | ⟨_, -, done⟩
  · exact limit_of_rankedFor compared
  · cases done

theorem blames_of_conclude [Codecs] {met : List (Except Fault Path)}
    (faults : ∀ fault, .error fault ∈ met → Blames r d see root fault)
    (failed : (r.conclude root
      (r.visitAll (fun notes => r.readText (see notes)) .start met)).result = .error fault) :
    Blames r d see root fault := by
  cases done : r.visitAll (fun notes => r.readText (see notes)) .start met with
  | mk p ended =>
    rw [done] at failed
    cases ended with
    | some other =>
      cases failed
      exact blames_of_visitAll faults done
    | none =>
      cases made : r.report root p with
      | ok result =>
        simp only [conclude, made] at failed
        cases failed
      | error other =>
        simp only [conclude, made] at failed
        cases failed
        exact .limit (limit_of_report made)

def emptyPattern : Settings.Layer :=
  [("class_pattern", .text "class"), ("max_file_size_mb", .int 1),
    ("exclude_patterns", .list [.text ""])]

def oneFile : Disk := ⟨.folder [("a.dart", .file [])], [], []⟩

end Run

end SourceCensus
