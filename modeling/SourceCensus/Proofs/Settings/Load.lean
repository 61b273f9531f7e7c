import SourceCensus.Proofs.Settings.Basic
import SourceCensus.Settings.Load

/-! Which source a setting is taken from. A value is what the highest source that has one says, lists
   included; what lies under it is as good as not there. -/
namespace SourceCensus.Settings
open Layer

/-- What a variable says about a setting. Lists are no affair of variables. -/
def said (environment : Environment) (field : Field) : Option Setting :=
  (environment.lookup field.variable).bind fun text =>
    match field.shape.read text with
    | .ok value => value
    | .error _ => none

def Legible (environment : Environment) : Prop :=
  ∀ field text, environment.lookup (Field.variable field) = some text →
    ∃ value, field.shape.read text = .ok value

def saidOf (environment : Environment) (fields : List Field) : Layer :=
  fields.filterMap fun field => (said environment field).map (field.name, ·)

theorem environmentLayer_eq {environment : Environment} (legible : Legible environment)
    (fields : List Field) :
    environmentLayer environment fields = .ok (saidOf environment fields) := by
  induction fields with
  | nil => rfl
  | cons field rest ih =>
    rw [environmentLayer, saidOf, List.filterMap_cons, said]
    cases set : environment.lookup field.variable with
    | none => exact ih
    | some text =>
      obtain ⟨value, read⟩ := legible field text set
      simp only [read, Option.bind_some]
      cases value with
      | none => exact ih
      | some value => rw [ih]; rfl

theorem mem_saidOf {environment : Environment} {fields : List Field} {entry : String × Setting}
    (member : entry ∈ saidOf environment fields) : ∃ field ∈ fields, field.name = entry.1 := by
  obtain ⟨field, listed, made⟩ := List.mem_filterMap.mp member
  obtain ⟨value, -, rfl⟩ := Option.map_eq_some_iff.mp made
  exact ⟨field, listed, rfl⟩

theorem lookup_saidOf (environment : Environment) (fields : List Field) (field : Field) :
    (saidOf environment fields).lookup field.name =
      if field ∈ fields then said environment field else none := by
  induction fields with
  | nil => rfl
  | cons first rest ih =>
    rw [saidOf] at ih ⊢
    rw [List.filterMap_cons]
    have names : field.name = first.name ↔ field = first := Field.name_injective.eq_iff
    cases value : said environment first with
    | none => simp only [Option.map_none, ih]; grind
    | some value => simp only [Option.map_some, Layer.lookup_cons, ih]; grind

theorem dictionary_saidOf (environment : Environment) {fields : List Field} (once : fields.Nodup) :
    Dictionary (saidOf environment fields) := by
  induction fields with
  | nil => exact List.nodup_nil
  | cons first rest ih =>
    obtain ⟨absent, later⟩ := List.nodup_cons.mp once
    rw [saidOf, List.filterMap_cons]
    cases value : said environment first with
    | none => exact ih later
    | some value =>
      have alone : (saidOf environment rest).lookup first.name = none := by
        rw [lookup_saidOf, if_neg absent]
      exact dictionary_cons.mpr ⟨alone, ih later⟩

def raised (direct : Layer) (flag : String) : Bool := (direct.lookup flag).any Setting.isTrue

def isFlag (name : String) : Bool := name = "quiet" || name = "verbose"

def overriding (direct : Layer) (field : Field) : Option Setting :=
  if field = .verbosity ∧ raised direct "quiet" then some (.text "quiet")
  else if field = .verbosity ∧ raised direct "verbose" then some (.text "verbose")
  else (direct.lookup field.name).filter isGiven

theorem applyFlag_eq (flag : String) (layer : Layer) :
    applyFlag flag layer =
      (if raised layer flag then Layer.put Field.verbosity.name (.text flag) layer else layer).filter
        fun entry => entry.1 ≠ flag := by
  rw [applyFlag, raised]
  cases given : layer.lookup flag with
  | some value => rfl
  | none =>
    have absent : ∀ entry ∈ layer, entry.1 ≠ flag := fun entry member same => by
      simpa [same] using List.lookup_eq_none_iff.mp given entry member
    exact (List.filter_eq_self.mpr fun entry member => decide_eq_true (absent entry member)).symm

theorem lookup_applyFlag (flag key : String) (layer : Layer) :
    (applyFlag flag layer).lookup key =
      if key = flag then none
      else if key = Field.verbosity.name ∧ raised layer flag then some (.text flag)
      else layer.lookup key := by
  rw [applyFlag_eq, lookup_filter_name]
  by_cases up : raised layer flag
  · rw [if_pos up, lookup_put]
    grind
  · rw [if_neg up]
    grind

theorem Layer.Dictionary.applyFlag {layer : Layer} (once : Dictionary layer) (flag : String) :
    Dictionary (applyFlag flag layer) := by
  rw [applyFlag_eq]
  split
  · exact (once.put _ _).filter _
  · exact once.filter _

theorem Layer.Dictionary.directLayer {direct : Layer} (once : Dictionary direct) :
    Dictionary (directLayer direct) :=
  ((once.applyFlag "verbose").applyFlag "quiet").filter _

theorem lookup_directLayer {direct : Layer} (once : Dictionary direct) (field : Field) :
    (directLayer direct).lookup field.name = overriding direct field := by
  have quiet : field.name ≠ "quiet" := by cases field <;> decide
  have verbose : field.name ≠ "verbose" := by cases field <;> decide
  have verbosity : field.name = Field.verbosity.name ↔ field = .verbosity :=
    Field.name_injective.eq_iff
  -- quiet is looked at last, and what verbose has changed by then is another entry
  have untouched : raised (applyFlag "verbose" direct) "quiet" = raised direct "quiet" := by
    have other : "quiet" ≠ Field.verbosity.name := by decide
    rw [raised, raised, lookup_applyFlag, if_neg (by decide), if_neg fun both => other both.1]
  rw [directLayer, ((once.applyFlag "verbose").applyFlag "quiet").lookup_filter isGiven,
    lookup_applyFlag, lookup_applyFlag, untouched, if_neg quiet, if_neg verbose, overriding]
  simp only [verbosity]
  split
  · rfl
  · split <;> rfl

theorem stranger?_applyFlag (flag : String) (keep : String × Setting → Bool) (layer : Layer) :
    Layer.stranger? ((applyFlag flag layer).filter keep) =
      Layer.stranger? (layer.filter fun entry => keep entry && entry.1 ≠ flag) := by
  rw [applyFlag_eq, List.filter_filter]
  split
  · exact stranger?_filter_put (Field.ofName?_name .verbosity) _ _ layer
  · rfl

theorem stranger?_directLayer (direct : Layer) :
    (directLayer direct).stranger? =
      Layer.stranger? (direct.filter fun entry => isGiven entry.2 && !isFlag entry.1) := by
  rw [directLayer, stranger?_applyFlag, stranger?_applyFlag]
  congr 2
  funext entry
  simp [isFlag, Bool.and_assoc]

def members (file : Option Found) : Layer :=
  (file.bind fun file => file.content.toOption).getD []

def Found.Parses (file : Found) : Prop :=
  ∃ layer, file.content = .ok layer ∧ Dictionary layer

theorem optionalLayer_eq (role : String) {file : Option Found} (parses : ∀ f ∈ file, f.Parses) :
    optionalLayer role file = .ok (members file) := by
  cases file with
  | none => rfl
  | some file =>
    obtain ⟨layer, read, -⟩ := parses file rfl
    simp [optionalLayer, Found.layer, members, read, Except.toOption]

theorem dictionary_members {file : Option Found} (parses : ∀ f ∈ file, f.Parses) :
    Dictionary (members file) := by
  cases file with
  | none => exact List.nodup_nil
  | some file =>
    obtain ⟨layer, read, once⟩ := parses file rfl
    simpa [members, read, Except.toOption] using once

namespace Sources

def named? (s : Sources) : Option Found :=
  match s.named with
  | .ok (.found file) => some file
  | _ => none

/-- Each file that is there can be read, and so can each variable that is set. -/
structure Readable (s : Sources) : Prop where
  user : ∀ file ∈ s.user, file.Parses
  project : ∀ file ∈ s.project, file.Parses
  named : s.named = .ok .absent ∨ ∃ file : Found, s.named = .ok (.found file) ∧ file.Parses
  environment : Legible s.environment
  direct : Dictionary s.direct

/-- The value of a setting in the highest source that has one. -/
def chosen (s : Sources) (field : Field) : Setting :=
  (overriding s.direct field <|>
    said s.environment field <|>
    (members s.named?).lookup field.name <|>
    (members s.project).lookup field.name <|>
    (members s.user).lookup field.name).getD field.default

/-- What is given under names that callers and files may choose, from the lowest source to the
    highest. -/
def given (s : Sources) : Layer :=
  members s.user ++ members s.project ++ members s.named? ++
    s.direct.filter fun entry => isGiven entry.2 && !isFlag entry.1

def Known (s : Sources) : Prop := ∀ entry ∈ s.given, ∃ field : Field, field.name = entry.1

def stack (s : Sources) : Layer :=
  [members s.user, members s.project, members s.named?, saidOf s.environment Field.all,
    directLayer s.direct].foldl Layer.under []

theorem Readable.named? {s : Sources} (readable : s.Readable) : ∀ file ∈ s.named?, file.Parses := by
  rcases readable.named with absent | ⟨file, found, parses⟩
  · simp [Sources.named?, absent]
  · simpa [Sources.named?, found] using parses

theorem Readable.named_layer {s : Sources} (readable : s.Readable) :
    (s.named >>= Named.layer) = .ok (members s.named?) := by
  rcases readable.named with absent | ⟨file, found, layer, read, -⟩
  · rw [Sources.named?, absent]
    rfl
  · rw [Sources.named?, found]
    simp [Named.layer, Found.layer, members, read, Except.toOption, bind, Except.bind]

theorem Readable.merged {s : Sources} (readable : s.Readable) : merged s = .ok s.stack := by
  have named := readable.named_layer
  rw [Settings.merged, optionalLayer_eq _ readable.user, optionalLayer_eq _ readable.project,
    environmentLayer_eq readable.environment]
  cases found : s.named with
  | error fault => rw [found] at named; cases named
  | ok found' =>
    rw [found] at named
    change found'.layer = _ at named
    simp only [bind, Except.bind, named]
    rfl

theorem Readable.valueOf_stack {s : Sources} (readable : s.Readable) :
    s.stack.valueOf = s.chosen := by
  funext field
  have settings : Field.all.Nodup := by decide
  simp only [Layer.valueOf, chosen, stack, List.foldl_cons, List.foldl_nil,
    lookup_under _ readable.direct.directLayer, lookup_directLayer readable.direct,
    lookup_under _ (dictionary_saidOf s.environment settings), lookup_saidOf,
    lookup_under _ (dictionary_members readable.named?),
    lookup_under _ (dictionary_members readable.project),
    lookup_under _ (dictionary_members readable.user), if_pos (Field.mem_all field),
    Option.orElse_eq_orElse, Option.orElse_eq_or, List.lookup_nil, Option.or_none]

theorem stranger?_saidOf (environment : Environment) (fields : List Field) :
    (saidOf environment fields).stranger? = none :=
  stranger?_eq_none.mpr fun _ member =>
    let ⟨field, _, same⟩ := mem_saidOf member
    ⟨field, same⟩

theorem stranger?_stack (s : Sources) : s.stack.stranger? = s.given.stranger? := by
  simp only [stack, given, List.foldl_cons, List.foldl_nil, stranger?_under, stranger?_append,
    stranger?_saidOf, stranger?_directLayer, Option.or_none]
  rfl

theorem known_iff (s : Sources) : s.Known ↔ s.given.stranger? = none := stranger?_eq_none.symm

end Sources

section
variable [CharacterNames]

theorem load_eq_ok {s : Sources} {layer : Layer} (made : merged s = .ok layer) (settings : Settings) :
    load s = .ok settings ↔ ofLayer layer = .ok settings := by
  rw [load, made]
  simp only [bind, Except.bind]
  cases outcome : ofLayer layer with
  | ok settings => rfl
  | error fault =>
    constructor
    · intro returned
      dsimp only at returned
      split at returned <;> cases returned
    · intro returned
      cases returned

theorem load_of_stranger {s : Sources} {layer : Layer} (made : merged s = .ok layer) {name : String}
    (found : layer.stranger? = some name) :
    load s = complain s!"Invalid configuration: {(strangerFault name).message}" := by
  have kind : (strangerFault name).kind = .type := by
    rw [strangerFault]
    split <;> rfl
  rw [load, made]
  simp only [bind, Except.bind, ofLayer_of_stranger found, kind]

/-- The settings are those of the merge, and only the merge decides whether there are any: sources
    with the same merge and no strange names have the same outcome, down to the fault. -/
theorem load_is_the_merge (s : Sources) (readable : s.Readable) :
    (∀ settings, load s = .ok settings → ∀ field, settings.setting field = s.chosen field) ∧
    ((∃ settings, load s = .ok settings) ↔ s.Known ∧ Valid s.chosen) ∧
    (s.Known → ∀ t : Sources, t.Readable → t.Known → t.chosen = s.chosen → load t = load s) ∧
    (¬ s.Known → ∃ name, s.given.stranger? = some name ∧
      load s = complain s!"Invalid configuration: {(strangerFault name).message}") := by
  have values := readable.valueOf_stack
  have strangers := s.stranger?_stack
  refine ⟨fun settings made field => ?_, ⟨fun ⟨settings, made⟩ => ?_, fun ⟨known, valid⟩ => ?_⟩, ?_, ?_⟩
  · obtain ⟨-, same, -⟩ := ofLayer_eq_ok ((load_eq_ok readable.merged settings).mp made)
    rw [same, values]
  · obtain ⟨none, -, valid⟩ := ofLayer_eq_ok ((load_eq_ok readable.merged settings).mp made)
    exact ⟨s.known_iff.mpr (strangers ▸ none), values ▸ valid⟩
  · have none : s.stack.stranger? = .none := strangers.trans (s.known_iff.mp known)
    obtain ⟨settings, made⟩ := Valid.ofLayer none (values.symm ▸ valid)
    exact ⟨settings, (load_eq_ok readable.merged settings).mpr made⟩
  · intro known t legible strange same
    have outcome : ofLayer t.stack = ofLayer s.stack := by
      refine ofLayer_congr ?_ ?_
      · rw [t.stranger?_stack, strangers, t.known_iff.mp strange, s.known_iff.mp known]
      · rw [legible.valueOf_stack, values, same]
    rw [load, load, legible.merged, readable.merged]
    simp only [bind, Except.bind, outcome]
  · intro unknown
    cases found : s.given.stranger? with
    | none => exact absurd (s.known_iff.mpr found) unknown
    | some name => exact ⟨name, rfl, load_of_stranger readable.merged (strangers.trans found)⟩

end

/-- Sources in which every layer replaces something below it, a malformed pattern and an empty extension
    among them. The pattern that is left names its character. -/
def everySource : Sources where
  user := some ⟨"/home/.resource-ranker.toml",
    .ok [("class_pattern", .text "("), ("limit", .int 5), ("follow_symlinks", .bool true)]⟩
  project := some ⟨"/work/resource-ranker.toml",
    .ok [("class_pattern", .text "\\N\x7bDIGIT ONE\x7d"), ("max_file_size_mb", .int 3),
      ("exclude_patterns", .list [.text "a"])]⟩
  named := .ok (.found ⟨"named.toml",
    .ok [("exclude_patterns", .list [.text "b"]), ("extension", .text "")]⟩)
  environment := [("RANKER_LIMIT", "7"), ("RANKER_EXCLUDE_PATTERNS", "c")]
  direct := [("extension", .text "kt"), ("verbose", .bool true), ("quiet", .bool true),
    ("log_file", .none)]

theorem readable_everySource : everySource.Readable where
  user := by rintro _ ⟨⟩; exact ⟨_, rfl, by decide⟩
  project := by rintro _ ⟨⟩; exact ⟨_, rfl, by decide⟩
  named := .inr ⟨_, rfl, _, rfl, by decide⟩
  environment := by
    intro field text set
    cases field with
    | limit => cases set; exact ⟨_, rfl⟩
    | excludePatterns => cases set; exact ⟨_, rfl⟩
    | _ => cases set
  direct := by decide

def digitOne : Pattern := ⟨"\\N\x7bDIGIT ONE\x7d", Pattern.literally "1"⟩

theorem read_digitOne : @Pattern.read Text.asciiNames digitOne.source = .ok digitOne := by rfl

theorem load_is_the_merge_everySource : everySource.Readable ∧ ∃ settings,
    @load Text.asciiNames everySource = .ok settings ∧
    settings.setting .extension = .text "kt" ∧
    settings.setting .classPattern = .text "\\N\x7bDIGIT ONE\x7d" ∧
    settings.setting .limit = .int 7 ∧
    settings.setting .verbosity = .text "quiet" ∧
    settings.setting .excludePatterns = .list [.text "b"] ∧
    settings.setting .encoding = .text "utf-8" := by
  let names := Text.asciiNames
  obtain ⟨values, returns, -, -⟩ := load_is_the_merge everySource readable_everySource
  have known : everySource.Known := everySource.known_iff.mpr rfl
  have valid : Valid everySource.chosen := {
    extension := ⟨"kt", rfl, 'k', by decide, by decide⟩
    classPattern := ⟨digitOne, rfl, read_digitOne⟩
    maxFileSize := show (0 : Int) < 3 by decide
    verbosity := ⟨.quiet, rfl⟩ }
  obtain ⟨settings, made⟩ := returns.mpr ⟨known, valid⟩
  refine ⟨readable_everySource, settings, made, ?_⟩
  simp only [values settings made]
  exact ⟨rfl, rfl, rfl, rfl, rfl, rfl⟩

end SourceCensus.Settings
