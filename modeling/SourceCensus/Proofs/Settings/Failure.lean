import Mathlib
import SourceCensus.Proofs.Files.Locate
import SourceCensus.Proofs.Settings.Load
import SourceCensus.Settings.Discovery

/-! What becomes of settings that are refused. Each check is followed to the faults it can end in. Faults
   of type and value are turned into complaints; all others but two cannot arise, and those two are
   told exactly. -/
namespace SourceCensus.Settings
open Files

/-- A fault that loading turns into a complaint. -/
def Translated (fault : Fault) : Prop := fault.kind = .type ∨ fault.kind = .value

theorem strangerFault_translated (name : String) : Translated (strangerFault name) := by
  rw [strangerFault]
  split
  · exact Or.inl rfl
  · exact Or.inl rfl

theorem checkExtension_eq_error {value : Setting} {fault : Fault}
    (refused : checkExtension value = .error fault) :
    Translated fault ∨
      (∀ written, value ≠ .text written) ∧ fault = .noMember value.typeName "lstrip" := by
  cases value with
  | text written =>
    rw [checkExtension] at refused
    split at refused
    · cases refused
      exact Or.inl (Or.inr rfl)
    · cases refused
  | _ =>
    cases refused
    refine Or.inr ⟨?_, rfl⟩
    intro written same
    cases same

theorem checkSize_eq_error {value : Setting} {fault : Fault}
    (refused : checkSize value = .error fault) : Translated fault := by
  cases value with
  | int count | float count =>
    rw [checkSize] at refused
    split at refused
    · cases refused
      exact Or.inr rfl
    · cases refused
  | bool value =>
    rw [checkSize] at refused
    split at refused
    · cases refused
    · cases refused
      exact Or.inr rfl
  | _ =>
    cases refused
    exact Or.inl rfl

theorem checkVerbosity_eq_error {value : Setting} {fault : Fault}
    (refused : checkVerbosity value = .error fault) : Translated fault := by
  rw [checkVerbosity] at refused
  split at refused
  · cases refused
  · cases refused
    exact Or.inr rfl

section
variable [CharacterNames]

theorem checkPattern_eq_error {value : Setting} {fault : Fault}
    (refused : checkPattern value = .error fault) :
    Translated fault ∨ ∃ source, value = .text source ∧
      Pattern.read source = .error .countTooLarge ∧ fault = .badPattern source .countTooLarge := by
  cases value with
  | text source =>
    rw [checkPattern] at refused
    cases read : Pattern.read source with
    | ok pattern =>
      rw [read] at refused
      cases refused
    | error failure =>
      rw [read] at refused
      cases failure with
      | countTooLarge =>
        cases refused
        exact Or.inr ⟨source, rfl, read, rfl⟩
      | _ =>
        cases refused
        exact Or.inl (Or.inr rfl)
  | _ =>
    cases refused
    exact Or.inl (Or.inl rfl)

/-- The two faults of a layer that no complaint is made of: an extension that is no text, and a class
    pattern behind a good extension that asks for too many repetitions. -/
inductive Slips (layer : Layer) : Fault → Prop
  | extension (known : layer.stranger? = none)
      (other : ∀ written, layer.valueOf .extension ≠ .text written) :
      Slips layer (.noMember (layer.valueOf .extension).typeName "lstrip")
  | repetitions (known : layer.stranger? = none) {extension source : String}
      (checked : checkExtension (layer.valueOf .extension) = .ok extension)
      (pattern : layer.valueOf .classPattern = .text source)
      (tooMany : Pattern.read source = .error .countTooLarge) :
      Slips layer (.badPattern source .countTooLarge)

theorem ofLayer_eq_error {layer : Layer} {fault : Fault} (refused : ofLayer layer = .error fault) :
    Translated fault ∨ Slips layer fault := by
  cases known : layer.stranger? with
  | some name =>
    rw [ofLayer_of_stranger known] at refused
    cases refused
    exact Or.inl (strangerFault_translated name)
  | none =>
    simp only [ofLayer, known] at refused
    rcases bind_eq_error refused with first | ⟨extension, checked, refused⟩
    · rcases checkExtension_eq_error first with translated | ⟨other, rfl⟩
      · exact Or.inl translated
      · exact Or.inr (.extension known other)
    rcases bind_eq_error refused with second | ⟨pattern, -, refused⟩
    · rcases checkPattern_eq_error second with translated | ⟨source, text, tooMany, rfl⟩
      · exact Or.inl translated
      · exact Or.inr (.repetitions known checked text tooMany)
    rcases bind_eq_error refused with third | ⟨size, -, refused⟩
    · exact Or.inl (checkSize_eq_error third)
    rcases bind_eq_error refused with fourth | ⟨verbosity, -, refused⟩
    · exact Or.inl (checkVerbosity_eq_error fourth)
    · cases refused

theorem Slips.ofLayer {layer : Layer} {fault : Fault} (slips : Slips layer fault) :
    ofLayer layer = .error fault := by
  cases slips with
  | extension known other =>
    have refused : checkExtension (layer.valueOf .extension) =
        .error (.noMember (layer.valueOf .extension).typeName "lstrip") := by
      cases value : layer.valueOf .extension with
      | text written => exact absurd value (other written)
      | _ => rfl
    simp only [Settings.ofLayer, known, refused]
    rfl
  | repetitions known checked pattern tooMany =>
    simp only [Settings.ofLayer, known, checked, pattern, checkPattern, tooMany]
    rfl

theorem Slips.not_translated {layer : Layer} {fault : Fault} (slips : Slips layer fault) :
    ¬ Translated fault := by
  cases slips with
  | extension => simp [Translated, Fault.kind]
  | repetitions => simp [Translated, Fault.kind, Fault.patternKind]

end

def Complains (fault : Fault) : Prop := ∃ c, fault = .complaint c

theorem optionalLayer_eq_error {role : String} {file : Option Found} {fault : Fault}
    (refused : optionalLayer role file = .error fault) : Complains fault := by
  cases file with
  | none => cases refused
  | some file =>
    rw [optionalLayer, Found.layer] at refused
    split at refused
    · cases refused
    · cases refused
      exact ⟨_, rfl⟩

theorem Named.layer_eq_error {named : Named} {fault : Fault} (refused : named.layer = .error fault) :
    Complains fault := by
  cases named with
  | absent => cases refused
  | missing path =>
    cases refused
    exact ⟨_, rfl⟩
  | found file =>
    have read : optionalLayer "config file" (some file) = .error fault := refused
    exact optionalLayer_eq_error read

theorem environmentLayer_eq_error {environment : Environment} {fields : List Field} {fault : Fault}
    (refused : environmentLayer environment fields = .error fault) : Complains fault := by
  induction fields with
  | nil => cases refused
  | cons field rest ih =>
    rw [environmentLayer] at refused
    split at refused
    · exact ih refused
    · split at refused
      · cases refused
        exact ⟨_, rfl⟩
      · exact ih refused
      · rcases bind_eq_error refused with later | ⟨layer, -, done⟩
        · exact ih later
        · cases done

theorem merged_eq_error {s : Sources} {fault : Fault} (refused : merged s = .error fault) :
    Complains fault ∨ s.named = .error fault := by
  rcases bind_eq_error refused with user | ⟨_, -, refused⟩
  · exact Or.inl (optionalLayer_eq_error user)
  rcases bind_eq_error refused with project | ⟨_, -, refused⟩
  · exact Or.inl (optionalLayer_eq_error project)
  rcases bind_eq_error refused with unplaced | ⟨named, -, refused⟩
  · exact Or.inr unplaced
  rcases bind_eq_error refused with named | ⟨_, -, refused⟩
  · exact Or.inl (Named.layer_eq_error named)
  rcases bind_eq_error refused with environment | ⟨_, -, done⟩
  · exact Or.inl (environmentLayer_eq_error environment)
  · cases done

theorem load_eq_error [CharacterNames] {s : Sources} {fault : Fault} (refused : load s = .error fault) :
    Complains fault ∨ s.named = .error fault ∨ ∃ layer, merged s = .ok layer ∧ Slips layer fault := by
  rcases bind_eq_error refused with first | ⟨layer, made, refused⟩
  · exact (merged_eq_error first).imp_right Or.inl
  cases checked : ofLayer layer with
  | ok settings =>
    rw [checked] at refused
    cases refused
  | error cause =>
    rw [checked] at refused
    dsimp only at refused
    rcases ofLayer_eq_error checked with translated | slips
    · rcases translated with type | value
      · rw [type] at refused
        cases refused
        exact Or.inl ⟨_, rfl⟩
      · rw [value] at refused
        cases refused
        exact Or.inl ⟨_, rfl⟩
    · have same : cause = fault := by
        split at refused
        · exact absurd (Or.inl ‹_›) slips.not_translated
        · exact absurd (Or.inr ‹_›) slips.not_translated
        · exact Except.error.inj refused
      exact Or.inr (Or.inr ⟨layer, made, same ▸ slips⟩)

theorem exists?_eq_error {d : Disk} {path : String} {fault : Fault}
    (refused : d.exists? path = .error fault) :
    d.find path = .error .nameTooLong ∧ fault = .refused .nameTooLong path :=
  Disk.look_eq_error (map_eq_error refused)

theorem namedAt_eq_error {d : Disk} {named : Option Path} {fault : Fault}
    (refused : namedAt d named = .error fault) :
    ∃ path ∈ named, d.find path.toString = .error .nameTooLong ∧
      fault = .refused .nameTooLong path.toString := by
  cases named with
  | none => cases refused
  | some path =>
    rcases bind_eq_error refused with unplaced | ⟨there, -, done⟩
    · exact ⟨path, rfl, exists?_eq_error unplaced⟩
    · split at done
      · cases done
      · cases done

def settingsPaths (d : Disk) (named : Option Path) : List String :=
  [userFile d, projectFile d] ++ (named.map Path.toString).toList

def numberedExtension : Disk :=
  ⟨.folder [(projectFileName,
    .file [101, 120, 116, 101, 110, 115, 105, 111, 110, 32, 61, 32, 53, 10])], [], []⟩

theorem find_userFile_numberedExtension :
    numberedExtension.find "/.resource-ranker.toml" = .error .missing :=
  (Disk.find_topmost rfl userFileName (by decide) (by decide)).1 rfl

theorem find_projectFile_numberedExtension :
    numberedExtension.find "/resource-ranker.toml" =
      .ok (.file [101, 120, 116, 101, 110, 115, 105, 111, 110, 32, 61, 32, 53, 10]) :=
  (Disk.find_topmost rfl projectFileName (by decide) (by decide)).2 _ rfl rfl

theorem numberedExtension_refused [CharacterNames] :
    loadOn numberedExtension none [] [] = .error (.noMember "int" "lstrip") := by
  have user := find_userFile_numberedExtension
  have project := find_projectFile_numberedExtension
  have userPath : userFile numberedExtension = "/.resource-ranker.toml" := rfl
  have projectPath : projectFile numberedExtension = "/resource-ranker.toml" := rfl
  have read : Toml.read "extension = 5\n".toList = .ok [("extension", .int 5)] := by cbv
  have content :
      fileContent numberedExtension "/resource-ranker.toml" = .ok [("extension", .int 5)] := by
    rw [fileContent, project]
    exact read
  have sources : sourcesOn numberedExtension none [] [] =
      ⟨none, some ⟨"/resource-ranker.toml", .ok [("extension", .int 5)]⟩, .ok .absent, [], []⟩ := by
    rw [sourcesOn, userPath, projectPath, foundAt, foundAt, user, project, content]
    rfl
  rw [loadOn, sources]
  simp only [userPath, projectPath, Disk.exists?, Disk.look, user, project]
  rfl

end SourceCensus.Settings
