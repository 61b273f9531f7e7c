import Mathlib.Data.List.Nodup
import Mathlib.Data.List.TakeWhile
import SourceCensus.Proofs.Fault
import SourceCensus.Settings.Basic

/-! Layers as partial maps from names to values, and what the checks of the settings let through. -/
namespace SourceCensus.Settings

theorem Field.name_injective : Function.Injective Field.name := by
  intro a b same
  cases a <;> cases b <;> first | rfl | exact absurd same (by decide)

@[simp] theorem Field.ofName?_name (field : Field) : Field.ofName? field.name = some field := by
  cases field <;> decide

theorem Field.ofName?_eq_none {name : String} :
    Field.ofName? name = none ↔ ∀ field : Field, field.name ≠ name := by
  simp [Field.ofName?, Field.mem_all]

namespace Layer

def Dictionary (layer : Layer) : Prop := (layer.map Prod.fst).Nodup

instance (layer : Layer) : Decidable (Dictionary layer) := inferInstanceAs (Decidable (List.Nodup _))

theorem dictionary_cons {name : String} {value : Setting} {rest : Layer} :
    Dictionary ((name, value) :: rest) ↔ rest.lookup name = none ∧ Dictionary rest := by
  simp [Dictionary, List.lookup_eq_none_iff]
  grind

theorem lookup_cons (name key : String) (value : Setting) (rest : Layer) :
    ((name, value) :: rest : Layer).lookup key =
      if key = name then some value else rest.lookup key := by
  rw [List.lookup_cons]
  by_cases same : key = name
  · rw [if_pos same, beq_iff_eq.mpr same]
  · rw [if_neg same, beq_eq_false_iff_ne.mpr same]

theorem lookup_put (name key : String) (value : Setting) (layer : Layer) :
    (put name value layer).lookup key = if key = name then some value else layer.lookup key := by
  induction layer with
  | nil => exact lookup_cons name key value []
  | cons head rest ih =>
    obtain ⟨first, old⟩ := head
    rw [put]
    by_cases same : first = name
    · rw [if_pos same, lookup_cons, lookup_cons]
      grind
    · rw [if_neg same, lookup_cons, lookup_cons, ih]
      grind

theorem lookup_under (lower : Layer) {upper : Layer} (once : Dictionary upper) (key : String) :
    (under lower upper).lookup key = (upper.lookup key).or (lower.lookup key) := by
  induction upper generalizing lower with
  | nil => rfl
  | cons head rest ih =>
    obtain ⟨name, value⟩ := head
    obtain ⟨alone, later⟩ := dictionary_cons.mp once
    have step : (under lower ((name, value) :: rest)).lookup key =
        (rest.lookup key).or ((put name value lower).lookup key) := ih _ later
    rw [step, lookup_put, lookup_cons]
    by_cases same : key = name
    · rw [if_pos same, if_pos same, same, alone]
      rfl
    · rw [if_neg same, if_neg same]

theorem lookup_filter_name (name key : String) (layer : Layer) :
    (layer.filter fun entry => entry.1 ≠ name).lookup key =
      if key = name then none else layer.lookup key := by
  induction layer with
  | nil => simp
  | cons head rest ih =>
    obtain ⟨first, value⟩ := head
    by_cases same : first = name
    · rw [List.filter_cons_of_neg (by simpa using same), ih, lookup_cons]
      grind
    · rw [List.filter_cons_of_pos (by simpa using same), lookup_cons, lookup_cons, ih]
      grind

theorem Dictionary.filter {layer : Layer} (once : Dictionary layer) (keep : String × Setting → Bool) :
    Dictionary (layer.filter keep) :=
  once.sublist (List.filter_sublist.map Prod.fst)

theorem Dictionary.lookup_filter {layer : Layer} (once : Dictionary layer) (keep : Setting → Bool)
    (key : String) :
    (layer.filter fun entry => keep entry.2).lookup key = (layer.lookup key).filter keep := by
  induction layer with
  | nil => rfl
  | cons head rest ih =>
    obtain ⟨name, value⟩ := head
    obtain ⟨alone, later⟩ := dictionary_cons.mp once
    rw [List.filter_cons, lookup_cons]
    by_cases kept : keep value
    · rw [if_pos kept, lookup_cons, ih later]
      by_cases same : key = name <;> simp [same, kept, Option.filter_some]
    · rw [if_neg kept, ih later]
      by_cases same : key = name <;> simp [same, kept, alone, Option.filter_some]

theorem Dictionary.put {layer : Layer} (once : Dictionary layer) (name : String) (value : Setting) :
    Dictionary (put name value layer) := by
  induction layer with
  | nil => simp [Layer.put, Dictionary]
  | cons head rest ih =>
    obtain ⟨first, old⟩ := head
    obtain ⟨alone, later⟩ := dictionary_cons.mp once
    rw [Layer.put]
    by_cases same : first = name
    · rw [if_pos same]
      exact dictionary_cons.mpr ⟨same ▸ alone, later⟩
    · rw [if_neg same]
      exact dictionary_cons.mpr ⟨by rw [lookup_put, if_neg same]; exact alone, ih later⟩

theorem stranger?_cons (name : String) (value : Setting) (rest : Layer) :
    stranger? ((name, value) :: rest) =
      if Field.ofName? name = none then some name else stranger? rest := by
  by_cases unknown : Field.ofName? name = none <;> simp [stranger?, unknown]

theorem stranger?_append (front back : Layer) :
    stranger? (front ++ back) = (stranger? front).or (stranger? back) := by
  simp only [stranger?, List.find?_append]
  cases front.find? _ <;> rfl

theorem stranger?_put (name : String) (value : Setting) (layer : Layer) :
    stranger? (put name value layer) = (stranger? layer).or (stranger? [(name, value)]) := by
  induction layer with
  | nil => rfl
  | cons head rest ih =>
    obtain ⟨first, old⟩ := head
    rw [put]
    by_cases same : first = name
    · rw [if_pos same, stranger?_cons, stranger?_cons, stranger?_cons, same]
      by_cases unknown : Field.ofName? name = none <;> simp [unknown, stranger?]
    · rw [if_neg same, stranger?_cons, stranger?_cons, ih]
      by_cases unknown : Field.ofName? first = none <;> simp [unknown]

theorem stranger?_under (lower upper : Layer) :
    stranger? (under lower upper) = stranger? (lower ++ upper) := by
  induction upper generalizing lower with
  | nil => rw [List.append_nil]; rfl
  | cons head rest ih =>
    obtain ⟨name, value⟩ := head
    have step : stranger? (under lower ((name, value) :: rest)) =
        stranger? (put name value lower ++ rest) := ih _
    rw [step, stranger?_append, stranger?_put, ← stranger?_append, ← stranger?_append,
      List.append_assoc]
    rfl

theorem stranger?_filter_put {name : String} {field : Field} (known : Field.ofName? name = some field)
    (value : Setting) (keep : String × Setting → Bool) (layer : Layer) :
    stranger? ((put name value layer).filter keep) = stranger? (layer.filter keep) := by
  induction layer with
  | nil => by_cases kept : keep (name, value) <;> simp [put, kept, stranger?, known]
  | cons head rest ih =>
    obtain ⟨first, old⟩ := head
    rw [put]
    by_cases same : first = name
    · rw [if_pos same, List.filter_cons, List.filter_cons, same]
      by_cases now : keep (name, value) <;> by_cases before : keep (name, old) <;>
        simp [now, before, stranger?_cons, known]
    · rw [if_neg same, List.filter_cons, List.filter_cons]
      by_cases kept : keep (first, old)
      · rw [if_pos kept, if_pos kept, stranger?_cons, stranger?_cons, ih]
      · rw [if_neg kept, if_neg kept, ih]

theorem stranger?_eq_none {layer : Layer} :
    stranger? layer = none ↔ ∀ entry ∈ layer, ∃ field : Field, field.name = entry.1 := by
  simp only [stranger?, Option.map_eq_none_iff, List.find?_eq_none, Option.isNone_iff_eq_none,
    Field.ofName?_eq_none, not_forall, not_not]

end Layer

/-- What a size may be: a number that is not at most zero, or true. -/
def Positive : Setting → Prop
  | .int count => 0 < count
  | .bool value => value
  | .float count => ¬ count ≤ 0.0
  | _ => False

theorem checkExtension_eq_ok {value : Setting} {extension : String} :
    checkExtension value = .ok extension ↔
      value = .text extension ∧ ∃ c ∈ extension.toList, c ≠ '.' := by
  cases value with
  | text written =>
    have bare : (bareExtension written).isEmpty = true ↔ ¬ ∃ c ∈ written.toList, c ≠ '.' := by
      simp [bareExtension, List.dropWhile_eq_nil_iff]
    by_cases empty : (bareExtension written).isEmpty = true
    · simp only [checkExtension, if_pos empty]
      grind
    · simp only [checkExtension, if_neg empty]
      grind
  | _ => simp [checkExtension]

theorem checkSize_eq_ok {value : Setting} {size : Size} :
    checkSize value = .ok size ↔ value = Size.setting size ∧ Positive value := by
  cases value <;> cases size <;> simp only [checkSize, Size.setting, Positive] <;> grind

theorem checkSize_of_positive {value : Setting} (positive : Positive value) :
    ∃ size, checkSize value = .ok size := by
  cases value with
  | int count => exact ⟨.whole count, checkSize_eq_ok.mpr ⟨rfl, positive⟩⟩
  | bool value => exact ⟨.truth value, checkSize_eq_ok.mpr ⟨rfl, positive⟩⟩
  | float count => exact ⟨.real count, checkSize_eq_ok.mpr ⟨rfl, positive⟩⟩
  | _ => cases positive

theorem checkVerbosity_eq_ok {value : Setting} {degree : Verbosity} :
    checkVerbosity value = .ok degree ↔ value = .text degree.name := by
  have named : Verbosity.ofSetting? value = some degree ↔ value = .text degree.name := by
    cases value with
    | text word => cases degree <;> simp [Verbosity.ofSetting?, Verbosity.all, Verbosity.name] <;> grind
    | _ => simp [Verbosity.ofSetting?]
  rw [← named, checkVerbosity]
  split <;> simp_all

variable [CharacterNames]

theorem read_source {source : String} {pattern : Pattern}
    (done : Pattern.read source = .ok pattern) : pattern.source = source := by
  rw [Pattern.read] at done
  cases node : StateT.run' Pattern.readWhole (Pattern.Reader.ofPattern source.toList) with
  | error failure => rw [node] at done; cases done
  | ok node => rw [node] at done; cases done; rfl

theorem checkPattern_eq_ok {value : Setting} {pattern : Pattern} :
    checkPattern value = .ok pattern ↔
      value = .text pattern.source ∧ Pattern.read pattern.source = .ok pattern := by
  cases value with
  | text source =>
    rw [checkPattern]
    constructor
    · intro passed
      split at passed <;> cases passed
      rename_i done
      rw [read_source done]
      exact ⟨rfl, done⟩
    · rintro ⟨same, done⟩
      cases same
      rw [done]
  | _ => simp [checkPattern]

structure Valid (value : Field → Setting) : Prop where
  extension : ∃ extension : String, value .extension = .text extension ∧
    ∃ c ∈ extension.toList, c ≠ '.'
  classPattern : ∃ pattern : Pattern, value .classPattern = .text pattern.source ∧
    Pattern.read pattern.source = .ok pattern
  maxFileSize : Positive (value .maxFileSize)
  verbosity : ∃ degree : Verbosity, value .verbosity = .text degree.name

theorem ofLayer_of_stranger {layer : Layer} {name : String} (found : layer.stranger? = some name) :
    ofLayer layer = .error (strangerFault name) := by
  rw [ofLayer, found]
  rfl

theorem ofLayer_congr {a b : Layer} (strangers : a.stranger? = b.stranger?)
    (values : a.valueOf = b.valueOf) : ofLayer a = ofLayer b := by
  rw [ofLayer, ofLayer, strangers, values]

theorem ofLayer_eq_ok {layer : Layer} {settings : Settings} (made : ofLayer layer = .ok settings) :
    layer.stranger? = none ∧ settings.setting = layer.valueOf ∧ Valid layer.valueOf := by
  cases known : layer.stranger? with
  | some name => rw [ofLayer_of_stranger known] at made; cases made
  | none =>
    simp only [ofLayer, known] at made
    obtain ⟨written, extension, made⟩ := bind_eq_ok made
    obtain ⟨read, pattern, made⟩ := bind_eq_ok made
    obtain ⟨greatest, size, made⟩ := bind_eq_ok made
    obtain ⟨degree, verbosity, made⟩ := bind_eq_ok made
    cases made
    have first := checkExtension_eq_ok.mp extension
    have second := checkPattern_eq_ok.mp pattern
    have third := checkSize_eq_ok.mp size
    have fourth := checkVerbosity_eq_ok.mp verbosity
    refine ⟨rfl, ?_, ⟨written, first⟩, ⟨read, second⟩, third.2, ⟨degree, fourth⟩⟩
    funext field
    cases field with
    | extension => exact first.1.symm
    | classPattern => exact second.1.symm
    | maxFileSize => exact third.1.symm
    | verbosity => exact fourth.symm
    | _ => rfl

theorem Valid.ofLayer {layer : Layer} (known : layer.stranger? = none)
    (valid : Valid layer.valueOf) : ∃ settings, ofLayer layer = .ok settings := by
  obtain ⟨extension, written⟩ := valid.extension
  obtain ⟨pattern, read⟩ := valid.classPattern
  obtain ⟨size, positive⟩ := checkSize_of_positive valid.maxFileSize
  obtain ⟨degree, word⟩ := valid.verbosity
  simp only [Settings.ofLayer, known]
  rw [checkExtension_eq_ok.mpr written, checkPattern_eq_ok.mpr read, positive,
    checkVerbosity_eq_ok.mpr word]
  exact ⟨_, rfl⟩

end SourceCensus.Settings
