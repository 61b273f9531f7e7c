import Mathlib.Algebra.Group.Int.Defs
import SourceCensus.Proofs.Fault
import SourceCensus.Proofs.Json.Document
import SourceCensus.Report.Document

/-! A report as a document, read back. What is read is the report itself, but for the ratios, which are
   rounded; whether there is a document is a matter of the integers and of the limit alone. -/
namespace SourceCensus
open Json Text

namespace Setting

mutual

def atoms : Setting → List Setting
  | .list items => atomsOfItems items
  | .table members => atomsOfMembers members
  | value => [value]

def atomsOfItems : List Setting → List Setting
  | [] => []
  | item :: rest => item.atoms ++ atomsOfItems rest

def atomsOfMembers : List (String × Setting) → List Setting
  | [] => []
  | (_, value) :: rest => value.atoms ++ atomsOfMembers rest

end

/-- Why a single value has no form in a document. -/
inductive Refused : Setting → Fault → Prop
  | integer {value : Int} (long : ¬ isWritable value) : Refused (.int value) .unwritableInteger
  | moment (kind : Moment) (text : String) :
      Refused (.moment kind text) (.notInDocuments (Setting.moment kind text).bareTypeName)

end Setting

mutual

def Json.Value.setting : Value → Setting
  | .null => .none
  | .bool value => .bool value
  | .int value => .int value
  | .real value => .float value
  | .string value => .text value
  | .array items => .list (settingsOfItems items)
  | .object members => .table (settingsOfMembers members)

def settingsOfItems : List Value → List Setting
  | [] => []
  | item :: rest => item.setting :: settingsOfItems rest

def settingsOfMembers : List (String × Value) → List (String × Setting)
  | [] => []
  | (name, value) :: rest => (name, value.setting) :: settingsOfMembers rest

end

namespace Setting

/-- What is known of the document that was made of a setting. -/
structure Makes (s : Setting) (v : Value) : Prop where
  same : v.setting = s
  reals : ∀ x ∈ v.reals, .float x ∈ s.atoms
  unrefused : ∀ atom ∈ s.atoms, ∀ fault, ¬ atom.Refused fault

structure MakesItems (items : List Setting) (values : List Value) : Prop where
  same : settingsOfItems values = items
  reals : ∀ x ∈ realsOfItems values, .float x ∈ atomsOfItems items
  unrefused : ∀ atom ∈ atomsOfItems items, ∀ fault, ¬ atom.Refused fault

structure MakesMembers (members : List (String × Setting)) (values : List (String × Value)) : Prop where
  same : settingsOfMembers values = members
  reals : ∀ x ∈ realsOfMembers values, .float x ∈ atomsOfMembers members
  unrefused : ∀ atom ∈ atomsOfMembers members, ∀ fault, ¬ atom.Refused fault

theorem Makes.single {s : Setting} {v : Value} (alone : s.atoms = [s]) (same : v.setting = s)
    (reals : ∀ x ∈ v.reals, .float x = s) (unrefused : ∀ fault, ¬ s.Refused fault) : s.Makes v := by
  refine ⟨same, ?_, ?_⟩
  · intro x member
    rw [alone, reals x member]
    exact List.mem_singleton_self s
  · intro atom member
    rw [alone, List.mem_singleton] at member
    rw [member]
    exact unrefused

mutual

theorem document_cases (s : Setting) : (∃ v, s.document = .ok v ∧ s.Makes v) ∨
    ∃ atom ∈ s.atoms, ∃ fault, atom.Refused fault ∧ s.document = .error fault := by
  match s with
  | .none =>
    exact .inl ⟨.null, rfl, .single rfl rfl (by simp [Value.reals]) (by rintro _ ⟨⟩)⟩
  | .bool value =>
    exact .inl ⟨.bool value, rfl, .single rfl rfl (by simp [Value.reals]) (by rintro _ ⟨⟩)⟩
  | .int value =>
    by_cases fits : isWritable value
    · refine .inl ⟨.int value, ?_, .single rfl rfl (by simp [Value.reals]) ?_⟩
      · rw [document, if_pos fits]
      · rintro _ ⟨long⟩
        exact long fits
    · refine .inr ⟨.int value, List.mem_singleton_self _, _, .integer fits, ?_⟩
      rw [document, if_neg fits]
  | .float value =>
    exact .inl ⟨.real value, rfl, .single rfl rfl (by simp [Value.reals]) (by rintro _ ⟨⟩)⟩
  | .text value =>
    exact .inl ⟨.string value, rfl, .single rfl rfl (by simp [Value.reals]) (by rintro _ ⟨⟩)⟩
  | .list items =>
    rcases documentItems_cases items with ⟨values, made, known⟩ | ⟨atom, member, fault, refused, made⟩
    · refine .inl ⟨.array values, by rw [document, made]; rfl, ?_, ?_, ?_⟩
      · rw [Value.setting, known.same]
      · exact known.reals
      · exact known.unrefused
    · exact .inr ⟨atom, member, fault, refused, by rw [document, made]; rfl⟩
  | .table members =>
    rcases documentMembers_cases members with ⟨values, made, known⟩ | ⟨atom, member, fault, refused, made⟩
    · refine .inl ⟨.object values, by rw [document, made]; rfl, ?_, ?_, ?_⟩
      · rw [Value.setting, known.same]
      · exact known.reals
      · exact known.unrefused
    · exact .inr ⟨atom, member, fault, refused, by rw [document, made]; rfl⟩
  | .moment kind written =>
    exact .inr ⟨.moment kind written, List.mem_singleton_self _, _, .moment kind written, rfl⟩

theorem documentItems_cases (items : List Setting) :
    (∃ values, documentItems items = .ok values ∧ MakesItems items values) ∨
      ∃ atom ∈ atomsOfItems items, ∃ fault, atom.Refused fault ∧ documentItems items = .error fault := by
  match items with
  | [] => exact .inl ⟨[], rfl, rfl, by simp [realsOfItems], by simp [atomsOfItems]⟩
  | item :: rest =>
    rw [documentItems, atomsOfItems]
    rcases document_cases item with ⟨v, made, known⟩ | ⟨atom, member, fault, refused, made⟩
    · rcases documentItems_cases rest with
        ⟨values, madeRest, knownRest⟩ | ⟨atom, member, fault, refused, madeRest⟩
      · refine .inl ⟨v :: values, by rw [made, madeRest]; rfl, ?_, ?_, ?_⟩
        · rw [settingsOfItems, known.same, knownRest.same]
        · intro x member
          rw [atomsOfItems, List.mem_append]
          exact (List.mem_append.mp member).imp (known.reals x) (knownRest.reals x)
        · intro atom member
          exact (List.mem_append.mp member).elim (known.unrefused atom) (knownRest.unrefused atom)
      · exact .inr ⟨atom, List.mem_append_right _ member, fault, refused, by rw [made, madeRest]; rfl⟩
    · exact .inr ⟨atom, List.mem_append_left _ member, fault, refused, by rw [made]; rfl⟩

theorem documentMembers_cases (members : List (String × Setting)) :
    (∃ values, documentMembers members = .ok values ∧ MakesMembers members values) ∨
      ∃ atom ∈ atomsOfMembers members, ∃ fault, atom.Refused fault ∧
        documentMembers members = .error fault := by
  match members with
  | [] => exact .inl ⟨[], rfl, rfl, by simp [realsOfMembers], by simp [atomsOfMembers]⟩
  | (name, value) :: rest =>
    rw [documentMembers, atomsOfMembers]
    rcases document_cases value with ⟨v, made, known⟩ | ⟨atom, member, fault, refused, made⟩
    · rcases documentMembers_cases rest with
        ⟨values, madeRest, knownRest⟩ | ⟨atom, member, fault, refused, madeRest⟩
      · refine .inl ⟨(name, v) :: values, by rw [made, madeRest]; rfl, ?_, ?_, ?_⟩
        · rw [settingsOfMembers, known.same, knownRest.same]
        · intro x member
          rw [atomsOfMembers, List.mem_append]
          exact (List.mem_append.mp member).imp (known.reals x) (knownRest.reals x)
        · intro atom member
          exact (List.mem_append.mp member).elim (known.unrefused atom) (knownRest.unrefused atom)
      · exact .inr ⟨atom, List.mem_append_right _ member, fault, refused, by rw [made, madeRest]; rfl⟩
    · exact .inr ⟨atom, List.mem_append_left _ member, fault, refused, by rw [made]; rfl⟩

end

end Setting

namespace Report

section
variable {α : Type}

def member? (read : Value → Option α) (name : String) (v : Value) : Option α :=
  (v.member? name).bind read

def textOf? : Value → Option String
  | .string text => some text
  | _ => none

def integerOf? : Value → Option Int
  | .int value => some value
  | _ => none

def realOf? : Value → Option Float
  | .real value => some value
  | _ => none

def keyOf? : Value → Option Key
  | .string text => some (.text text)
  | .int value => some (.number value)
  | _ => none

def itemsOf? (read : Value → Option α) : Value → Option (List α)
  | .array items => items.mapM read
  | _ => none

end

def entryOf? (v : Value) : Option Entry := do
  let key ← member? keyOf? "key" v
  let count ← member? integerOf? "count" v
  return (key, count)

def rowOf? (v : Value) : Option Color.Row := do
  let color ← member? textOf? "color" v
  let count ← member? integerOf? "count" v
  let blackRatio ← member? realOf? "black_ratio" v
  let blackLabel ← member? textOf? "black_label" v
  let whiteRatio ← member? realOf? "white_ratio" v
  let whiteLabel ← member? textOf? "white_label" v
  return { color, count, blackRatio, blackLabel, whiteRatio, whiteLabel }

def skippedOf? (v : Value) : Option (String × String) := do
  let path ← member? textOf? "path" v
  let reason ← member? textOf? "reason" v
  return (path, reason)

def ofDocument? (v : Value) : Option Report := do
  let root ← member? textOf? "root" v
  let modes ← member? (itemsOf? textOf?) "modes" v
  let limit ← member? (fun limit => some limit.setting) "limit" v
  let filesScanned ← member? integerOf? "files_scanned" v
  let colors ← member? (itemsOf? entryOf?) "colors" v
  let numbers ← member? (itemsOf? entryOf?) "numbers" v
  let classes ← member? (itemsOf? entryOf?) "classes" v
  let contrast ← member? (itemsOf? rowOf?) "contrast" v
  let skipped ← member? (itemsOf? skippedOf?) "skipped_files" v
  return { root, modes, limit, filesScanned, colors, numbers, classes, contrast, skipped }

/-- The row with both ratios rounded as documents have them. -/
def roundedRow (row : Color.Row) : Color.Row :=
  { row with
    blackRatio := Decimal.rounded ratioPlaces row.blackRatio
    whiteRatio := Decimal.rounded ratioPlaces row.whiteRatio }

section
variable {α : Type} (read : Value → Option α) (v : Value) (rest : List (String × Value))

@[simp] theorem member?_first (name : String) :
    member? read name (.object ((name, v) :: rest)) = read v := by
  simp [member?, Value.member?]

@[simp] theorem member?_later {name other : String} (apart : name ≠ other) :
    member? read name (.object ((other, v) :: rest)) = member? read name (.object rest) := by
  simp [member?, Value.member?, List.lookup_cons, beq_eq_false_iff_ne.mpr apart]

end

theorem itemsOf?_map {α β : Type} {read : Value → Option β} {write : α → Value} {back : α → β}
    (each : ∀ item, read (write item) = some (back item)) (items : List α) :
    itemsOf? read (.array (items.map write)) = some (items.map back) := by
  rw [itemsOf?]
  induction items with
  | nil => rfl
  | cons item rest ih =>
    rw [List.map_cons, List.mapM_cons, each, ih]
    rfl

theorem keyOf?_document (key : Key) : keyOf? (keyDocument key) = some key := by
  cases key <;> rfl

theorem entryOf?_document (entry : Entry) : entryOf? (entryDocument entry) = some entry := by
  have key := keyOf?_document entry.1
  simp [entryOf?, entryDocument, key, integerOf?]

theorem rowOf?_document (row : Color.Row) : rowOf? (rowDocument row) = some (roundedRow row) := by
  simp [rowOf?, rowDocument, textOf?, integerOf?, realOf?, roundedRow]

theorem skippedOf?_document (file : String × String) : skippedOf? (skippedDocument file) = some file := by
  simp [skippedOf?, skippedDocument, textOf?]

theorem ofDocument?_documentWith (r : Report) (limit : Value) : ofDocument? (r.documentWith limit) =
    some { r with limit := limit.setting, contrast := r.contrast.map roundedRow } := by
  have modes : itemsOf? textOf? (.array (r.modes.map .string)) = some (r.modes.map id) :=
    itemsOf?_map (fun text => show textOf? (.string text) = some (id text) from rfl) r.modes
  have entries (ranked : List Entry) :
      itemsOf? entryOf? (.array (ranked.map entryDocument)) = some (ranked.map id) :=
    itemsOf?_map entryOf?_document ranked
  have contrast := itemsOf?_map rowOf?_document r.contrast
  have skipped : itemsOf? skippedOf? (.array (r.skipped.map skippedDocument)) =
      some (r.skipped.map id) := itemsOf?_map skippedOf?_document r.skipped
  rw [List.map_id] at modes skipped
  simp only [List.map_id] at entries
  simp [ofDocument?, documentWith, textOf?, integerOf?, modes, entries, contrast, skipped]

theorem mem_realsOfItems_map {α : Type} (write : α → Value) (items : List α) (x : Float) :
    x ∈ realsOfItems (items.map write) ↔ ∃ item ∈ items, x ∈ (write item).reals := by
  induction items with
  | nil => simp [realsOfItems]
  | cons item rest ih => simp [realsOfItems, ih]

theorem reals_keyDocument (key : Key) : (keyDocument key).reals = [] := by
  cases key <;> rfl

theorem reals_entryDocument (entry : Entry) : (entryDocument entry).reals = [] := by
  simp [entryDocument, Value.reals, realsOfMembers, reals_keyDocument]

theorem reals_rowDocument (row : Color.Row) :
    (rowDocument row).reals = [(roundedRow row).blackRatio, (roundedRow row).whiteRatio] := by
  simp [rowDocument, Value.reals, realsOfMembers, roundedRow]

theorem reals_skippedDocument (file : String × String) : (skippedDocument file).reals = [] := by
  simp [skippedDocument, Value.reals, realsOfMembers]

theorem mem_reals_documentWith {r : Report} {limit : Value} {x : Float}
    (member : x ∈ (r.documentWith limit).reals) : x ∈ limit.reals ∨ ∃ row ∈ r.contrast,
      x = (roundedRow row).blackRatio ∨ x = (roundedRow row).whiteRatio := by
  simpa [documentWith, Value.reals, realsOfMembers, mem_realsOfItems_map, reals_entryDocument,
    reals_rowDocument, reals_skippedDocument] using member

theorem documentText_cases (r : Report) :
    (∃ limit, r.limit.Makes limit ∧ (∀ n ∈ r.integers, isWritable n) ∧
      r.documentText = .ok ((r.documentWith limit).write pretty)) ∨
    (∃ atom ∈ r.limit.atoms, ∃ fault, atom.Refused fault ∧ r.documentText = .error fault) ∨
    ((∃ n ∈ r.integers, ¬ isWritable n) ∧ r.documentText = .error .unwritableInteger) := by
  rcases r.limit.document_cases with ⟨limit, made, known⟩ | ⟨atom, member, fault, refused, made⟩
  · by_cases all : r.integers.all isWritable = true
    · refine .inl ⟨limit, known, List.all_eq_true.mp all, ?_⟩
      rw [documentText, made]
      simp [all, pure, Except.pure, bind, Except.bind]
    · refine .inr (.inr ⟨by simpa using all, ?_⟩)
      rw [documentText, made]
      simp [all, throw, throwThe, MonadExceptOf.throw, bind, Except.bind]
  · refine .inr (.inl ⟨atom, member, fault, refused, ?_⟩)
    rw [documentText, made]
    rfl

/-- Given that numbers read back from their shortest forms: a report whose limit holds no date or time
    has a document exactly if none of its integers has more than 4300 digits, and the document is ASCII
    and reads back as the report with its ratios rounded. Otherwise a fault tells which it was. -/
theorem documents_read_back (r : Report)
    (ratios : ∀ row ∈ r.contrast, ReadsBack (Decimal.rounded 4 row.blackRatio) ∧
      ReadsBack (Decimal.rounded 4 row.whiteRatio))
    (limits : ∀ x, .float x ∈ r.limit.atoms → ReadsBack x) :
    (∀ text, r.documentText = .ok text → (∀ c ∈ text.toList, c.toNat < 128) ∧
      (Json.read? text).bind ofDocument? = some { r with
        contrast := r.contrast.map fun row => { row with
          blackRatio := Decimal.rounded 4 row.blackRatio
          whiteRatio := Decimal.rounded 4 row.whiteRatio } }) ∧
    ((∃ text, r.documentText = .ok text) ↔ (∀ n ∈ r.integers, n.natAbs < 10 ^ longestInteger) ∧
      (∀ n, .int n ∈ r.limit.atoms → n.natAbs < 10 ^ longestInteger) ∧
      ∀ kind text, .moment kind text ∉ r.limit.atoms) ∧
    ∀ fault, r.documentText = .error fault → fault = .unwritableInteger ∨
      ∃ kind text, .moment kind text ∈ r.limit.atoms ∧
        fault = .notInDocuments (Setting.moment kind text).bareTypeName := by
  simp only [← isWritable_iff]
  obtain ⟨limit, known, all, made⟩ | ⟨atom, member, fault, refused, made⟩ | ⟨⟨n, member, long⟩, made⟩ :=
    r.documentText_cases <;> rw [made]
  · have given : ∀ x ∈ (r.documentWith limit).reals, ReadsBack x := by
      intro x member
      rcases mem_reals_documentWith member with inLimit | ⟨row, inContrast, rfl | rfl⟩
      · exact limits x (known.reals x inLimit)
      · exact (ratios row inContrast).1
      · exact (ratios row inContrast).2
    refine ⟨?_, ?_, ?_⟩
    · rintro _ ⟨⟩
      refine ⟨ascii_write regular_pretty _, ?_⟩
      rw [read?_write regular_pretty _ given, Option.bind_some, ofDocument?_documentWith, known.same]
      rfl
    · refine iff_of_true ⟨_, rfl⟩ ⟨all, ?_, ?_⟩
      · intro n member
        exact Decidable.not_not.mp fun long => known.unrefused _ member _ (.integer long)
      · intro kind text member
        exact known.unrefused _ member _ (.moment kind text)
    · rintro _ ⟨⟩
  · cases refused with
    | integer long =>
      refine ⟨by rintro _ ⟨⟩, iff_of_false (by rintro ⟨_, ⟨⟩⟩) ?_, ?_⟩
      · rintro ⟨-, fits, -⟩
        exact long (fits _ member)
      · rintro _ ⟨⟩
        exact .inl rfl
    | moment kind text =>
      refine ⟨by rintro _ ⟨⟩, iff_of_false (by rintro ⟨_, ⟨⟩⟩) ?_, ?_⟩
      · rintro ⟨-, -, none⟩
        exact none kind text member
      · rintro _ ⟨⟩
        exact .inr ⟨kind, text, member, rfl⟩
  · refine ⟨by rintro _ ⟨⟩, iff_of_false (by rintro ⟨_, ⟨⟩⟩) ?_, ?_⟩
    · rintro ⟨fits, -⟩
      exact long (fits n member)
    · rintro _ ⟨⟩
      exact .inl rfl

def escaped : Report where
  root := "/a\"b\\c"
  modes := ["color", "num", "contrast"]
  limit := .int 3
  filesScanned := 2
  colors := [(.text "0xff\x01\n", 2), (.text "0xff00ff00", 1)]
  numbers := [(.number (-9), 10 ^ 30)]
  classes := []
  contrast := [⟨"\u00e9\u2028", 1, 1.23456789, "AA", 21.0, "AAA"⟩]
  skipped := [("😀.dart", "\t\x7f")]

theorem documents_read_back_escaped : ∃ text, escaped.documentText = .ok text ∧
    (∀ c ∈ text.toList, c.toNat < 128) ∧ (Json.read? text).bind ofDocument? = some { escaped with
      contrast := escaped.contrast.map fun row => { row with
        blackRatio := Decimal.rounded 4 row.blackRatio
        whiteRatio := Decimal.rounded 4 row.whiteRatio } } := by
  have black : ReadsBack (Decimal.rounded 4 1.23456789) :=
    ⟨⟨⟨false, 5560144099951614, -52⟩, by decide +kernel⟩, by decide +kernel⟩
  have white : ReadsBack (Decimal.rounded 4 21.0) :=
    ⟨⟨⟨false, 5910974510923776, -48⟩, by decide +kernel⟩, by decide +kernel⟩
  have small : ∀ n ∈ escaped.integers, n.natAbs < 10 ^ longestInteger := by
    simp only [← isWritable_iff]
    decide +kernel
  obtain ⟨back, some, -⟩ := documents_read_back escaped
    (fun row member => by
      cases List.mem_singleton.mp member
      exact ⟨black, white⟩)
    (fun x member => by
      cases List.mem_singleton.mp member)
  obtain ⟨text, made⟩ := some.mpr ⟨small, by
    intro n member
    cases List.mem_singleton.mp member
    rw [← isWritable_iff]
    decide +kernel, by
    intro kind written member
    cases List.mem_singleton.mp member⟩
  exact ⟨text, made, back text made⟩

/-- A limit of 4302 digits leaves a report without a document. -/
theorem documentText_overlong :
    (Report.blank "/project" ["num"] (.int (16 ^ 3572))).documentText = .error .unwritableInteger := by
  have long : ¬ isWritable (16 ^ 3572) := by
    rw [isWritable_iff]
    decide +kernel
  rw [documentText, blank, Setting.document, if_neg long]
  rfl

end Report

end SourceCensus
