import Mathlib
import SourceCensus.Proofs.Census

/-! A census over any history. What it holds after some steps is a matter of three streams: the colors,
   the numbers and the sizes that the steps bring, in the order of the steps. A scan brings only what
   its modes ask for. -/
namespace SourceCensus.Census

inductive Step
  | addColors (keys : List String)
  | addNumbers (values : List Int)
  | recordClasses (sizes : List (String × Int))
  | scan (modes : List Mode) (text : List Char)

namespace Step

def apply (scanner : Block.Scanner) (c : Census) : Step → Census
  | .addColors keys => c.addColors keys
  | .addNumbers values => c.addNumbers values
  | .recordClasses sizes => c.recordClasses sizes
  | .scan modes text => c.scan scanner modes text

def colors : Step → List String
  | .addColors keys => keys
  | .scan modes text => if .color ∈ modes ∨ .contrast ∈ modes then Color.keys text else []
  | _ => []

def numbers : Step → List Int
  | .addNumbers values => values
  | .scan modes text => if .num ∈ modes then MagicNumber.all text else []
  | _ => []

def classes (scanner : Block.Scanner) : Step → List (String × Int)
  | .recordClasses sizes => sizes
  | .scan modes text => if .classes ∈ modes then scanner.sizes text else []
  | _ => []

end Step

def after (scanner : Block.Scanner) (steps : List Step) : Census :=
  steps.foldl (Step.apply scanner) empty

section
variable (scanner : Block.Scanner) (c : Census) (modes : List Mode) (text : List Char)

theorem colors_scan_of_modes : (c.scan scanner modes text).colors =
    if .color ∈ modes ∨ .contrast ∈ modes then c.colors.countAll (Color.keys text) else c.colors := by
  have asked : wantsColors modes = true ↔ .color ∈ modes ∨ .contrast ∈ modes := by
    rw [wantsColors, Bool.or_eq_true, List.contains_iff_mem, List.contains_iff_mem]
  simp only [colors_scan, asked]

theorem numbers_scan_of_modes : (c.scan scanner modes text).numbers =
    if .num ∈ modes then c.numbers.countAll (MagicNumber.all text) else c.numbers := by
  simp only [numbers_scan, List.contains_iff_mem]

theorem classes_scan_of_modes : (c.scan scanner modes text).classes =
    if .classes ∈ modes then c.classes.putAll (scanner.sizes text) else c.classes := by
  simp only [classes_scan, List.contains_iff_mem]

variable (step : Step)

theorem colors_apply : (step.apply scanner c).colors = c.colors.countAll step.colors := by
  cases step with
  | scan modes text =>
    rw [Step.apply, colors_scan_of_modes, Step.colors]
    split <;> rfl
  | _ => rfl

theorem numbers_apply : (step.apply scanner c).numbers = c.numbers.countAll step.numbers := by
  cases step with
  | scan modes text =>
    rw [Step.apply, numbers_scan_of_modes, Step.numbers]
    split <;> rfl
  | _ => rfl

theorem classes_apply :
    (step.apply scanner c).classes = c.classes.putAll (step.classes scanner) := by
  cases step with
  | scan modes text =>
    rw [Step.apply, classes_scan_of_modes, Step.classes]
    split <;> rfl
  | _ => rfl

end

variable {scanner : Block.Scanner} {c : Census} {steps : List Step}

/-- The tallies hold what the streams of these steps hold. -/
structure Records (c : Census) (scanner : Block.Scanner) (steps : List Step) : Prop where
  colors : c.colors.Holds (steps.flatMap Step.colors) (Counted (steps.flatMap Step.colors))
  numbers : c.numbers.Holds (steps.flatMap Step.numbers) (Counted (steps.flatMap Step.numbers))
  classes : c.classes.Holds ((steps.flatMap (Step.classes scanner)).map (·.1))
    (GivenLast (steps.flatMap (Step.classes scanner)))

theorem Records.apply (records : c.Records scanner steps) (step : Step) :
    (step.apply scanner c).Records scanner (steps ++ [step]) := by
  constructor
  · rw [colors_apply, List.flatMap_append, List.flatMap_singleton]
    exact records.colors.countAll step.colors
  · rw [numbers_apply, List.flatMap_append, List.flatMap_singleton]
    exact records.numbers.countAll step.numbers
  · rw [classes_apply, List.flatMap_append, List.flatMap_singleton]
    exact records.classes.putAll (step.classes scanner)

theorem Records.foldl (records : c.Records scanner steps) (more : List Step) :
    (more.foldl (Step.apply scanner) c).Records scanner (steps ++ more) := by
  induction more generalizing c steps with
  | nil =>
    rw [List.append_nil]
    exact records
  | cons step more ih =>
    rw [List.append_cons]
    exact ih (records.apply step)

theorem records_after (scanner : Block.Scanner) (steps : List Step) :
    (after scanner steps).Records scanner steps := by
  have start : empty.Records scanner [] :=
    ⟨Tally.holds_empty _, Tally.holds_empty _, Tally.holds_empty _⟩
  exact start.foldl steps

/-- Whatever the history: colors and numbers stand with their occurrences, classes with the sizes given
   last, each in the order of first sight; a scan touches only the tallies its modes ask for; and the
   order of the steps does not matter to the counts. -/
theorem after_any_history (scanner : Block.Scanner) (steps : List Step) :
    (after scanner steps).Records scanner steps ∧
    (∀ entry ∈ (after scanner steps).colors.entries, 1 ≤ entry.2) ∧
    (∀ entry ∈ (after scanner steps).numbers.entries, 1 ≤ entry.2) ∧
    (∀ (c : Census) (modes : List Mode) (text : List Char),
      (c.scan scanner modes text).colors =
        (if .color ∈ modes ∨ .contrast ∈ modes then c.colors.countAll (Color.keys text)
        else c.colors) ∧
      (c.scan scanner modes text).numbers =
        (if .num ∈ modes then c.numbers.countAll (MagicNumber.all text) else c.numbers) ∧
      (c.scan scanner modes text).classes =
        (if .classes ∈ modes then c.classes.putAll (scanner.sizes text) else c.classes)) ∧
    ∀ others : List Step, steps.Perm others →
      (∀ key, (after scanner steps).colors.value? key = (after scanner others).colors.value? key) ∧
      ∀ key, (after scanner steps).numbers.value? key = (after scanner others).numbers.value? key := by
  have records := records_after scanner steps
  refine ⟨records, ?_, ?_, ?_, ?_⟩
  · intro entry member
    exact records.colors.one_le member
  · intro entry member
    exact records.numbers.one_le member
  · intro c modes text
    exact ⟨colors_scan_of_modes scanner c modes text, numbers_scan_of_modes scanner c modes text,
      classes_scan_of_modes scanner c modes text⟩
  · intro others perm
    have also := records_after scanner others
    constructor
    · exact records.colors.value?_perm also.colors (perm.flatMap_right _)
    · exact records.numbers.value?_perm also.numbers (perm.flatMap_right _)

def wordScanner : Block.Scanner := ⟨⟨"class", Pattern.literally "class"⟩, false⟩

def bothColorModes : Step := .scan [.color, .contrast] "f(Color(a), Color(b))".toList

theorem after_any_history_swapped :
    [bothColorModes, .addColors ["b"]].Perm [.addColors ["b"], bothColorModes] ∧
    (∀ key, (after wordScanner [bothColorModes, .addColors ["b"]]).colors.value? key =
      (after wordScanner [.addColors ["b"], bothColorModes]).colors.value? key) ∧
    (after wordScanner [bothColorModes, .addColors ["b"]]).colors.entries = [("a", 1), ("b", 2)] ∧
    (after wordScanner [.addColors ["b"], bothColorModes]).colors.entries = [("b", 2), ("a", 1)] := by
  have perm : [bothColorModes, .addColors ["b"]].Perm [.addColors ["b"], bothColorModes] :=
    List.Perm.swap _ _ _
  obtain ⟨-, -, -, -, order⟩ :=
    after_any_history wordScanner [bothColorModes, .addColors ["b"]]
  refine ⟨perm, (order _ perm).1, ?_, ?_⟩
  · cbv
  · cbv

end SourceCensus.Census
