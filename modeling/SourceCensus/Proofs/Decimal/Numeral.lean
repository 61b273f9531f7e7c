import SourceCensus.Decimal.Reading
import SourceCensus.Proofs.Text.Digits

/-! Numbers as documents write them, and what reading makes of them. A number is cut into its parts
   again wherever its text ends; the shortest form of a finite double is such a number. -/
namespace SourceCensus.Decimal
open Text

/-- A sign if it is negative, digits without an idle zero before them, perhaps a point with digits
   behind it, and perhaps a power of ten by its sign and its digits. -/
structure Numeral where
  negative : Bool
  whole : List Char
  fraction : List Char
  power : Option (Bool × List Char)
  nonempty : whole ≠ []
  wholeDigits : ∀ c ∈ whole, c.isDigit
  noIdleZero : 1 < whole.length → whole.head? ≠ some '0'
  fractionDigits : ∀ c ∈ fraction, c.isDigit
  powerDigits : ∀ negative digits, power = some (negative, digits) →
    digits ≠ [] ∧ ∀ c ∈ digits, c.isDigit

namespace Numeral

def pointText (fraction : List Char) : List Char := if fraction = [] then [] else '.' :: fraction

def powerText : Option (Bool × List Char) → List Char
  | none => []
  | some (negative, digits) => 'e' :: (if negative then '-' else '+') :: digits

def text (n : Numeral) : List Char :=
  signed n.negative (n.whole ++ (pointText n.fraction ++ powerText n.power))

def exponentOf : Option (Bool × List Char) → Int
  | none => 0
  | some (negative, digits) =>
    let size : Int := valueInBase 10 digits
    if negative then -size else size

def parts (n : Numeral) : Parts := ⟨n.negative, n.whole, n.fraction, exponentOf n.power⟩

/-- Whether a text that follows a number cannot be taken for more of it. -/
def Ends (rest : List Char) : Prop :=
  ∀ c ∈ rest.head?, c.isDigit = false ∧ c ≠ '.' ∧ c ≠ 'e' ∧ c ≠ 'E'

end Numeral

theorem signed_append (negative : Bool) (text rest : List Char) :
    signed negative text ++ rest = signed negative (text ++ rest) := by
  cases negative <;> rfl

theorem takeSign_signed (negative : Bool) {text : List Char}
    (unsigned : ∀ c ∈ text.head?, c ≠ '-' ∧ c ≠ '+') :
    takeSign (signed negative text) = (negative, text) := by
  cases negative with
  | true => rfl
  | false =>
    rw [signed, if_neg (by simp)]
    unfold takeSign
    split
    · exact absurd rfl (unsigned '-' rfl).1
    · exact absurd rfl (unsigned '+' rfl).2
    · rfl

theorem takeDigits_append {digits rest : List Char} (run : ∀ c ∈ digits, c.isDigit)
    (stops : ∀ c ∈ rest.head?, c.isDigit = false) : takeDigits (digits ++ rest) = (digits, rest) := by
  have stays : rest.takeWhile Char.isDigit = [] ∧ rest.dropWhile Char.isDigit = rest := by
    cases rest with
    | nil => exact ⟨rfl, rfl⟩
    | cons c rest => simp [stops c rfl]
  rw [takeDigits, List.takeWhile_append_of_pos run, List.dropWhile_append_of_pos run, stays.1, stays.2,
    List.append_nil]

namespace Numeral
variable {rest : List Char}

theorem takeExponent_powerText {power : Option (Bool × List Char)}
    (digits : ∀ negative digits, power = some (negative, digits) →
      digits ≠ [] ∧ ∀ c ∈ digits, c.isDigit) (ends : Ends rest) :
    takeExponent (powerText power ++ rest) = (exponentOf power, rest) := by
  cases power with
  | none =>
    cases rest with
    | nil => rfl
    | cons c rest =>
      obtain ⟨-, -, small, great⟩ := ends c rfl
      simp [powerText, takeExponent, exponentOf, small, great]
  | some power =>
    obtain ⟨negative, run⟩ := power
    obtain ⟨nonempty, all⟩ := digits negative run rfl
    have signs : takeSign ((if negative then '-' else '+') :: (run ++ rest)) = (negative, run ++ rest) := by
      cases negative <;> rfl
    have taken := takeDigits_append all fun c first => (ends c first).1
    simp [powerText, takeExponent, exponentOf, signs, taken, nonempty]

theorem head?_powerText (power : Option (Bool × List Char)) (ends : Ends rest) :
    ∀ c ∈ (powerText power ++ rest).head?, c.isDigit = false ∧ c ≠ '.' := by
  intro c first
  cases power with
  | none => exact ⟨(ends c first).1, (ends c first).2.1⟩
  | some power =>
    obtain ⟨negative, digits⟩ := power
    cases first
    decide

theorem takeSign_text (n : Numeral) (rest : List Char) : takeSign (n.text ++ rest) =
    (n.negative, n.whole ++ (pointText n.fraction ++ (powerText n.power ++ rest))) := by
  rw [text, signed_append, takeSign_signed]
  · simp
  · intro c first
    have shape := n.wholeDigits c (by
      obtain ⟨digit, more, split⟩ := List.exists_cons_of_ne_nil n.nonempty
      rw [split] at first ⊢
      cases first
      exact List.mem_cons_self)
    constructor <;> rintro rfl <;> cases shape

/-- A number is cut into its parts, whatever stands behind it and is no more of it. -/
theorem takeParts?_text (n : Numeral) (ends : Ends rest) :
    takeParts? (n.text ++ rest) = some (n.parts, rest) := by
  have behind := head?_powerText n.power ends
  have wholeTaken : takeDigits (n.whole ++ (pointText n.fraction ++ (powerText n.power ++ rest))) =
      (n.whole, pointText n.fraction ++ (powerText n.power ++ rest)) := by
    refine takeDigits_append n.wholeDigits ?_
    intro c first
    by_cases none : n.fraction = []
    · rw [pointText, if_pos none] at first
      exact (behind c first).1
    · rw [pointText, if_neg none] at first
      cases first
      rfl
  have powerTaken := takeExponent_powerText n.powerDigits ends
  simp only [takeParts?, takeSign_text, wholeTaken]
  by_cases none : n.fraction = []
  · simp only [pointText, none, if_true, List.nil_append]
    split
    · rename_i first
      exact absurd rfl (behind '.' (by rw [first]; rfl)).2
    · simp [n.nonempty, powerTaken, parts, none]
  · have fractionTaken := takeDigits_append n.fractionDigits fun c first => (behind c first).1
    simp [pointText, none, fractionTaken, powerTaken, parts]

def IsMark (c : Char) : Prop := c.isDigit ∨ c ∈ ['.', 'e', '+', '-']

instance (c : Char) : Decidable (IsMark c) := inferInstanceAs (Decidable (_ ∨ _))

theorem IsMark.toNat_lt {c : Char} (mark : IsMark c) : c.toNat < 128 := by
  rcases mark with digit | other
  · simp only [Char.isDigit, Bool.and_eq_true, decide_eq_true_eq, UInt32.le_iff_toNat_le] at digit
    have great : c.toNat ≤ 57 := digit.2
    omega
  · simp only [List.mem_cons, List.not_mem_nil, or_false] at other
    rcases other with rfl | rfl | rfl | rfl <;> decide

theorem IsMark.plain {c : Char} (mark : IsMark c) :
    isNumberBlank c = false ∧ asciiDigit c = c ∧ c ≠ '_' := by
  have known : ∀ code < 128, IsMark (Char.ofNat code) →
      isNumberBlank (Char.ofNat code) = false ∧ asciiDigit (Char.ofNat code) = Char.ofNat code ∧
        Char.ofNat code ≠ '_' := by decide
  simpa using known c.toNat mark.toNat_lt (by simpa using mark)

theorem mem_text (n : Numeral) (c : Char) : c ∈ n.text ↔ (n.negative = true ∧ c = '-') ∨
    c ∈ n.whole ∨ c ∈ pointText n.fraction ∨ c ∈ powerText n.power := by
  rw [text]
  cases n.negative <;> simp [signed]

theorem mem_pointText {n : Numeral} {c : Char} (member : c ∈ pointText n.fraction) :
    (c = '.' ∧ n.fraction ≠ []) ∨ c.isDigit := by
  rw [pointText] at member
  split at member
  · cases member
  · rcases List.mem_cons.mp member with rfl | digit
    · exact .inl ⟨rfl, ‹_›⟩
    · exact .inr (n.fractionDigits c digit)

theorem mem_powerText {n : Numeral} {c : Char} (member : c ∈ powerText n.power) :
    c = 'e' ∨ c = '+' ∨ c = '-' ∨ c.isDigit := by
  cases given : n.power with
  | none => simp [given, powerText] at member
  | some power =>
    obtain ⟨negative, digits⟩ := power
    rw [given, powerText] at member
    rcases List.mem_cons.mp member with rfl | later
    · exact .inl rfl
    rcases List.mem_cons.mp later with rfl | digit
    · cases negative
      · exact .inr (.inl rfl)
      · exact .inr (.inr (.inl rfl))
    · exact .inr (.inr (.inr ((n.powerDigits negative digits given).2 c digit)))

theorem mark_of_mem_text (n : Numeral) {c : Char} (member : c ∈ n.text) : IsMark c := by
  obtain ⟨-, rfl⟩ | whole | fraction | power := (n.mem_text c).mp member
  · decide
  · exact .inl (n.wholeDigits c whole)
  · rcases mem_pointText fraction with ⟨rfl, -⟩ | digit
    · decide
    · exact .inl digit
  · obtain rfl | rfl | rfl | digit := mem_powerText power
    · decide
    · decide
    · decide
    · exact .inl digit

theorem text_starts (n : Numeral) : ∃ c more, n.text = c :: more ∧ (c = '-' ∨ c.isDigit) := by
  obtain ⟨digit, more, written⟩ := List.exists_cons_of_ne_nil n.nonempty
  cases negative : n.negative with
  | true =>
    refine ⟨'-', n.whole ++ (pointText n.fraction ++ powerText n.power), ?_, .inl rfl⟩
    simp [text, negative, signed]
  | false =>
    refine ⟨digit, more ++ (pointText n.fraction ++ powerText n.power), ?_, .inr ?_⟩
    · simp [text, negative, signed, written]
    · exact n.wholeDigits digit (by simp [written])

theorem trimNumber_of_plain {text : List Char} (plain : ∀ c ∈ text, isNumberBlank c = false) :
    trimNumber text = text := by
  have stays {text : List Char} (plain : ∀ c ∈ text, isNumberBlank c = false) :
      text.dropWhile isNumberBlank = text := by
    cases text with
    | nil => rfl
    | cons c rest => simp [plain c]
  have turned : ∀ c ∈ text.reverse, isNumberBlank c = false := by simpa using plain
  rw [trimNumber, stays plain, stays turned, List.reverse_reverse]

theorem dropLowLines?_of_plain {text : List Char} (plain : ∀ c ∈ text, c ≠ '_') (before : Option Char) :
    dropLowLines? before text = some text := by
  induction text generalizing before with
  | nil => cases before <;> rfl
  | cons c rest ih =>
    obtain ⟨first, others⟩ := List.forall_mem_cons.mp plain
    unfold dropLowLines?
    split
    · simp_all
    · simp_all
    · simp_all

theorem specialOf?_text (n : Numeral) : specialOf? n.text = none := by
  have sign := n.takeSign_text []
  rw [List.append_nil, List.append_nil] at sign
  obtain ⟨digit, more, written⟩ := List.exists_cons_of_ne_nil n.nonempty
  have shape : digit.isDigit := n.wholeDigits digit (by simp [written])
  have mark : IsMark digit := .inl shape
  have known : ∀ code < 128, (Char.ofNat code).isDigit →
      (Char.ofNat code).toLower ≠ 'i' ∧ (Char.ofNat code).toLower ≠ 'n' := by decide
  obtain ⟨noI, noN⟩ : digit.toLower ≠ 'i' ∧ digit.toLower ≠ 'n' := by
    simpa using known digit.toNat mark.toNat_lt (by simpa using shape)
  have other (name : String) (first : Char) (starts : name.toList.head? = some first)
      (apart : digit.toLower ≠ first) :
      String.ofList ((n.whole ++ (pointText n.fraction ++ powerText n.power)).map Char.toLower) ≠
        name := by
    rintro rfl
    rw [String.toList_ofList, written] at starts
    exact apart (by simpa using starts)
  simp only [specialOf?, sign, other "inf" 'i' rfl noI, other "infinity" 'i' rfl noI,
    other "nan" 'n' rfl noN, decide_false, Bool.or_self, Bool.false_eq_true, if_false]

theorem readFloat?_text (n : Numeral) : readFloat? (String.ofList n.text) = some n.parts.value := by
  have plain := fun c (member : c ∈ n.text) => (n.mark_of_mem_text member).plain
  have same : n.text.map asciiDigit = n.text := by
    refine (List.map_congr_left fun c member => (plain c member).2.1).trans (List.map_id _)
  have ends : Ends [] := by simp [Ends]
  have whole := n.takeParts?_text ends
  rw [List.append_nil] at whole
  rw [readFloat?, String.toList_ofList, trimNumber_of_plain fun c member => (plain c member).1, same,
    dropLowLines?_of_plain fun c member => (plain c member).2.2]
  simp only [specialOf?_text, whole]

end Numeral

end SourceCensus.Decimal
