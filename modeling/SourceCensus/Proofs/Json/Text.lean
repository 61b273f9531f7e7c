import SourceCensus.Json.Reader
import SourceCensus.Json.Writer
import SourceCensus.Proofs.Text.Digits

/-! Strings of a document, written and read again. Whatever characters a text has, it is written in
   ASCII, and each of its characters is read from what was written for it. -/
namespace SourceCensus.Json
open Text

theorem takeHex4?_hex {unit : Nat} (small : unit < 0x10000) (rest : List Char) :
    takeHex4? (hex 4 unit ++ rest) = some (unit, rest) := by
  have digits : ∀ c ∈ hex 4 unit, isHexDigit c := fun c => isHexDigit_of_mem_hex
  have value := valueInBase_hex 4 unit
  match written : hex 4 unit, length_hex (by omega) small with
  | [a, b, c, d], _ =>
    rw [written] at digits value
    have all : [a, b, c, d].all isHexDigit := List.all_eq_true.mpr digits
    simp only [List.cons_append, List.nil_append, takeHex4?, all, if_true, value]

theorem no_surrogate (c : Char) :
    isHighSurrogate c.toNat = false ∧ isLowSurrogate c.toNat = false := by
  simp only [isHighSurrogate, isLowSurrogate, Bool.and_eq_false_iff, decide_eq_false_iff_not]
  rcases c.valid with below | ⟨above, -⟩
  · have small : c.toNat < 0xD800 := below
    omega
  · have large : 0xDFFF < c.toNat := above
    omega

theorem toNat_lt (c : Char) : c.toNat < 0x110000 := by
  rcases c.valid with below | ⟨-, below⟩
  · have small : c.toNat < 0xD800 := below
    omega
  · exact below

theorem takeUnit?_hex {c : Char} (basic : c.toNat < 0x10000) (rest : List Char) :
    takeUnit? (hex 4 c.toNat ++ rest) = some (c, rest) := by
  obtain ⟨noHigh, noLow⟩ := no_surrogate c
  simp [takeUnit?, takeHex4?_hex basic, noHigh, noLow]

theorem takeUnit?_surrogates {high low : Nat} (isHigh : isHighSurrogate high)
    (isLow : isLowSurrogate low) (rest : List Char) :
    takeUnit? (hex 4 high ++ (unitEscape low ++ rest)) =
      some (Char.ofNat (joinSurrogates high low), rest) := by
  have highSmall : high < 0x10000 := by
    simp only [isHighSurrogate, Bool.and_eq_true, decide_eq_true_eq] at isHigh
    omega
  have lowSmall : low < 0x10000 := by
    simp only [isLowSurrogate, Bool.and_eq_true, decide_eq_true_eq] at isLow
    omega
  simp only [takeUnit?, takeHex4?_hex highSmall, unitEscape, List.cons_append, takeHex4?_hex lowSmall,
    isHigh, isLow, if_true, Option.bind_eq_bind, Option.bind_some]

/-- Beyond the basic plane a code has one high and one low surrogate. -/
theorem surrogates_of_beyond {code : Nat} (beyond : 0x10000 ≤ code) (greatest : code < 0x110000) :
    isHighSurrogate (0xD800 + (code - 0x10000) / 0x400) ∧
      isLowSurrogate (0xDC00 + (code - 0x10000) % 0x400) ∧
      joinSurrogates (0xD800 + (code - 0x10000) / 0x400) (0xDC00 + (code - 0x10000) % 0x400) =
        code := by
  refine ⟨?_, ?_, ?_⟩
  · simp only [isHighSurrogate, Bool.and_eq_true, decide_eq_true_eq]
    omega
  · simp only [isLowSurrogate, Bool.and_eq_true, decide_eq_true_eq]
    omega
  · unfold joinSurrogates
    omega

inductive Escapes (c : Char) : List Char → Prop
  | letter {letter : Char} (stands : plainEscape? letter = some c) (ascii : letter.toNat < 128) :
      Escapes c ['\\', letter]
  | plain (printable : 0x20 ≤ c.toNat ∧ c.toNat < 0x7F) (noQuote : c ≠ '"') (noMark : c ≠ '\\') :
      Escapes c [c]
  | unit (basic : c.toNat < 0x10000) : Escapes c (unitEscape c.toNat)
  | surrogates {high low : Nat} (isHigh : isHighSurrogate high) (isLow : isLowSurrogate low)
      (joined : joinSurrogates high low = c.toNat) : Escapes c (unitEscape high ++ unitEscape low)

theorem escapes (c : Char) : Escapes c (escapedChar c) := by
  unfold escapedChar
  split
  · rename_i marked
    rw [Bool.or_eq_true, decide_eq_true_eq, decide_eq_true_eq] at marked
    rcases marked with rfl | rfl <;> exact .letter rfl (by decide)
  rename_i unmarked
  simp only [Bool.or_eq_true, decide_eq_true_eq, not_or] at unmarked
  -- The controls that have a letter of their own.
  split
  · subst c
    exact .letter rfl (by decide)
  split
  · subst c
    exact .letter rfl (by decide)
  split
  · subst c
    exact .letter rfl (by decide)
  split
  · subst c
    exact .letter rfl (by decide)
  split
  · subst c
    exact .letter rfl (by decide)
  split
  · rename_i printable
    exact .plain (by simpa using printable) unmarked.1 unmarked.2
  split
  · rename_i basic
    exact .unit basic
  · rename_i beyond
    obtain ⟨high, low, joined⟩ := surrogates_of_beyond (Nat.not_lt.mp beyond) (toNat_lt c)
    exact .surrogates high low joined

theorem takeString?_escapedChar (fuel : Nat) (taken rest : List Char) (c : Char) :
    takeString? (fuel + 1) taken (escapedChar c ++ rest) = takeString? fuel (c :: taken) rest := by
  have form := escapes c
  generalize escapedChar c = written at *
  cases form with
  | @letter letter stands =>
    have noUnit : letter ≠ 'u' := by
      rintro rfl
      cases stands
    rw [List.cons_append, List.cons_append, List.nil_append, takeString?, stands]
    exact noUnit
  | plain printable noQuote noMark =>
    rw [List.cons_append, List.nil_append, takeString?, if_neg (by omega)]
    · exact noQuote
    · intro _ mark
      exact absurd mark noMark
    · intro _ _ mark
      exact absurd mark noMark
  | unit basic =>
    rw [unitEscape, List.cons_append, List.cons_append, takeString?, takeUnit?_hex basic]
  | @surrogates high low isHigh isLow joined =>
    have read := takeUnit?_surrogates isHigh isLow rest
    rw [List.append_assoc]
    generalize unitEscape low ++ rest = more at *
    rw [unitEscape, List.cons_append, List.cons_append, takeString?, read, joined, Char.ofNat_toNat]

theorem takeString?_escaped (text taken rest : List Char) {fuel : Nat} (enough : text.length < fuel) :
    takeString? fuel taken (text.flatMap escapedChar ++ '"' :: rest) =
      some (text.reverse ++ taken, rest) := by
  induction text generalizing fuel taken with
  | nil =>
    cases fuel with
    | zero => cases enough
    | succ fuel => simp [takeString?]
  | cons c text ih =>
    cases fuel with
    | zero => cases enough
    | succ fuel =>
      have fewer : text.length < fuel := Nat.lt_of_succ_lt_succ enough
      rw [List.flatMap_cons, List.append_assoc, takeString?_escapedChar, ih (c :: taken) fewer]
      simp

theorem escapedChar_ne_nil (c : Char) : escapedChar c ≠ [] := by
  have form := escapes c
  generalize escapedChar c = written at *
  cases form with
  | letter => exact List.cons_ne_nil _ _
  | plain => exact List.cons_ne_nil _ _
  | unit => exact List.cons_ne_nil _ _
  | surrogates => exact List.cons_ne_nil _ _

theorem length_le_escaped (text : List Char) : text.length ≤ (text.flatMap escapedChar).length := by
  induction text with
  | nil => simp
  | cons c text ih =>
    have some := List.length_pos_iff.mpr (escapedChar_ne_nil c)
    rw [List.flatMap_cons, List.length_append, List.length_cons]
    omega

theorem readString?_escaped (text : String) (rest : List Char) :
    readString? (text.toList.flatMap escapedChar ++ '"' :: rest) = some (text, rest) := by
  have enough : text.toList.length <
      (text.toList.flatMap escapedChar ++ '"' :: rest).length + 1 := by
    have fewer := length_le_escaped text.toList
    rw [List.length_append]
    omega
  rw [readString?, takeString?_escaped _ _ _ enough]
  simp

def Ascii (text : List Char) : Prop := ∀ c ∈ text, c.toNat < 128

@[simp] theorem ascii_nil : Ascii [] := by simp [Ascii]

@[simp] theorem ascii_cons (c : Char) (text : List Char) :
    Ascii (c :: text) ↔ c.toNat < 128 ∧ Ascii text := by simp [Ascii]

@[simp] theorem ascii_append (text more : List Char) :
    Ascii (text ++ more) ↔ Ascii text ∧ Ascii more := by simp [Ascii, or_imp, forall_and]

theorem ascii_unitEscape (unit : Nat) : Ascii (unitEscape unit) := by
  rw [unitEscape, ascii_cons, ascii_cons]
  exact ⟨by decide, by decide, fun c member => toNat_lt_of_isHexDigit (isHexDigit_of_mem_hex member)⟩

theorem ascii_escapedChar (c : Char) : Ascii (escapedChar c) := by
  have form := escapes c
  generalize escapedChar c = written at *
  cases form with
  | letter _ ascii => simpa using ascii
  | plain printable =>
    rw [ascii_cons]
    exact ⟨by omega, ascii_nil⟩
  | unit => exact ascii_unitEscape _
  | surrogates => exact (ascii_append _ _).mpr ⟨ascii_unitEscape _, ascii_unitEscape _⟩

theorem ascii_writeString (text : String) : Ascii (writeString text) := by
  have inside : Ascii (text.toList.flatMap escapedChar) := by
    intro d member
    obtain ⟨c, -, here⟩ := List.mem_flatMap.mp member
    exact ascii_escapedChar c d here
  rw [writeString, ascii_append, ascii_cons, ascii_cons]
  exact ⟨⟨by decide, inside⟩, by decide, ascii_nil⟩

end SourceCensus.Json
