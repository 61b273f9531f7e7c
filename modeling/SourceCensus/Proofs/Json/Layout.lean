import SourceCensus.Json.Reader
import SourceCensus.Json.Writer

/-! The layout of a document. White space before a value or a member makes no difference to a reader, and
   each further item is written behind a comma. -/
namespace SourceCensus.Json

theorem skipSpace_append {spaces : List Char} (blank : ∀ c ∈ spaces, isSpace c) (rest : List Char) :
    skipSpace (spaces ++ rest) = skipSpace rest :=
  List.dropWhile_append_of_pos blank

theorem skipSpace_cons {c : Char} (mark : isSpace c = false) (rest : List Char) :
    skipSpace (c :: rest) = c :: rest := by
  simp [skipSpace, mark]

theorem isSpace_lineBreak (style : Style) (depth : Nat) : ∀ c ∈ style.lineBreak depth, isSpace c := by
  intro c member
  rw [Style.lineBreak] at member
  split at member
  · rcases List.mem_cons.mp member with rfl | blank
    · decide
    · cases List.eq_of_mem_replicate blank
      decide
  · cases member

theorem skipSpace_skipSpace (text : List Char) : skipSpace (skipSpace text) = skipSpace text := by
  induction text with
  | nil => rfl
  | cons c rest ih =>
    cases blank : isSpace c with
    | false => rw [skipSpace_cons blank, skipSpace_cons blank]
    | true =>
      have skipped : skipSpace (c :: rest) = skipSpace rest := by simp [skipSpace, blank]
      rw [skipped, ih]

theorem readValue?_skipSpace (fuel : Nat) (text : List Char) :
    readValue? fuel (skipSpace text) = readValue? fuel text := by
  cases fuel with
  | zero => rw [readValue?, readValue?]
  | succ fuel => simp only [readValue?, skipSpace_skipSpace]

theorem readItems?_skipSpace (fuel : Nat) (text : List Char) :
    readItems? fuel (skipSpace text) = readItems? fuel text := by
  cases fuel with
  | zero => rw [readItems?, readItems?]
  | succ fuel => simp only [readItems?, readValue?_skipSpace]

theorem readMembers?_skipSpace (fuel : Nat) (text : List Char) :
    readMembers? fuel (skipSpace text) = readMembers? fuel text := by
  cases fuel with
  | zero => rw [readMembers?, readMembers?]
  | succ fuel => simp only [readMembers?, skipSpace_skipSpace]

theorem readValue?_append {spaces : List Char} (blank : ∀ c ∈ spaces, isSpace c) (fuel : Nat)
    (rest : List Char) : readValue? fuel (spaces ++ rest) = readValue? fuel rest := by
  rw [← readValue?_skipSpace, skipSpace_append blank, readValue?_skipSpace]

section
variable (style : Style)

theorem writeItems_append (depth : Nat) (item : Value) (rest : List Value)
    (behind : List Char) : writeItems style depth (item :: rest) ++ behind =
      ',' :: ((writeItems style depth (item :: rest)).tail ++ behind) := by
  rw [writeItems, List.tail_cons, List.cons_append]

theorem writeMembers_append (depth : Nat) (member : String × Value)
    (rest : List (String × Value)) (behind : List Char) :
    writeMembers style depth (member :: rest) ++ behind =
      ',' :: ((writeMembers style depth (member :: rest)).tail ++ behind) := by
  rw [writeMembers, List.tail_cons, List.cons_append]

end
end SourceCensus.Json
