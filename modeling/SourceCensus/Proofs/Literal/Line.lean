import Mathlib
import SourceCensus.Proofs.Literal.Alike
import SourceCensus.Proofs.Literal.Seam

/-! Texts line by line. A newline at which a token starts is a token of its own and hides what stands
   before it, so that the text behind it is stripped as if it stood alone. -/
namespace SourceCensus.Literal
open Text

theorem TokenStart.reaches_or_crosses {text : List Char} {place stop : Nat}
    (start : TokenStart text place) (before : place ≤ stop) (inside : stop ≤ text.length) :
    TokenStart text stop ∨ ∃ i < stop, TokenStart text i ∧ stop < tokenEnd text i := by
  -- By induction on the way that is left: the token that starts here ends at the latest at the place,
  -- or it takes the place with it.
  induction left : stop - place using Nat.strongRecOn generalizing place with
  | ind k ih =>
    by_cases here : place = stop
    · subst here
      exact Or.inl start
    · have more : place < text.length := by omega
      have further := lt_tokenEnd more
      by_cases across : stop < tokenEnd text place
      · exact Or.inr ⟨place, by omega, start, across⟩
      · exact ih (stop - tokenEnd text place) (by omega) (.next start more) (by omega) rfl

theorem stripFrom_newline {c : Cursor} {rest : List Char} (ahead : c.after = '\n' :: rest) :
    stripFrom c = '\n' :: strip rest := by
  have plain : Plain ('\n' :: rest) := plain_cons rest (by decide) (by decide) (by decide)
  have before : (c.forward 1).before = '\n' :: c.before := by
    rw [Cursor.before_forward, ahead]
    rfl
  have after : (c.forward 1).after = rest := by
    rw [Cursor.after_forward, ahead]
    rfl
  -- a newline is neither an r nor part of a name, and behind the start of a text there is nothing
  have alike : Alike (c.forward 1) (Cursor.start rest) := by
    refine ⟨after, ?_, ?_⟩
    · rw [before]
      cases c.before <;> rfl
    · intro x
      rw [before]
      simp [isRaw, Cursor.start, show isWord '\n' = false by decide]
  rw [stripFrom_plain_cons ahead plain, stripFrom_alike alike]
  rfl

theorem drop_strip_newline {text : List Char} {place : Nat} (start : TokenStart text place)
    (newline : text[place]? = some '\n') :
    (strip text).drop place = '\n' :: strip (text.drop (place + 1)) := by
  rw [drop_strip start]
  apply stripFrom_newline
  rw [Cursor.after_within]
  exact drop_of_getElem? newline

theorem strip_line {line : List Char} (start : TokenStart (line ++ ['\n']) line.length)
    (rest : List Char) :
    strip (line ++ '\n' :: rest) =
      (strip (line ++ ['\n'])).take line.length ++ '\n' :: strip rest := by
  -- The line end hides what follows it, too, so the same tokens come up to it in both texts.
  have seam : Seam ['\n'] ('\n' :: rest) := seam_cons (by simp)
  obtain ⟨later, same⟩ := strip_seam seam start (Nat.le_refl _)
  have newline : (line ++ '\n' :: rest)[line.length]? = some '\n' := by
    rw [List.getElem?_append_right (Nat.le_refl _), Nat.sub_self]
    rfl
  have behind : (line ++ '\n' :: rest).drop (line.length + 1) = rest := by
    rw [← List.drop_drop, List.drop_left]
    rfl
  calc strip (line ++ '\n' :: rest)
      = (strip (line ++ '\n' :: rest)).take line.length ++
          (strip (line ++ '\n' :: rest)).drop line.length := (List.take_append_drop _ _).symm
    _ = (strip (line ++ ['\n'])).take line.length ++ '\n' :: strip rest := by
        rw [← same, drop_strip_newline later newline, behind]

/-- Stripping composes at a line end where a token starts. If none does, one comment or literal that
    starts in the line takes the line end: nothing else reaches what follows. -/
theorem lines_strip_apart (line rest : List Char) :
    (TokenStart (line ++ ['\n']) line.length →
      strip (line ++ '\n' :: rest) = strip (line ++ ['\n']) ++ strip rest) ∧
    (¬ TokenStart (line ++ ['\n']) line.length →
      ∃ place < line.length, TokenStart (line ++ ['\n']) place ∧
        tokenEnd (line ++ ['\n']) place = line.length + 1 ∧
        (token (Cursor.within (line ++ ['\n']) place)).1 ≠ .plain) := by
  constructor
  · intro start
    have alone := strip_line start []
    have followed := strip_line start rest
    rw [strip_nil] at alone
    rw [alone, followed, List.append_assoc]
    rfl
  · intro covered
    have length : (line ++ ['\n']).length = line.length + 1 := List.length_append
    have inside : line.length ≤ (line ++ ['\n']).length := by omega
    obtain ⟨place, before, start, across⟩ :=
      (TokenStart.first.reaches_or_crosses (Nat.zero_le _) inside).resolve_left covered
    have more : place < (line ++ ['\n']).length := by omega
    have bound := tokenEnd_le more
    refine ⟨place, before, start, by omega, ?_⟩
    intro plain
    have width := width_of_plain plain
    unfold tokenEnd at across
    omega

theorem lines_strip_apart_unclosed :
    TokenStart ("r'\x7b".toList ++ ['\n']) 3 ∧
      strip ("r'\x7b".toList ++ '\n' :: "'\x7d'".toList) =
        strip ("r'\x7b".toList ++ ['\n']) ++ strip "'\x7d'".toList ∧
      ¬ TokenStart ("/*".toList ++ ['\n']) 2 ∧
      ∃ place < 2, TokenStart ("/*".toList ++ ['\n']) place ∧
        tokenEnd ("/*".toList ++ ['\n']) place = 3 ∧
        (token (Cursor.within ("/*".toList ++ ['\n']) place)).1 ≠ .plain := by
  have second : TokenStart ("r'\x7b".toList ++ ['\n']) 1 := .next .first (by decide)
  have literal : tokenEnd ("r'\x7b".toList ++ ['\n']) 1 = 3 := by cbv
  have start : TokenStart ("r'\x7b".toList ++ ['\n']) 3 := literal ▸ .next second (by decide)
  have starts {place : Nat} (found : TokenStart ("/*".toList ++ ['\n']) place) :
      place = 0 ∨ place = 3 := by
    induction found with
    | first => exact Or.inl rfl
    | next earlier more ih =>
      rcases ih with rfl | rfl
      · exact Or.inr rfl
      · exact absurd more (by decide)
  have covered : ¬ TokenStart ("/*".toList ++ ['\n']) 2 := by
    intro found
    have place := starts found
    omega
  exact ⟨start, (lines_strip_apart _ _).1 start, covered, (lines_strip_apart _ []).2 covered⟩

end SourceCensus.Literal
