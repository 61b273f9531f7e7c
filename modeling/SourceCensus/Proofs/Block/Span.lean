import Mathlib
import SourceCensus.Block
import SourceCensus.Proofs.Literal.Strip
import SourceCensus.Proofs.Pattern.Match
import SourceCensus.Proofs.Text.Run

/-! Where spans lie. A span found in a stripped text holds the same places of the text before it was
   stripped: no brace and no character of a name is a space. -/
namespace SourceCensus.Block
open Text Pattern

/-- A span in a text: from an opening brace, with its name before it, to a closing brace or to the
   end of the text. -/
structure Span.Fits (span : Span) (text : List Char) : Prop where
  ordered : span.start ≤ span.stop
  inside : span.stop < text.length
  opens : text[span.start]? = some '{'
  closes : text[span.stop]? = some '}' ∨ span.stop + 1 = text.length
  named : ∃ place, span.name.toList <+: text.drop place ∧
    place + span.name.toList.length ≤ span.start

theorem secondWord?_eq_some {text word : List Char} (found : secondWord? text = some word) :
    word <:+: text ∧ ∀ c ∈ word, isBlank c = false := by
  unfold secondWord? at found
  split at found
  · cases found
  · rename_i rest _
    obtain rfl := Option.some.inj found
    have rest_suffix : ((text.dropWhile isBlank).dropWhile (!isBlank ·)).dropWhile isBlank <:+
        text :=
      (List.dropWhile_suffix _).trans ((List.dropWhile_suffix _).trans (List.dropWhile_suffix _))
    refine ⟨(List.takeWhile_prefix _).isInfix.trans rest_suffix.isInfix, ?_⟩
    intro c member
    simpa using List.mem_takeWhile_imp member

theorem depthChange_cases (c : Char) :
    (c = '{' ∧ depthChange c = 1) ∨ (c = '}' ∧ depthChange c = -1) ∨ depthChange c = 0 := by
  unfold depthChange
  split
  · rename_i opening
    exact Or.inl ⟨opening, rfl⟩
  · split
    · rename_i closing
      exact Or.inr (Or.inl ⟨closing, rfl⟩)
    · exact Or.inr (Or.inr rfl)

theorem closing?_brace {depth : Int} {text : List Char} {distance : Nat} (inside : 0 < depth)
    (found : closing? depth text = some distance) : text[distance]? = some '}' := by
  induction text generalizing depth distance with
  | nil => cases found
  | cons c rest ih =>
    have change := depthChange_cases c
    simp only [closing?] at found
    split at found
    · obtain rfl := Option.some.inj found
      rcases change with ⟨_, up⟩ | ⟨brace, _⟩ | level
      · omega
      · rw [brace]
        rfl
      · omega
    · obtain ⟨before, later, rfl⟩ := Option.map_eq_some_iff.mp found
      exact ih (by omega) later

theorem closing?_brace_cons {depth : Int} (inside : 0 ≤ depth) (rest : List Char) :
    closing? depth ('{' :: rest) = (closing? (depth + 1) rest).map (· + 1) := by
  have up : depthChange '{' = 1 := rfl
  rw [closing?, up]
  exact if_neg (by omega)

theorem closing?_opening {text : List Char} {start : Nat} (opens : text[start]? = some '{') :
    closing? 0 (text.drop start) = (closing? (0 + 1) (text.drop (start + 1))).map (· + 1) := by
  rw [drop_of_getElem? opens]
  exact closing?_brace_cons (Int.le_refl 0) _

theorem blockEnd?_unclosed {text : List Char} {start : Nat} (more : start < text.length)
    (unclosed : closing? 0 (text.drop start) = none) : blockEnd? text start = some (text.length - 1) := by
  rw [blockEnd?, unclosed]
  exact if_neg (by simpa [List.isEmpty_iff] using List.ne_nil_of_length_pos (by omega))

theorem blockEnd?_bounds {text : List Char} {start : Nat} (opens : text[start]? = some '{') :
    ∃ stop, blockEnd? text start = some stop ∧ start ≤ stop ∧ stop < text.length ∧
      (text[stop]? = some '}' ∨ stop + 1 = text.length) := by
  obtain ⟨inside, _⟩ := List.getElem?_eq_some_iff.mp opens
  have closing := closing?_opening opens
  cases found : closing? (0 + 1) (text.drop (start + 1)) with
  | none =>
    rw [found, Option.map_none] at closing
    refine ⟨text.length - 1, blockEnd?_unclosed inside closing, ?_⟩
    omega
  | some distance =>
    have brace := closing?_brace (by decide) found
    rw [List.getElem?_drop] at brace
    obtain ⟨bound, _⟩ := List.getElem?_eq_some_iff.mp brace
    have stop : start + (distance + 1) = start + 1 + distance := by omega
    refine ⟨start + (distance + 1), ?_, by omega, by omega, Or.inl (stop ▸ brace)⟩
    rw [blockEnd?, closing, found]
    rfl

theorem getElem?_length_takeWhile {p : Char → Bool} {text : List Char}
    (more : (text.takeWhile p).length < text.length) :
    ∃ c, text[(text.takeWhile p).length]? = some c ∧ p c = false := by
  have here := List.getElem?_eq_getElem more
  exact ⟨_, here, length_takeWhile_stops here⟩

theorem bracePlace?_eq_some {text : List Char} {place start : Nat}
    (found : bracePlace? (Cursor.within text place) = some start) :
    place ≤ start ∧ text[start]? = some '{' := by
  simp only [bracePlace?, Cursor.after_within] at found
  split at found
  · rename_i more
    obtain ⟨c, here, brace⟩ := getElem?_length_takeWhile more
    rw [List.length_drop] at more
    rw [Cursor.position_within (by omega)] at found
    obtain rfl := Option.some.inj found
    obtain rfl : c = '{' := by simpa using brace
    exact ⟨Nat.le_add_right _ _, by rwa [List.getElem?_drop] at here⟩
  · cases found

theorem findingOf_span {text : List Char} {found : Match} {span : Span}
    (finding : findingOf text found = .span span) :
    ∃ name, bracePlace? found.stop = some span.start ∧ secondWord? found.text = some name ∧
      span.name = String.ofList name ∧ span.stop = (blockEnd? text span.start).getD span.start := by
  unfold findingOf at finding
  split at finding
  · cases finding
  · cases finding
  · rename_i start name brace word
    obtain rfl := Finding.span.inj finding
    exact ⟨name, brace, word, rfl, rfl⟩

theorem match_text_within {found : Match} {text : List Char} {place width : Nat}
    (start : found.start = Cursor.within text place)
    (stop : found.stop = Cursor.within text (place + width)) :
    found.text = (text.drop place).take width := by
  have length : found.start.left - found.stop.left = min width (text.drop place).length := by
    rw [start, stop, Cursor.left_eq, Cursor.left_eq, Cursor.after_within, Cursor.after_within]
    simp only [List.length_drop]
    omega
  rw [Match.text, length, start, Cursor.after_within, ← List.take_eq_take_min]

theorem findingOf_fits {node : Node} {text : List Char} {found : Match} {span : Span}
    (member : found ∈ findAll node text) (finding : findingOf text found = .span span) :
    span.Fits text ∧ ∀ c ∈ span.name.toList, isBlank c = false := by
  obtain ⟨place, width, start, stop⟩ := findAll_within member
  obtain ⟨name, brace, word, named, ends⟩ := findingOf_span finding
  obtain ⟨inside, solid⟩ := secondWord?_eq_some word
  rw [stop] at brace
  obtain ⟨later, opens⟩ := bracePlace?_eq_some brace
  obtain ⟨blockEnd, found, ordered, bound, closes⟩ := blockEnd?_bounds opens
  rw [match_text_within start stop] at inside
  have stop_eq : span.stop = blockEnd := by rw [ends, found]; rfl
  rw [named, String.toList_ofList]
  refine ⟨⟨by omega, by omega, opens, by rwa [stop_eq], ?_⟩, solid⟩
  obtain ⟨before, after, split⟩ := inside
  have length := congrArg List.length split
  simp only [List.length_append, List.length_take] at length
  rw [named, String.toList_ofList]
  refine ⟨place + before.length, ?_, by omega⟩
  have ahead : (text.drop place).take width <+: text.drop place := List.take_prefix _ _
  rw [← split, List.append_assoc] at ahead
  obtain ⟨rest, whole⟩ := ahead
  refine ⟨after ++ rest, ?_⟩
  rw [← List.drop_drop, ← whole, List.append_assoc, List.drop_left, List.append_assoc]

theorem spans_fit {s : Scanner} {text : List Char} {span : Span} (member : span ∈ s.spans text) :
    span.Fits (s.prepare text) ∧ ∀ c ∈ span.name.toList, isBlank c = false := by
  obtain ⟨finding, found, same⟩ := List.mem_filterMap.mp member
  obtain ⟨matched, inText, rfl⟩ := List.mem_map.mp found
  split at same
  · rename_i inner finding
    obtain rfl := Option.some.inj same
    exact findingOf_fits inText finding
  · cases same

theorem getElem?_of_veiled {shown text : List Char} {place : Nat} {c : Char}
    (veiled : List.Forall₂ Literal.Veils shown text) (here : shown[place]? = some c)
    (visible : c ≠ ' ') : text[place]? = some c := by
  rcases Literal.getElem?_of_veils veiled place with same | ⟨space, _⟩
  · exact same.symm.trans here
  · exact absurd (Option.some.inj (here.symm.trans space)) visible

theorem Span.Fits.of_veils {span : Span} {shown text : List Char}
    (veiled : List.Forall₂ Literal.Veils shown text) (fits : span.Fits shown)
    (solid : ∀ c ∈ span.name.toList, isBlank c = false) : span.Fits text := by
  obtain ⟨place, stands, before⟩ := fits.named
  have length := veiled.length_eq
  refine ⟨fits.ordered, by rw [← length]; exact fits.inside,
    getElem?_of_veiled veiled fits.opens (by decide), ?_, place, ?_, before⟩
  · rcases fits.closes with brace | last
    · exact Or.inl (getElem?_of_veiled veiled brace (by decide))
    · exact Or.inr (by rw [← length]; exact last)
  · apply Literal.prefix_of_veils (List.forall₂_drop place veiled) stands
    intro c member space
    have visible := solid c member
    rw [space] at visible
    exact absurd visible (by decide)

/-- Stripping moves nothing: places, newlines and texts with nothing to strip stay as they are, and a
    span of the stripped text is one of the text itself. -/
theorem places_survive_stripping (text : List Char) :
    (Literal.strip text).length = text.length ∧
      (∀ place : Nat, (Literal.strip text)[place]? = text[place]? ∨
        (place < text.length ∧ (Literal.strip text)[place]? = some ' ')) ∧
      (∀ place : Nat, (Literal.strip text)[place]? = some '\n' ↔ text[place]? = some '\n') ∧
      ((∀ c ∈ text, c ≠ '\'' ∧ c ≠ '"') → ¬ ['/', '/'] <:+: text → ¬ ['/', '*'] <:+: text →
        Literal.strip text = text) ∧
      ∀ (pattern : Pattern) (span : Span), span ∈ (Scanner.mk pattern true).spans text →
        span.Fits text := by
  have veiled := Literal.veils_strip text
  refine ⟨Literal.length_strip text, ?_, ?_, fun unquoted noLine noBlock =>
    Literal.stripFrom_plain unquoted noLine noBlock, ?_⟩
  · intro place
    rcases Literal.getElem?_of_veils veiled place with same | ⟨space, inside, _⟩
    · exact Or.inl same
    · exact Or.inr ⟨inside, space⟩
  · intro place
    constructor
    · intro newline
      exact getElem?_of_veiled veiled newline (by decide)
    · intro newline
      rcases Literal.getElem?_of_veils veiled place with same | ⟨_, _, visible⟩
      · exact same.trans newline
      · exact absurd newline visible
  · intro pattern span member
    obtain ⟨fits, solid⟩ := spans_fit member
    exact fits.of_veils veiled solid

theorem places_survive_stripping_quoted_brace :
    ⟨"A", 8, 19, 1⟩ ∈ (Scanner.mk ⟨"class A", literally "class A"⟩ true).spans
        "class A \x7b f(';\x7d'); \x7d".toList ∧
      Span.Fits ⟨"A", 8, 19, 1⟩ "class A \x7b f(';\x7d'); \x7d".toList := by
  have found : (Scanner.mk ⟨"class A", literally "class A"⟩ true).spans
      "class A \x7b f(';\x7d'); \x7d".toList = [⟨"A", 8, 19, 1⟩] := by cbv
  have member : ⟨"A", 8, 19, 1⟩ ∈ (Scanner.mk ⟨"class A", literally "class A"⟩ true).spans
      "class A \x7b f(';\x7d'); \x7d".toList := by
    rw [found]
    exact List.mem_singleton.mpr rfl
  exact ⟨member, (places_survive_stripping _).2.2.2.2 _ _ member⟩

end SourceCensus.Block
