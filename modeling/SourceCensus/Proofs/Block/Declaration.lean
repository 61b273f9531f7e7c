import SourceCensus.Proofs.Block.Span
import SourceCensus.Proofs.Pattern.Loop
import SourceCensus.Proofs.Pattern.Search

/-! Declarations that the pattern for classes finds, described by places alone: the word, white space
   that may span lines, and the next opening brace on the line where the white space ends. -/
namespace SourceCensus.Block
open Text Pattern

structure Declaration where
  place : Nat
  word : Nat
  brace : Nat
  deriving DecidableEq, Repr

/-- The first opening brace from a place on, with no newline before it. -/
structure BraceAhead (text : List Char) (place brace : Nat) : Prop where
  ahead : place ≤ brace
  here : text[brace]? = some '{'
  between : ∀ i, place ≤ i → i < brace → text[i]? ≠ some '{' ∧ text[i]? ≠ some '\n'

theorem BraceAhead.unique {text : List Char} {place brace other : Nat}
    (line : BraceAhead text place brace) (also : BraceAhead text place other) : brace = other := by
  rcases Nat.lt_trichotomy brace other with before | same | after
  · exact absurd line.here (also.between brace line.ahead before).1
  · exact same
  · exact absurd also.here (line.between other also.ahead after).1

namespace Declaration

structure StandsIn (d : Declaration) (text : List Char) : Prop where
  keyword : "class".toList <+: text.drop d.place
  gap : d.place + 5 < d.word
  blanks : ∀ i, d.place + 5 ≤ i → i < d.word → ∃ c, text[i]? = some c ∧ isBlank c = true
  solid : ∃ c, text[d.word]? = some c ∧ isBlank c = false
  line : BraceAhead text d.word d.brace

def head (d : Declaration) (text : List Char) : List Char :=
  (text.drop d.word).take (d.brace - d.word)

end Declaration

def firstWord (text : List Char) : List Char :=
  (text.dropWhile isBlank).takeWhile (!isBlank ·)

/-- The span of a declaration; none if nothing stands before the brace. -/
def Declaration.span? (d : Declaration) (text : List Char) : Option Span :=
  if d.word < d.brace then
    (blockEnd? text d.brace).map fun stop =>
      ⟨String.ofList (firstWord (d.head text)), d.brace, stop, sizeBetween text d.brace stop⟩
  else none

def blankNode : Node := .set false [.category .blank false] .exact false

def openingAhead : Node := .ahead false (seqOf (['{'].map fun c => .char c.toNat .exact))

def restOfLine : Node := seqOf [.loop 0 none .lazy (seqOf [.any false]), openingAhead]

def classNode : Node :=
  seqOf ("class".toList.map (fun c => .char c.toNat .exact) ++
    [.loop 1 none .greedy (seqOf [blankNode]), .loop 0 none .lazy (seqOf [.any false]), openingAhead])

theorem read_classPattern [CharacterNames] :
    Pattern.read classPattern = .ok ⟨classPattern, classNode⟩ := rfl

theorem single_blank : Single (fun p next => (seqOf [blankNode]).run p next) isBlank := by
  intro p accept
  have same : inSet false [.category .blank false] .exact false = isBlank := by
    funext c
    simp [inSet, Member.holds, Category.holds]
  rw [← same]
  rfl

theorem single_line : Single (fun p next => (seqOf [.any false]).run p next) (· != '\n') :=
  fun _ _ => rfl

theorem run_openingAhead (p : Progress) (accept : Accepts) :
    openingAhead.run p accept = if ['{'] <+: p.cursor.after then accept p else none := by
  have body := run_word ['{'] [] p some
  rw [List.append_nil] at body
  rw [openingAhead, Node.run, body]
  split
  · rename_i found
    split at found
    · rename_i here
      rw [if_pos here, ← Option.some.inj found]
      rfl
    · cases found
  · rename_i missed
    split at missed
    · cases missed
    · rename_i elsewhere
      rw [if_neg elsewhere]
      rfl

theorem run_restOfLine (p : Progress) :
    restOfLine.run p some = loopRun (fun p next => (seqOf [.any false]).run p next) 0 none .lazy p
      fun q => if ['{'] <+: q.cursor.after then some q else none := by
  have after : (fun q => openingAhead.run q fun r => (seqOf []).run r some) =
      fun q => if ['{'] <+: q.cursor.after then some q else none := by
    funext q
    exact run_openingAhead q _
  rw [← after]
  rfl

theorem run_classNode (p : Progress) :
    classNode.run p some =
      if "class".toList <+: p.cursor.after then
        loopRun (fun p next => (seqOf [blankNode]).run p next) 1 none .greedy (p.skip 5)
          fun q => restOfLine.run q some
      else none :=
  run_word "class".toList _ p some

section
variable {text : List Char} {place brace : Nat} {p : Progress}

theorem exists_braceAhead {n : Nat} (here : text[place + n]? = some '{')
    (flat : ∀ i < n, text[place + i]? ≠ some '\n') : ∃ brace, BraceAhead text place brace := by
  obtain ⟨brace, near, ahead, opens, first⟩ := exists_first (Nat.le_add_right place n) here
  refine ⟨brace, ahead, opens, fun i after before => ⟨first i after before, ?_⟩⟩
  obtain ⟨j, rfl⟩ := Nat.exists_eq_add_of_le after
  exact flat j (by omega)

theorem restOfLine_of_braceAhead (at_place : p.cursor = Cursor.within text place)
    (line : BraceAhead text place brace) :
    restOfLine.run p some = some (p.skip (brace - place)) := by
  have ahead := line.ahead
  obtain ⟨inside, _⟩ := List.getElem?_eq_some_iff.mp line.here
  rw [run_restOfLine]
  apply loopRun_lazy (n := brace - place) single_line (Nat.zero_le _)
  · rw [Progress.le_reach_iff]
    intro i before
    have plain := (line.between (place + i) (by omega) (by omega)).2
    rw [Progress.getElem?_after at_place]
    have here := List.getElem?_eq_getElem (show place + i < text.length by omega)
    rw [here] at plain ⊢
    exact ⟨_, rfl, by simpa using plain⟩
  · apply if_pos
    rw [Progress.after_skip at_place, Nat.add_sub_cancel' ahead, prefix_drop_iff]
    exact line.here
  · intro m _ before
    apply if_neg
    rw [Progress.after_skip at_place, prefix_drop_iff]
    exact (line.between (place + m) (by omega) (by omega)).1

theorem restOfLine_eq_none (at_place : p.cursor = Cursor.within text place)
    (nothing : ∀ brace, ¬ BraceAhead text place brace) : restOfLine.run p some = none := by
  rw [run_restOfLine]
  apply loopRun_eq_none single_line false
  intro n _ inside
  apply if_neg
  rw [Progress.after_skip at_place, prefix_drop_iff]
  intro here
  have flat : ∀ i < n, text[place + i]? ≠ some '\n' := by
    intro i before newline
    obtain ⟨c, found, plain⟩ := Progress.le_reach_iff.mp inside i before
    rw [Progress.getElem?_after at_place, newline] at found
    obtain rfl := Option.some.inj found
    exact absurd plain (by decide)
  obtain ⟨brace, line⟩ := exists_braceAhead here flat
  exact nothing brace line

end

namespace Declaration

variable {d : Declaration} {text : List Char}

theorem StandsIn.place_lt (stands : d.StandsIn text) : d.place < d.brace := by
  have gap := stands.gap
  have ahead := stands.line.ahead
  omega

theorem StandsIn.inside (stands : d.StandsIn text) : d.brace < text.length :=
  (List.getElem?_eq_some_iff.mp stands.line.here).1

def atGap (text : List Char) (place : Nat) : Progress :=
  (Progress.mk (Cursor.within text place) []).skip 5

theorem cursor_atGap (text : List Char) (place : Nat) :
    (atGap text place).cursor = Cursor.within text (place + 5) := Cursor.forward_within text place 5

theorem matchAt?_classNode (text : List Char) (place : Nat) :
    matchAt? classNode (Cursor.within text place) false =
      if "class".toList <+: text.drop place then
        (loopRun (fun p next => (seqOf [blankNode]).run p next) 1 none .greedy (atGap text place)
          fun q => restOfLine.run q some).map fun p => ⟨Cursor.within text place, p.cursor⟩
      else none := by
  rw [matchAt?_still, run_classNode, Cursor.after_within]
  split <;> rfl

theorem matchAt?_of_standsIn (stands : d.StandsIn text) :
    matchAt? classNode (Cursor.within text d.place) false = some (between text d.place d.brace) := by
  have gap := stands.gap
  have ahead := stands.line.ahead
  have reach : (atGap text d.place).reach isBlank = d.word - (d.place + 5) := by
    apply Progress.reach_eq
    · intro i before
      rw [Progress.getElem?_after (cursor_atGap text d.place)]
      exact stands.blanks _ (by omega) (by omega)
    · intro c here
      obtain ⟨other, found, solid⟩ := stands.solid
      rw [Progress.getElem?_after (cursor_atGap text d.place), Nat.add_sub_cancel' gap.le, found] at here
      rwa [← Option.some.inj here]
  have atWord : ((atGap text d.place).skip ((atGap text d.place).reach isBlank)).cursor =
      Cursor.within text d.word := by
    rw [Progress.cursor_skip, cursor_atGap, Cursor.forward_within, reach,
      Nat.add_sub_cancel' gap.le]
  have accepted := restOfLine_of_braceAhead atWord stands.line
  have taken : 1 ≤ (atGap text d.place).reach isBlank := by omega
  rw [matchAt?_classNode, if_pos stands.keyword, loopRun_greedy single_blank taken accepted,
    Option.map_some, Progress.cursor_skip, atWord, Cursor.forward_within,
    Nat.add_sub_cancel' ahead]
  rfl

theorem standsIn_of_braceAhead {place brace n : Nat} (keyword : "class".toList <+: text.drop place)
    (taken : 1 ≤ n) (inside : n ≤ (atGap text place).reach isBlank)
    (line : BraceAhead text (place + 5 + n) brace) :
    (Declaration.mk place (place + 5 + (atGap text place).reach isBlank) brace).StandsIn text := by
  have at_gap := cursor_atGap text place
  have blanks : ∀ i < (atGap text place).reach isBlank,
      ∃ c, text[place + 5 + i]? = some c ∧ isBlank c = true := by
    intro i before
    rw [← Progress.getElem?_after at_gap]
    exact Progress.le_reach_iff.mp (Nat.le_refl _) i before
  -- a brace is no white space, so giving white space back brings no other line in reach
  have ahead : place + 5 + (atGap text place).reach isBlank ≤ brace := by
    rw [← Nat.not_lt]
    intro early
    have start := line.ahead
    obtain ⟨c, here, blank⟩ := blanks (brace - (place + 5)) (by omega)
    rw [show place + 5 + (brace - (place + 5)) = brace by omega, line.here] at here
    rw [← Option.some.inj here] at blank
    exact absurd blank (by decide)
  obtain ⟨bound, _⟩ := List.getElem?_eq_some_iff.mp line.here
  refine ⟨keyword, ?_, ?_, ?_, ahead, line.here, ?_⟩
  · simp only
    omega
  · intro i after before
    simp only at after before
    obtain ⟨j, rfl⟩ := Nat.exists_eq_add_of_le after
    exact blanks j (by omega)
  · have here := List.getElem?_eq_getElem
      (show place + 5 + (atGap text place).reach isBlank < text.length by omega)
    refine ⟨_, here, Progress.reach_stops (p := atGap text place) ?_⟩
    rw [Progress.getElem?_after at_gap, here]
  · intro i after before
    simp only at after before
    exact line.between i (by omega) before

theorem finds (text : List Char) :
    Finds classNode text (·.place) (·.brace) fun d : Declaration => d.StandsIn text where
  onward _ stands := stands.place_lt
  inside _ stands := stands.inside.le
  found _ stands := matchAt?_of_standsIn stands
  missed := by
    intro place _ elsewhere
    rw [matchAt?_classNode]
    split
    · rename_i keyword
      rw [Option.map_eq_none_iff]
      apply loopRun_eq_none single_blank true
      intro n taken inside
      have moved : ((atGap text place).skip n).cursor = Cursor.within text (place + 5 + n) := by
        rw [Progress.cursor_skip, cursor_atGap, Cursor.forward_within]
      exact restOfLine_eq_none moved fun brace line =>
        elsewhere _ (standsIn_of_braceAhead keyword taken inside line) rfl
    · rfl

theorem StandsIn.word_le {other : Declaration} (stands : d.StandsIn text)
    (also : other.StandsIn text) (same : d.place = other.place) : d.word ≤ other.word := by
  rw [← Nat.not_lt]
  intro before
  have gap := also.gap
  obtain ⟨c, here, blank⟩ := stands.blanks other.word (by omega) before
  obtain ⟨e, there, solid⟩ := also.solid
  obtain rfl := Option.some.inj (here.symm.trans there)
  rw [blank] at solid
  cases solid

theorem StandsIn.unique {other : Declaration} (stands : d.StandsIn text)
    (also : other.StandsIn text) (same : d.place = other.place) : d = other := by
  have word := Nat.le_antisymm (stands.word_le also same) (also.word_le stands same.symm)
  have brace : d.brace = other.brace := by
    have first := also.line
    rw [← word] at first
    exact stands.line.unique first
  obtain ⟨_, _, _⟩ := d
  obtain ⟨_, _, _⟩ := other
  simp only at same word brace
  rw [same, word, brace]

end Declaration

theorem bracePlace?_here {text : List Char} {place : Nat} (here : text[place]? = some '{') :
    bracePlace? (Cursor.within text place) = some place := by
  obtain ⟨inside, _⟩ := List.getElem?_eq_some_iff.mp here
  simp only [bracePlace?, Cursor.after_within, drop_of_getElem? here,
    Cursor.position_within inside.le]
  simp

theorem secondWord?_parts {word gap rest : List Char} (word_solid : ∀ c ∈ word, isBlank c = false)
    (gap_blank : ∀ c ∈ gap, isBlank c = true) (word_some : word ≠ []) (gap_some : gap ≠ []) :
    secondWord? (word ++ (gap ++ rest)) =
      if rest.dropWhile isBlank = [] then none else some (firstWord rest) := by
  have first : (word ++ (gap ++ rest)).dropWhile isBlank = word ++ (gap ++ rest) := by
    obtain ⟨c, others, rfl⟩ := List.exists_cons_of_ne_nil word_some
    exact List.dropWhile_cons_of_neg (by simp [word_solid c List.mem_cons_self])
  have second : (word ++ (gap ++ rest)).dropWhile (!isBlank ·) = gap ++ rest := by
    rw [List.dropWhile_append_of_pos fun c member => by simp [word_solid c member]]
    obtain ⟨c, others, rfl⟩ := List.exists_cons_of_ne_nil gap_some
    exact List.dropWhile_cons_of_neg (by simp [gap_blank c List.mem_cons_self])
  unfold secondWord? firstWord
  rw [first, second, List.dropWhile_append_of_pos gap_blank]
  cases rest.dropWhile isBlank <;> rfl

namespace Declaration

variable {d : Declaration} {text : List Char}

def gapText (d : Declaration) (text : List Char) : List Char :=
  (text.drop (d.place + 5)).take (d.word - (d.place + 5))

theorem StandsIn.parts (stands : d.StandsIn text) :
    (text.drop d.place).take (d.brace - d.place) =
      "class".toList ++ (d.gapText text ++ d.head text) := by
  have gap := stands.gap
  have ahead := stands.line.ahead
  have keyword : "class".toList = (text.drop d.place).take 5 :=
    List.prefix_iff_eq_take.mp stands.keyword
  have width : d.brace - d.place = 5 + (d.word - (d.place + 5) + (d.brace - d.word)) := by omega
  rw [width, List.take_add, List.take_add, List.drop_drop, List.drop_drop,
    Nat.add_sub_cancel' gap.le, ← keyword]
  rfl

theorem StandsIn.gapText_blank (stands : d.StandsIn text) :
    d.gapText text ≠ [] ∧ ∀ c ∈ d.gapText text, isBlank c = true := by
  have gap := stands.gap
  have inside := stands.inside
  have ahead := stands.line.ahead
  constructor
  · refine List.ne_nil_of_length_pos ?_
    simp only [gapText, List.length_take, List.length_drop]
    omega
  · intro c member
    obtain ⟨i, here⟩ := List.mem_iff_getElem?.mp member
    rw [gapText, List.getElem?_take] at here
    split at here
    · rw [List.getElem?_drop] at here
      obtain ⟨other, found, blank⟩ := stands.blanks (d.place + 5 + i) (by omega) (by omega)
      rwa [Option.some.inj (here.symm.trans found)]
    · cases here

theorem StandsIn.dropWhile_head (stands : d.StandsIn text) (named : d.word < d.brace) :
    (d.head text).dropWhile isBlank ≠ [] := by
  obtain ⟨c, here, solid⟩ := stands.solid
  have first : d.head text = c :: ((text.drop (d.word + 1)).take (d.brace - d.word - 1)) := by
    rw [head, drop_of_getElem? here, List.take_cons (by omega)]
  rw [first, List.dropWhile_cons_of_neg (by simp [solid])]
  exact List.cons_ne_nil _ _

theorem StandsIn.secondWord? (stands : d.StandsIn text) :
    Text.secondWord? ((text.drop d.place).take (d.brace - d.place)) =
      if d.word < d.brace then some (firstWord (d.head text)) else none := by
  obtain ⟨some, blank⟩ := stands.gapText_blank
  have solid : ∀ c ∈ "class".toList, isBlank c = false := List.forall_iff_forall_mem.mp (by decide)
  rw [stands.parts, secondWord?_parts solid blank (by decide) some]
  split
  · rename_i nothing
    rw [if_neg fun named => stands.dropWhile_head named nothing]
  · rename_i something
    rw [if_pos]
    rw [← Nat.not_le]
    intro anonymous
    apply something
    rw [head, Nat.sub_eq_zero_of_le anonymous]
    rfl

/-- A declaration without a name is noted at its place. -/
def finding (d : Declaration) (text : List Char) : Finding :=
  match d.span? text with
  | some span => .span span
  | none => .noName d.place

theorem StandsIn.findingOf (stands : d.StandsIn text) :
    findingOf text (between text d.place d.brace) = d.finding text := by
  have place : (between text d.place d.brace).start.position = d.place :=
    Cursor.position_within (stands.place_lt.trans stands.inside).le
  have brace : bracePlace? (between text d.place d.brace).stop = some d.brace :=
    bracePlace?_here stands.line.here
  obtain ⟨stop, closes, _⟩ := blockEnd?_bounds stands.line.here
  rw [Block.findingOf, brace, text_between stands.inside.le, stands.secondWord?, place, finding,
    span?]
  by_cases named : d.word < d.brace
  · simp only [if_pos named, closes]
    rfl
  · simp only [if_neg named]

theorem start_of_span? {span : Span} (some : d.span? text = some span) : span.start = d.brace := by
  unfold span? at some
  split at some
  · obtain ⟨stop, _, rfl⟩ := Option.map_eq_some_iff.mp some
    rfl
  · cases some

end Declaration

end SourceCensus.Block
