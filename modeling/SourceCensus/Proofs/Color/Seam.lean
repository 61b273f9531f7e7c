import SourceCensus.Proofs.Color.Argument

/-! Openings that are left in a key. Taking an opening out of an argument brings together what stood on
   both sides of it, and the two pieces may make up an opening again. Nothing looks at a key a second
   time, so such an opening stays; no other one does. -/
namespace SourceCensus.Color
open Text

def HoldsOpening (text : List Char) : Prop :=
  "Color(".toList <+: text ∨ ∃ before c rest, text = before ++ c :: rest ∧ OpensWith c rest

/-- For each opening that is taken out of an argument, what is kept before it and what behind it. -/
def seams (kept : List Char) : List Char → List (List Char × List Char)
  | [] => []
  | c :: rest =>
    if OpensWith c rest then (kept, bare (rest.drop 6)) :: seams kept (rest.drop 6)
    else seams (kept ++ [c]) rest
  termination_by text => text.length
  decreasing_by
    · simp only [List.length_drop, List.length_cons]
      omega
    · simp

/-- An opening that starts at the end of one piece, or there where that ends, and ends in the other. -/
def Joins (before behind : List Char) : Prop :=
  ∃ start rest, start ++ rest = "Color(".toList ∧ rest ≠ [] ∧ rest <+: behind ∧
    (before = start ∨ ∃ earlier c, isAsciiWord c = false ∧ before = earlier ++ c :: start)

theorem exists_standsIn_iff (text : List Char) :
    (∃ o : Opening, o.StandsIn text) ↔ HoldsOpening text := by
  constructor
  · rintro ⟨o, stands⟩
    cases stands with
    | @inner place c here edge word =>
      refine Or.inr ⟨text.take place, c, text.drop (place + 1), ?_, edge, word⟩
      rw [← drop_of_getElem? here, List.take_append_drop]
    | first word => exact Or.inl word
  · rintro (word | ⟨before, c, rest, rfl, edge, word⟩)
    · exact ⟨_, .first word⟩
    · have behind : (before ++ c :: rest).drop (before.length + 1) = rest := by
        rw [← List.drop_drop, List.drop_left, List.drop_succ_cons, List.drop_zero]
      refine ⟨⟨before.length, before.length + 7⟩, .inner (c := c) (by simp) edge ?_⟩
      rwa [behind]

theorem holdsOpening_append_iff (text : List Char) :
    HoldsOpening (text ++ [')']) ↔ HoldsOpening text := by
  have last : ¬ "Color(".toList = text ++ [')'] := by
    intro same
    have ends := congrArg List.getLast? same
    simp at ends
  unfold HoldsOpening
  rw [List.prefix_concat_iff, or_iff_right last]
  constructor
  · rintro (word | ⟨before, c, rest, parts, opens⟩)
    · exact Or.inl word
    · rcases List.eq_nil_or_concat' rest with rfl | ⟨more, d, rfl⟩
      · exact absurd opens.2 (by simp)
      · rw [← List.cons_append, ← List.append_assoc] at parts
        obtain ⟨rfl, same⟩ := List.append_inj' parts rfl
        obtain rfl := (List.cons.inj same).1
        exact Or.inr ⟨before, c, more, rfl, (opensWith_append_iff c more).mp opens⟩
  · rintro (word | ⟨before, c, rest, rfl, opens⟩)
    · exact Or.inl word
    · exact Or.inr ⟨before, c, rest ++ [')'], by simp, (opensWith_append_iff c rest).mpr opens⟩

theorem holdsOpening_rdropWhile (text : List Char) :
    HoldsOpening (text.rdropWhile (· == ')')) ↔ HoldsOpening text := by
  induction text using List.reverseRecOn with
  | nil => simp
  | append_singleton text c ih =>
    by_cases closing : c = ')'
    · subst closing
      rw [List.rdropWhile_concat_pos _ _ _ rfl, ih, holdsOpening_append_iff]
    · rw [List.rdropWhile_concat_neg _ _ _ (by simpa using closing)]

theorem holdsOpening_of_joins {before behind : List Char} (joins : Joins before behind) :
    HoldsOpening (before ++ behind) := by
  obtain ⟨start, rest, word, -, ⟨more, rfl⟩, rfl | ⟨earlier, c, edge, rfl⟩⟩ := joins
  · refine Or.inl ⟨more, ?_⟩
    rw [← word, List.append_assoc]
  · refine Or.inr ⟨earlier, c, start ++ (rest ++ more), by simp, edge, more, ?_⟩
    rw [← word, List.append_assoc]

theorem append_of_mem_seams {kept text : List Char} {seam : List Char × List Char}
    (member : seam ∈ seams kept text) : seam.1 ++ seam.2 = kept ++ bare text := by
  fun_induction seams kept text with
  | case1 => cases member
  | case2 kept c rest opens ih =>
    rw [bare, if_pos opens]
    rcases List.mem_cons.mp member with rfl | later
    · rfl
    · exact ih later
  | case3 kept c rest plain ih =>
    rw [bare, if_neg plain, ih member, List.append_assoc, List.singleton_append]

theorem exists_seam_of_prefix (kept : List Char) {word text : List Char} (left : word <+: bare text)
    (apart : ¬ word <+: text) :
    ∃ seam ∈ seams kept text, ∃ start rest, start ++ rest = word ∧ rest ≠ [] ∧
      rest <+: seam.2 ∧ seam.1 = kept ++ start := by
  fun_induction seams kept text generalizing word with
  | case1 kept =>
    rw [bare] at left
    exact absurd left apart
  | case2 kept c rest opens ih =>
    rw [bare, if_pos opens] at left
    refine ⟨_, List.mem_cons_self, [], word, rfl, ?_, left, by simp⟩
    rintro rfl
    exact apart List.nil_prefix
  | case3 kept c rest plain ih =>
    rw [bare, if_neg plain] at left
    cases word with
    | nil => exact absurd List.nil_prefix apart
    | cons d word =>
      obtain ⟨rfl, more⟩ := List.cons_prefix_cons.mp left
      have later : ¬ word <+: rest := fun here => apart (List.cons_prefix_cons.mpr ⟨rfl, here⟩)
      obtain ⟨seam, member, start, tail, whole, some, behind, before⟩ := ih more later
      refine ⟨seam, member, d :: start, tail, ?_, some, behind, ?_⟩
      · rw [List.cons_append, whole]
      · rw [before, List.append_assoc, List.singleton_append]

theorem exists_joins_of_opensWith (kept : List Char) {text before rest : List Char} {c : Char}
    (left : bare text = before ++ c :: rest) (opens : OpensWith c rest) :
    ∃ seam ∈ seams kept text, Joins seam.1 seam.2 := by
  fun_induction seams kept text generalizing before with
  | case1 kept => simp [bare] at left
  | case2 kept d more taken ih =>
    rw [bare, if_pos taken] at left
    obtain ⟨seam, member, joins⟩ := ih left
    exact ⟨seam, List.mem_cons_of_mem _ member, joins⟩
  | case3 kept d more plain ih =>
    rw [bare, if_neg plain] at left
    cases before with
    | nil =>
      obtain ⟨rfl, rfl⟩ := List.cons.inj left
      have apart : ¬ "Color(".toList <+: more := fun word => plain ⟨opens.1, word⟩
      obtain ⟨seam, member, start, tail, whole, some, behind, same⟩ :=
        exists_seam_of_prefix (kept ++ [d]) opens.2 apart
      refine ⟨seam, member, start, tail, whole, some, behind, Or.inr ⟨kept, d, opens.1, ?_⟩⟩
      rw [same, List.append_assoc, List.singleton_append]
    | cons e before => exact ih (List.cons.inj left).2

theorem holdsOpening_bare_iff (argument : List Char) :
    HoldsOpening (bare argument) ↔
      ∃ seam ∈ ([], bare argument) :: seams [] argument, Joins seam.1 seam.2 := by
  -- The opening of the call itself is taken out as well, so there is a seam before the argument.
  constructor
  · rintro (word | ⟨before, c, rest, left, opens⟩)
    · exact ⟨_, List.mem_cons_self, [], _, rfl, by decide, word, Or.inl rfl⟩
    · obtain ⟨seam, member, joins⟩ := exists_joins_of_opensWith [] left opens
      exact ⟨seam, List.mem_cons_of_mem _ member, joins⟩
  · rintro ⟨seam, member, joins⟩
    have whole := holdsOpening_of_joins joins
    rcases List.mem_cons.mp member with rfl | later
    · exact whole
    · rwa [append_of_mem_seams later] at whole

theorem bare_opening {c : Char} (edge : isAsciiWord c = false) (inner : List Char) :
    bare (c :: ("Color(".toList ++ inner)) = bare inner := by
  have opens : OpensWith c ("Color(".toList ++ inner) := ⟨edge, List.prefix_append _ _⟩
  rw [bare, if_pos opens]
  rfl

theorem bare_word {inner : List Char} (single : ¬ "Color(".toList <+: inner) :
    bare ("Color(".toList ++ inner) = "Color(".toList ++ bare inner := by
  -- The letters of the word stand before any edge, so the word stays, and so does its parenthesis.
  have letter {c : Char} (word : isAsciiWord c = true) (rest : List Char) :
      bare (c :: rest) = c :: bare rest := by
    rw [bare, if_neg]
    rintro ⟨edge, -⟩
    rw [word] at edge
    cases edge
  have parenthesis : bare ('(' :: inner) = '(' :: bare inner := by
    rw [bare, if_neg fun opens => single opens.2]
  have whole (rest : List Char) :
      "Color(".toList ++ rest = 'C' :: 'o' :: 'l' :: 'o' :: 'r' :: '(' :: rest := rfl
  rw [whole, whole, letter (by decide), letter (by decide), letter (by decide), letter (by decide),
    letter (by decide), parenthesis]

theorem rdropWhile_word_append (left : List Char) :
    ("Color(".toList ++ left).rdropWhile (· == ')') =
      "Color(".toList ++ left.rdropWhile (· == ')') := by
  induction left using List.reverseRecOn with
  | nil => rfl
  | append_singleton left c ih =>
    rw [← List.append_assoc]
    by_cases closing : c = ')'
    · subst closing
      rw [List.rdropWhile_concat_pos _ _ _ rfl, List.rdropWhile_concat_pos _ _ _ rfl, ih]
    · have other : ¬ (c == ')') = true := by simpa using closing
      rw [List.rdropWhile_concat_neg (· == ')') _ _ other,
        List.rdropWhile_concat_neg (· == ')') _ _ other, List.append_assoc]

/-- A key holds an opening exactly if, where an opening was taken out of its call, the pieces on both
    sides make up another one. A call that is the first thing in an argument, one character in, has the
    key of its own argument; right at the start of an argument it keeps its opening, unless the next
    opening follows at once. -/
theorem constructed_reopens_iff (text : List Char) :
    ∃ calls : List Call, (∀ others, Calls text 0 others ↔ others = calls) ∧
      List.Forall₂ (fun call key =>
        ((∃ o : Opening, o.StandsIn key) ↔
          ∃ seam ∈ ([], bare (call.argument text)) :: seams [] (call.argument text),
            Joins seam.1 seam.2) ∧
        (∀ c inner, isAsciiWord c = false → call.argument text = c :: ("Color(".toList ++ inner) →
          key = (bare inner).rdropWhile (· == ')')) ∧
        ∀ inner, call.argument text = "Color(".toList ++ inner → ¬ "Color(".toList <+: inner →
          key = "Color(".toList ++ (bare inner).rdropWhile (· == ')'))
        calls (constructed text) := by
  apply constructed_forall₂
  intro call _
  refine ⟨?_, ?_, ?_⟩
  · rw [exists_standsIn_iff, holdsOpening_rdropWhile]
    exact holdsOpening_bare_iff (call.argument text)
  · intro c inner edge shape
    rw [shape, bare_opening edge]
  · intro inner shape single
    rw [shape, bare_word single, rdropWhile_word_append]

/-- A call right inside another keeps its opening, and so may one whose word was in pieces. -/
theorem constructed_keeps_opening :
    constructed "Color(Color(0xff000000))".toList = ["Color(0xff000000".toList] ∧
      constructed "Color(Col Color(or(0xff000000))".toList = ["Color(0xff000000".toList] ∧
      (Opening.mk 0 6).StandsIn "Color(0xff000000".toList := by
  refine ⟨?_, ?_, ?_⟩
  · decide +kernel
  · decide +kernel
  · exact .first (by decide)

end SourceCensus.Color
