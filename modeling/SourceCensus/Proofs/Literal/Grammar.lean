import SourceCensus.Proofs.Literal.Strip

/-! A grammar of closed literals, over the places of a text and apart from the scan. Literals stand in
   interpolations of literals, to any depth. The scan leaves every literal of the grammar where the
   grammar ends it. -/
namespace SourceCensus.Literal
open Text

def Stands (text : List Char) (place : Nat) (word : List Char) : Prop := word <+: text.drop place

instance (text : List Char) (place : Nat) (word : List Char) : Decidable (Stands text place word) :=
  inferInstanceAs (Decidable (word <+: text.drop place))

def delimiters : List (List Char) := [['\'', '\'', '\''], ['"', '"', '"'], ['\''], ['"']]

def Opens (text : List Char) (place : Nat) (delimiter : List Char) : Prop :=
  delimiters.find? (·.isPrefixOf (text.drop place)) = some delimiter

def Prefixed (text : List Char) (place : Nat) : Prop :=
  0 < place ∧ (text[place - 1]? = some 'r' ∨ text[place - 1]? = some 'R') ∧
    (place = 1 ∨ ∃ c, text[place - 2]? = some c ∧ c ≠ '_' ∧ isAlphanumeric c = false)

inductive Part where
  | literal
  | body (delimiter : List Char) (raw : Bool)
  | expression

/-- Which stretches of a text are which parts. A body runs up to its closing delimiter, an expression
    up to its closing brace. -/
inductive Derives (text : List Char) : Part → Nat → Nat → Prop where
  | literal {i j : Nat} {delimiter : List Char} {raw : Bool} (opens : Opens text i delimiter)
      (prefixed : raw = true ↔ Prefixed text i)
      (body : Derives text (.body delimiter raw) (i + delimiter.length) j)
      (closes : Stands text j delimiter) : Derives text .literal i (j + delimiter.length)
  | bodyEnd {i : Nat} {delimiter : List Char} {raw : Bool} : Derives text (.body delimiter raw) i i
  | escape {i j : Nat} {delimiter : List Char} (unclosed : ¬ Stands text i delimiter)
      (mark : text[i]? = some '\\') (more : i + 1 < text.length)
      (rest : Derives text (.body delimiter false) (i + 2) j) :
      Derives text (.body delimiter false) i j
  | interpolation {i m j : Nat} {delimiter : List Char} (unclosed : ¬ Stands text i delimiter)
      (mark : Stands text i ['$', '{']) (inner : Derives text .expression (i + 2) m)
      (closes : text[m]? = some '}') (rest : Derives text (.body delimiter false) (m + 1) j) :
      Derives text (.body delimiter false) i j
  | character {i j : Nat} {delimiter : List Char} {raw : Bool} {c : Char}
      (unclosed : ¬ Stands text i delimiter) (here : text[i]? = some c)
      (line : delimiter.length = 1 → c ≠ '\n')
      (plain : raw = false → c ≠ '\\' ∧ ¬ Stands text i ['$', '{'])
      (rest : Derives text (.body delimiter raw) (i + 1) j) : Derives text (.body delimiter raw) i j
  | expressionEnd {i : Nat} : Derives text .expression i i
  | nested {i m j : Nat} (inner : Derives text .literal i m)
      (rest : Derives text .expression m j) : Derives text .expression i j
  | group {i m j : Nat} (mark : text[i]? = some '{') (inner : Derives text .expression (i + 1) m)
      (closes : text[m]? = some '}') (rest : Derives text .expression (m + 1) j) :
      Derives text .expression i j
  | other {i j : Nat} {c : Char} (here : text[i]? = some c) (unbraced : c ≠ '{' ∧ c ≠ '}')
      (unquoted : c ≠ '\'' ∧ c ≠ '"') (rest : Derives text .expression (i + 1) j) :
      Derives text .expression i j

theorem quoteAt?_of_opens {text : List Char} {place : Nat} {delimiter : List Char}
    (opens : Opens text place delimiter) :
    ∃ quote, quoteAt? (text.drop place) = some quote ∧ quote.chars = delimiter := by
  have same : delimiters = quotes.map Quote.chars := rfl
  rw [Opens, same, List.find?_map, Option.map_eq_some_iff] at opens
  exact opens

theorem isRaw_iff_prefixed {text : List Char} {place : Nat} (inside : place ≤ text.length) :
    isRaw (Cursor.within text place).before = true ↔ Prefixed text place := by
  rw [Cursor.before_within]
  match place with
  | 0 => simp [isRaw, Prefixed]
  | 1 =>
    cases text with
    | nil => simp at inside
    | cons c rest => simp [isRaw, Prefixed]
  | n + 2 =>
    have first : text[n + 1]? = some text[n + 1] := List.getElem?_eq_getElem (by omega)
    have second : text[n]? = some text[n] := List.getElem?_eq_getElem (by omega)
    have before : (text.take (n + 2)).reverse =
        text[n + 1] :: text[n] :: (text.take n).reverse := by
      rw [List.take_add_one, List.take_add_one, first, second]
      simp
    rw [before]
    simp [isRaw, Prefixed, first, second, isWord]

section
variable {quote : Quote} {raw : Bool} {after : List Char}

theorem bodyStep_of_stands (stands : quote.chars <+: after) :
    bodyStep quote raw after = .closes quote.width :=
  if_pos (List.isPrefixOf_iff_prefix.mpr stands)

theorem bodyStep_escape (unclosed : ¬ quote.chars <+: '\\' :: after) :
    bodyStep quote false ('\\' :: after) = .skips 2 := by
  rw [bodyStep_eq, if_neg (List.isPrefixOf_iff_prefix.not.mpr unclosed)]
  rfl

theorem bodyStep_interpolation (unclosed : ¬ quote.chars <+: '$' :: '{' :: after) :
    bodyStep quote false ('$' :: '{' :: after) = .opens 2 .braces := by
  rw [bodyStep_eq, if_neg (List.isPrefixOf_iff_prefix.not.mpr unclosed)]
  rfl

theorem bodyStep_character {c : Char} (unclosed : ¬ quote.chars <+: c :: after)
    (line : quote.chars.length = 1 → c ≠ '\n')
    (plain : raw = false → c ≠ '\\' ∧ ¬ ['$', '{'] <+: c :: after) :
    bodyStep quote raw (c :: after) = .skips 1 := by
  have triple : c = '\n' → quote.triple = true := by
    intro newline
    by_cases triple : quote.triple = true
    · exact triple
    · exact absurd newline (line (by simp [Quote.width, triple]))
  have unopened : raw = false → ¬ (c = '$' ∧ after.head? = some '{') := by
    rintro escapes ⟨rfl, brace⟩
    obtain ⟨rest, rfl⟩ := List.head?_eq_some_iff.mp brace
    exact (plain escapes).2 ⟨rest, rfl⟩
  rw [bodyStep_eq, if_neg (List.isPrefixOf_iff_prefix.not.mpr unclosed)]
  simp only [List.head?_cons, Option.some.injEq, List.tail_cons]
  by_cases newline : c = '\n'
  · rw [if_pos newline, if_pos (triple newline)]
  · rw [if_neg newline]
    cases raw with
    | true => simp
    | false => rw [if_neg (plain rfl).1, if_neg (unopened rfl)]

end

theorem bracesStep_quote {c : Cursor} {quote : Quote} (opens : quoteAt? c.after = some quote) :
    bracesStep c = .opens quote.width (.body quote (isRaw c.before)) := by
  rw [bracesStep, opens]

theorem bracesStep_plain {c : Cursor} {x : Char} {rest : List Char} (ahead : c.after = x :: rest)
    (unquoted : x ≠ '\'' ∧ x ≠ '"') :
    bracesStep c =
      if x = '{' then .opens 1 .braces else if x = '}' then .closes 1 else .skips 1 := by
  rw [bracesStep_eq, ahead, quoteAt?_cons_none rest unquoted.1 unquoted.2]
  simp

theorem Stands.bound {text word : List Char} {place : Nat} (stands : Stands text place word)
    (visible : word ≠ []) : place + word.length ≤ text.length := by
  have length := stands.length_le
  have word_pos := List.length_pos_iff.mpr visible
  rw [List.length_drop] at length
  omega

theorem chars_ne_nil (quote : Quote) : quote.chars ≠ [] := by
  obtain ⟨rest, chars⟩ := quote.chars_cons
  rw [chars]
  exact List.cons_ne_nil _ _

theorem lt_of_getElem? {text : List Char} {place : Nat} {c : Char} (here : text[place]? = some c) :
    place < text.length := (List.getElem?_eq_some_iff.mp here).1

/-- What a part of the text means to the scan, whatever frames are open around it. -/
def Follows (text : List Char) : Part → Nat → Nat → Prop
  | .literal, i, j => ∃ quote, quoteAt? (text.drop i) = some quote ∧ ∀ outer,
      settle (.body quote (isRaw (Cursor.within text i).before) :: outer) false
        (Cursor.within text (i + quote.width)) = settle outer true (Cursor.within text j)
  | .body delimiter raw, i, j => ∀ quote outer closed, quote.chars = delimiter →
      Stands text j delimiter →
      settle (.body quote raw :: outer) closed (Cursor.within text i) =
        settle outer true (Cursor.within text (j + quote.width))
  | .expression, i, j => ∀ outer closed, text[j]? = some '}' →
      settle (.braces :: outer) closed (Cursor.within text i) =
        settle outer true (Cursor.within text (j + 1))

theorem follows_of_derives {text : List Char} {part : Part} {i j : Nat}
    (derived : Derives text part i j) : Follows text part i j := by
  induction derived with
  | @literal i j delimiter raw opens prefixed body closes ih =>
    obtain ⟨quote, found, rfl⟩ := quoteAt?_of_opens opens
    have first : Stands text i quote.chars := (quoteAt?_eq_some found).2
    have bound := first.bound (chars_ne_nil quote)
    have same : raw = isRaw (Cursor.within text i).before :=
      Bool.eq_iff_iff.mpr (prefixed.trans (isRaw_iff_prefixed (by omega)).symm)
    refine ⟨quote, found, fun outer => ?_⟩
    rw [quote.length_chars] at ih ⊢
    rw [← same]
    exact ih quote outer false rfl closes
  | @bodyEnd i delimiter raw =>
    rintro quote outer closed rfl stands
    have bound := stands.bound (chars_ne_nil quote)
    have width_pos := List.length_pos_iff.mpr (chars_ne_nil quote)
    have closes : step (.body quote raw) (Cursor.within text i) = .closes quote.width :=
      bodyStep_of_stands (by rwa [Cursor.after_within])
    rw [settle_closes outer closed (within_ne_nil (by omega)) closes, Cursor.forward_within]
  | @escape i j delimiter unclosed mark more rest ih =>
    rintro quote outer closed rfl stands
    have ahead := drop_of_getElem? mark
    have skips : step (.body quote false) (Cursor.within text i) = .skips 2 := by
      rw [Stands, ahead] at unclosed
      rw [step, Cursor.after_within, ahead]
      exact bodyStep_escape unclosed
    rw [settle_skips outer closed (within_ne_nil (by omega)) skips, Cursor.forward_within]
    exact ih quote outer false rfl stands
  | @interpolation i m j delimiter unclosed mark inner closes rest ihInner ihRest =>
    rintro quote outer closed rfl stands
    have bound : i + 2 ≤ text.length := mark.bound (by simp)
    obtain ⟨others, ahead⟩ := mark
    have opens : step (.body quote false) (Cursor.within text i) = .opens 2 .braces := by
      rw [Stands, ← ahead] at unclosed
      rw [step, Cursor.after_within, ← ahead]
      exact bodyStep_interpolation unclosed
    rw [settle_opens outer closed (within_ne_nil (by omega)) opens, Cursor.forward_within,
      ihInner (.body quote false :: outer) false closes]
    exact ihRest quote outer true rfl stands
  | @character i j delimiter raw c unclosed here line plain rest ih =>
    rintro quote outer closed rfl stands
    have ahead := drop_of_getElem? here
    have skips : step (.body quote raw) (Cursor.within text i) = .skips 1 := by
      rw [Stands, ahead] at unclosed plain
      rw [step, Cursor.after_within, ahead]
      exact bodyStep_character unclosed line plain
    rw [settle_skips outer closed (within_ne_nil (lt_of_getElem? here)) skips,
      Cursor.forward_within]
    exact ih quote outer false rfl stands
  | @expressionEnd i =>
    intro outer closed brace
    have closes : step .braces (Cursor.within text i) = .closes 1 :=
      bracesStep_plain ((Cursor.after_within text i).trans (drop_of_getElem? brace)) (by decide)
    rw [settle_closes outer closed (within_ne_nil (lt_of_getElem? brace)) closes,
      Cursor.forward_within]
  | @nested i m j inner rest ihInner ihRest =>
    intro outer closed brace
    obtain ⟨quote, found, settled⟩ := ihInner
    have first : Stands text i quote.chars := (quoteAt?_eq_some found).2
    have bound := first.bound (chars_ne_nil quote)
    have width_pos := List.length_pos_iff.mpr (chars_ne_nil quote)
    have opens : step .braces (Cursor.within text i) =
        .opens quote.width (.body quote (isRaw (Cursor.within text i).before)) :=
      bracesStep_quote (by rwa [Cursor.after_within])
    rw [settle_opens outer closed (within_ne_nil (by omega)) opens, Cursor.forward_within, settled]
    exact ihRest outer true brace
  | @group i m j mark inner closes rest ihInner ihRest =>
    intro outer closed brace
    have opens : step .braces (Cursor.within text i) = .opens 1 .braces :=
      bracesStep_plain ((Cursor.after_within text i).trans (drop_of_getElem? mark)) (by decide)
    rw [settle_opens outer closed (within_ne_nil (lt_of_getElem? mark)) opens,
      Cursor.forward_within, ihInner (.braces :: outer) false closes]
    exact ihRest outer true brace
  | @other i j c here unbraced unquoted rest ih =>
    intro outer closed brace
    have skips : step .braces (Cursor.within text i) = .skips 1 := by
      rw [step, bracesStep_plain ((Cursor.after_within text i).trans (drop_of_getElem? here))
        unquoted, if_neg unbraced.1, if_neg unbraced.2]
    rw [settle_skips outer closed (within_ne_nil (lt_of_getElem? here)) skips,
      Cursor.forward_within]
    exact ih outer false brace

theorem skipLiteral_of_derives {text : List Char} {i j : Nat}
    (derived : Derives text .literal i j) :
    ∃ quote, quoteAt? (text.drop i) = some quote ∧
      skipLiteral quote (Cursor.within text i) = (Cursor.within text j, true) := by
  obtain ⟨quote, found, settled⟩ := follows_of_derives derived
  refine ⟨quote, found, ?_⟩
  rw [skipLiteral, Cursor.forward_within, settled [], settle]

theorem Derives.literal_bound {text : List Char} {i j : Nat} (derived : Derives text .literal i j) :
    j ≤ text.length := by
  cases derived with
  | literal opens prefixed body closes =>
    obtain ⟨quote, _, rfl⟩ := quoteAt?_of_opens opens
    exact closes.bound (chars_ne_nil quote)

theorem opens_of_quoteAt? {text : List Char} {place : Nat} {quote : Quote}
    (found : quoteAt? (text.drop place) = some quote) : Opens text place quote.chars := by
  have same : delimiters = quotes.map Quote.chars := rfl
  rw [Opens, same, List.find?_map, Option.map_eq_some_iff]
  exact ⟨quote, found, rfl⟩

theorem tokenEnd_of_derives {text : List Char} {i j : Nat} (derived : Derives text .literal i j) :
    ∃ quote body, quoteAt? (text.drop i) = some quote ∧ tokenEnd text i = j ∧
      j = i + (quote.chars ++ body ++ quote.chars).length ∧
      quote.chars ++ body ++ quote.chars <+: text.drop i ∧
      (token (Cursor.within text i)).1 = .literal quote true := by
  obtain ⟨quote, found, skipped⟩ := skipLiteral_of_derives derived
  have opens : quoteAt? (Cursor.within text i).after = some quote := by
    rwa [Cursor.after_within]
  have bound := derived.literal_bound
  obtain ⟨body, moved, stands⟩ := closed_literal_shape opens (by rw [skipped])
  rw [Cursor.after_within] at stands
  have length := stands.length_le
  have width_pos := quote.width_pos
  simp only [List.length_append, Quote.length_chars, List.length_drop] at length
  have stop : j = i + (2 * quote.width + body.length) := by
    rw [skipped, Cursor.forward_within] at moved
    have places := congrArg Cursor.position moved
    rwa [Cursor.position_within bound, Cursor.position_within (by omega)] at places
  refine ⟨quote, body, found, ?_, ?_, stands, ?_⟩
  · rw [tokenEnd, token_literal opens, skipped, Cursor.left_eq, Cursor.left_eq]
    simp only [Cursor.after_within, List.length_drop]
    omega
  · simp only [List.length_append, Quote.length_chars]
    omega
  · rw [token_literal opens, skipped]

theorem length_blank (text : List Char) : (blank text).length = text.length := by simp [blank]

theorem getElem?_ends {ends body other rest more : List Char} {n : Nat}
    (same : other.length = body.length) (outside : n < ends.length ∨
      (ends.length + body.length ≤ n ∧ n < 2 * ends.length + body.length)) :
    (ends ++ body ++ ends ++ rest)[n]? = (ends ++ other ++ ends ++ more)[n]? := by
  simp only [List.append_assoc]
  rcases outside with first | ⟨low, high⟩
  · rw [List.getElem?_append_left first, List.getElem?_append_left first]
  · rw [List.getElem?_append_right (by omega), List.getElem?_append_right (by omega),
      List.getElem?_append_left (by omega), List.getElem?_append_right (by omega),
      List.getElem?_append_right (by omega), List.getElem?_append_left (by omega), same]

theorem getElem?_body {ends body rest : List Char} {n : Nat} (low : ends.length ≤ n)
    (high : n < ends.length + body.length) :
    (ends ++ body ++ ends ++ rest)[n]? = body[n - ends.length]? := by
  simp only [List.append_assoc]
  rw [List.getElem?_append_right low, List.getElem?_append_left (by omega)]

theorem drop_strip_of_derives {text : List Char} {i j : Nat} (start : TokenStart text i)
    (derived : Derives text .literal i j) :
    ∃ quote body rest others, quoteAt? (text.drop i) = some quote ∧ tokenEnd text i = j ∧
      j = i + (2 * quote.width + body.length) ∧
      text.drop i = quote.chars ++ body ++ quote.chars ++ rest ∧
      (strip text).drop i = quote.chars ++ blank body ++ quote.chars ++ others := by
  obtain ⟨quote, body, found, stop, length, ⟨rest, whole⟩, kind⟩ := tokenEnd_of_derives derived
  have width : (token (Cursor.within text i)).2 =
      (quote.chars ++ body ++ quote.chars).length := by
    unfold tokenEnd at stop
    omega
  have bound := derived.literal_bound
  have width_pos := quote.width_pos
  simp only [List.length_append, Quote.length_chars] at length
  have more : (Cursor.within text i).after ≠ [] := within_ne_nil (by omega)
  refine ⟨quote, body, rest,
    stripFrom ((Cursor.within text i).forward (token (Cursor.within text i)).2),
    found, stop, by omega, whole.symm, ?_⟩
  rw [drop_strip start, stripFrom_step more, kind, width, Cursor.after_within, ← whole,
    List.take_left, shown_closed]

/-- Wherever a token starts and the grammar has a literal, the scan goes on behind the literal, keeps
    both its delimiters and blanks what is between them. -/
theorem literal_of_grammar {text : List Char} {i j : Nat} (start : TokenStart text i)
    (derived : Derives text .literal i j) :
    tokenEnd text i = j ∧ TokenStart text j ∧ ∃ delimiter, Opens text i delimiter ∧
      Stands text (j - delimiter.length) delimiter ∧ i + 2 * delimiter.length ≤ j ∧
      (∀ place, (i ≤ place ∧ place < i + delimiter.length) ∨
        (j - delimiter.length ≤ place ∧ place < j) → (strip text)[place]? = text[place]?) ∧
      ∀ place, i + delimiter.length ≤ place → place < j - delimiter.length →
        (strip text)[place]? = text[place]?.map fun c => if c = '\n' then c else ' ' := by
  obtain ⟨quote, body, rest, others, found, stop, length, whole, stripped⟩ :=
    drop_strip_of_derives start derived
  have bound := derived.literal_bound
  have width_pos := quote.width_pos
  have here (n : Nat) : text[i + n]? = (quote.chars ++ body ++ quote.chars ++ rest)[n]? := by
    rw [← whole, List.getElem?_drop]
  have there (n : Nat) :
      (strip text)[i + n]? = (quote.chars ++ blank body ++ quote.chars ++ others)[n]? := by
    rw [← stripped, List.getElem?_drop]
  have later : TokenStart text (tokenEnd text i) := .next start (by omega)
  refine ⟨stop, stop ▸ later, quote.chars, opens_of_quoteAt? found, ?_, ?_, ?_, ?_⟩
  · have place : j - quote.width = i + (quote.chars ++ body).length := by
      simp only [List.length_append, quote.length_chars]
      omega
    rw [Stands, quote.length_chars, place, ← List.drop_drop, whole, List.append_assoc,
      List.drop_left]
    exact List.prefix_append quote.chars rest
  · rw [quote.length_chars]
    omega
  · intro place outside
    rw [quote.length_chars] at outside
    obtain ⟨n, rfl⟩ := Nat.exists_eq_add_of_le (m := i) (n := place) (by omega)
    rw [here, there]
    exact getElem?_ends (length_blank body).symm (by rw [quote.length_chars, length_blank]; omega)
  · intro place first last
    rw [quote.length_chars] at first last
    obtain ⟨n, rfl⟩ := Nat.exists_eq_add_of_le (m := i) (n := place) (by omega)
    rw [here, there, getElem?_body (by rw [quote.length_chars]; omega)
      (by rw [quote.length_chars, length_blank]; omega),
      getElem?_body (by rw [quote.length_chars]; omega) (by rw [quote.length_chars]; omega),
      blank, List.getElem?_map]

theorem literal_of_grammar_nested_quote :
    Derives "'a$\x7bf(\"\x7d\")\x7db';".toList .literal 0 13 ∧
      tokenEnd "'a$\x7bf(\"\x7d\")\x7db';".toList 0 = 13 := by
  have inner : Derives "'a$\x7bf(\"\x7d\")\x7db';".toList .literal 6 9 := by
    refine @Derives.literal _ 6 8 ['"'] false rfl (by simp [Prefixed]) ?_ (by decide)
    exact .character (by decide) rfl (by decide) (by decide) .bodyEnd
  have expression : Derives "'a$\x7bf(\"\x7d\")\x7db';".toList .expression 4 10 :=
    .other rfl (by decide) (by decide) (.other rfl (by decide) (by decide)
      (.nested inner (.other rfl (by decide) (by decide) .expressionEnd)))
  have derived : Derives "'a$\x7bf(\"\x7d\")\x7db';".toList .literal 0 13 := by
    refine @Derives.literal _ 0 12 ['\''] false rfl (by simp [Prefixed]) ?_ (by decide)
    exact .character (by decide) rfl (by decide) (by decide)
      (.interpolation (by decide) (by decide) expression rfl
        (.character (by decide) rfl (by decide) (by decide) .bodyEnd))
  exact ⟨derived, (literal_of_grammar .first derived).1⟩

end SourceCensus.Literal
