import SourceCensus.Proofs.Json.Layout
import SourceCensus.Proofs.Json.Number

/-! Whole documents, written and read again. The reading follows the writing value by value, over the
   breaks and spaces between them; what stands behind a value is no more of it. -/
namespace SourceCensus.Json
open Decimal

/-- A style that puts nothing but white space around the marks of a document. -/
def Style.Regular (style : Style) : Prop :=
  ∃ spaces, (∀ c ∈ spaces, isSpace c) ∧ style.colon = ':' :: spaces

theorem regular_pretty : pretty.Regular := ⟨[' '], by simp [isSpace], rfl⟩

mutual

def Value.reals : Value → List Float
  | .real value => [value]
  | .array items => realsOfItems items
  | .object members => realsOfMembers members
  | _ => []

def realsOfItems : List Value → List Float
  | [] => []
  | item :: rest => item.reals ++ realsOfItems rest

def realsOfMembers : List (String × Value) → List Float
  | [] => []
  | (_, value) :: rest => value.reals ++ realsOfMembers rest

end

theorem ends_space {c : Char} (blank : isSpace c) (rest : List Char) : Numeral.Ends (c :: rest) := by
  rintro _ ⟨⟩
  simp only [isSpace, Bool.or_eq_true, beq_iff_eq] at blank
  rcases blank with ((rfl | rfl) | rfl) | rfl <;> decide

theorem ends_lineBreak (style : Style) (depth : Nat) {c : Char} {rest : List Char}
    (ends : Numeral.Ends (c :: rest)) : Numeral.Ends (style.lineBreak depth ++ c :: rest) := by
  cases written : style.lineBreak depth with
  | nil => exact ends
  | cons first more =>
    exact ends_space (isSpace_lineBreak style depth first (by simp [written])) _

theorem ne_of_starts_number {c mark : Char} (starts : c = '-' ∨ c.isDigit) (noSign : mark ≠ '-')
    (noDigit : mark.isDigit = false) : c ≠ mark := by
  rintro rfl
  rcases starts with sign | digit
  · exact noSign sign
  · rw [noDigit] at digit
    cases digit

theorem solid_of_starts_number {c : Char} (starts : c = '-' ∨ c.isDigit) : isSpace c = false := by
  simp [isSpace, ne_of_starts_number starts]

theorem readValue?_number {c : Char} (starts : c = '-' ∨ c.isDigit) (fuel : Nat) (rest : List Char) :
    readValue? (fuel + 1) (c :: rest) = readNumber? (c :: rest) := by
  have other {mark : Char} {left right : List Char} (same : c :: left = mark :: right)
      (noSign : mark ≠ '-') (noDigit : mark.isDigit = false) : False :=
    ne_of_starts_number starts noSign noDigit (List.cons.inj same).1
  rw [readValue?, skipSpace_cons (solid_of_starts_number starts)]
  split
  case h_1 same => exact (other same (by decide) (by decide)).elim
  case h_2 same => exact (other same (by decide) (by decide)).elim
  case h_3 same => exact (other same (by decide) (by decide)).elim
  case h_4 same => exact (other same (by decide) (by decide)).elim
  case h_5 same => exact (other same (by decide) (by decide)).elim
  case h_6 same => exact (other same (by decide) (by decide)).elim
  case h_7 => rfl

section
variable (style : Style)

theorem writeAt_int_starts (depth : Nat) (value : Int) :
    ∃ c more, (Value.int value).writeAt style depth = c :: more ∧ (c = '-' ∨ c.isDigit) := by
  rw [Value.writeAt, ← text_integer]
  exact (integer value).text_starts

theorem writeAt_real_starts (depth : Nat) {x : Float} (given : ReadsBack x) :
    ∃ c more, (Value.real x).writeAt style depth = c :: more ∧ (c = '-' ∨ c.isDigit) := by
  obtain ⟨b, finite⟩ := given.finite
  obtain ⟨n, -, written⟩ := writesReal_shortest b
  rw [Value.writeAt, (toList_writeReal finite).1, ← written]
  exact n.text_starts

theorem writeAt_starts (depth : Nat) (v : Value) (given : ∀ x ∈ v.reals, ReadsBack x) :
    ∃ c more, v.writeAt style depth = c :: more ∧ isSpace c = false ∧ c ≠ ']' := by
  have number {c : Char} (starts : c = '-' ∨ c.isDigit) : isSpace c = false ∧ c ≠ ']' :=
    ⟨solid_of_starts_number starts, ne_of_starts_number starts (by decide) (by decide)⟩
  cases v with
  | null => exact ⟨'n', _, rfl, by decide⟩
  | bool value =>
    cases value with
    | false => exact ⟨'f', _, rfl, by decide⟩
    | true => exact ⟨'t', _, rfl, by decide⟩
  | int value =>
    obtain ⟨c, more, written, starts⟩ := writeAt_int_starts style depth value
    exact ⟨c, more, written, number starts⟩
  | real x =>
    obtain ⟨c, more, written, starts⟩ :=
      writeAt_real_starts style depth (given x (by simp [Value.reals]))
    exact ⟨c, more, written, number starts⟩
  | string text => exact ⟨'"', _, by rw [Value.writeAt]; rfl, by decide⟩
  | array items =>
    cases items with
    | nil => exact ⟨'[', _, by rw [Value.writeAt], by decide⟩
    | cons => exact ⟨'[', _, by rw [Value.writeAt], by decide⟩
  | object members =>
    cases members with
    | nil => exact ⟨'\x7b', _, by rw [Value.writeAt], by decide⟩
    | cons => exact ⟨'\x7b', _, by rw [Value.writeAt], by decide⟩

variable {style}

theorem ends_comma (rest : List Char) : Numeral.Ends (',' :: rest) := by
  rintro _ ⟨⟩
  decide

theorem ends_items {depth : Nat} {behind : List Char} (ends : Numeral.Ends behind)
    (items : List Value) : Numeral.Ends (writeItems style depth items ++ behind) := by
  cases items with
  | nil => rwa [writeItems, List.nil_append]
  | cons item rest =>
    rw [writeItems_append]
    exact ends_comma _

theorem ends_members {depth : Nat} {behind : List Char} (ends : Numeral.Ends behind)
    (members : List (String × Value)) : Numeral.Ends (writeMembers style depth members ++ behind) := by
  cases members with
  | nil => rwa [writeMembers, List.nil_append]
  | cons member rest =>
    rw [writeMembers_append]
    exact ends_comma _

theorem readValue?_bracket (fuel : Nat) {inside more : List Char} {c : Char}
    (starts : skipSpace inside = c :: more) (unclosed : c ≠ ']') :
    readValue? (fuel + 1) ('[' :: inside) =
      (readItems? fuel inside).map fun (items, left) => (.array items, left) := by
  rw [← readItems?_skipSpace, readValue?, skipSpace_cons (by decide), starts]
  split <;> simp_all

theorem readValue?_brace (fuel : Nat) {inside more : List Char} {c : Char}
    (starts : skipSpace inside = c :: more) (unclosed : c ≠ '\x7d') :
    readValue? (fuel + 1) ('\x7b' :: inside) =
      (readMembers? fuel inside).map fun (members, left) => (.object members, left) := by
  rw [← readMembers?_skipSpace, readValue?, skipSpace_cons (by decide), starts]
  split <;> simp_all

theorem readValue?_array (depth fuel : Nat) (item : Value) (others : List Value) (rest : List Char)
    (given : ∀ x ∈ item.reals, ReadsBack x)
    (read : readItems? fuel ((writeItems style (depth + 1) (item :: others)).tail ++
      (style.lineBreak depth ++ ']' :: rest)) = some (item :: others, rest)) :
    readValue? (fuel + 1) ((Value.array (item :: others)).writeAt style depth ++ rest) =
      some (.array (item :: others), rest) := by
  have text : (Value.array (item :: others)).writeAt style depth ++ rest =
      '[' :: ((writeItems style (depth + 1) (item :: others)).tail ++
        (style.lineBreak depth ++ ']' :: rest)) := by
    rw [Value.writeAt, writeItems, List.tail_cons]
    simp
  obtain ⟨c, more, written, solid, unclosed⟩ := writeAt_starts style (depth + 1) item given
  have starts : skipSpace ((writeItems style (depth + 1) (item :: others)).tail ++
      (style.lineBreak depth ++ ']' :: rest)) = c :: (more ++
        (writeItems style (depth + 1) others ++ (style.lineBreak depth ++ ']' :: rest))) := by
    rw [writeItems, List.tail_cons, List.append_assoc, List.append_assoc,
      skipSpace_append (isSpace_lineBreak style _), written, List.cons_append, skipSpace_cons solid]
  rw [text, readValue?_bracket fuel starts unclosed, read]
  rfl

theorem readItems?_cons (depth fuel : Nat) (item : Value) (others : List Value)
    {behind left : List Char} (closes : skipSpace behind = ']' :: left)
    (first : readValue? fuel (item.writeAt style depth ++ (writeItems style depth others ++ behind)) =
      some (item, writeItems style depth others ++ behind))
    (later : others ≠ [] → readItems? fuel ((writeItems style depth others).tail ++ behind) =
      some (others, left)) :
    readItems? (fuel + 1) ((writeItems style depth (item :: others)).tail ++ behind) =
      some (item :: others, left) := by
  rw [writeItems, List.tail_cons, readItems?, List.append_assoc, List.append_assoc,
    readValue?_append (isSpace_lineBreak style depth), first]
  cases others with
  | nil => simp only [writeItems, List.nil_append, closes]
  | cons next others =>
    rw [writeItems_append]
    simp only [skipSpace_cons (show isSpace ',' = false by decide), later (List.cons_ne_nil _ _),
      Option.map_some]

theorem readValue?_object (depth fuel : Nat) (member : String × Value)
    (others : List (String × Value)) (rest : List Char)
    (read : readMembers? fuel ((writeMembers style (depth + 1) (member :: others)).tail ++
      (style.lineBreak depth ++ '\x7d' :: rest)) = some (member :: others, rest)) :
    readValue? (fuel + 1) ((Value.object (member :: others)).writeAt style depth ++ rest) =
      some (.object (member :: others), rest) := by
  obtain ⟨name, value⟩ := member
  have text : (Value.object ((name, value) :: others)).writeAt style depth ++ rest =
      '\x7b' :: ((writeMembers style (depth + 1) ((name, value) :: others)).tail ++
        (style.lineBreak depth ++ '\x7d' :: rest)) := by
    rw [Value.writeAt, writeMembers, List.tail_cons]
    simp
  have starts : ∃ more, skipSpace ((writeMembers style (depth + 1) ((name, value) :: others)).tail ++
      (style.lineBreak depth ++ '\x7d' :: rest)) = '"' :: more := by
    rw [writeMembers, List.tail_cons]
    simp only [List.append_assoc]
    rw [skipSpace_append (isSpace_lineBreak style _), writeString, List.cons_append, List.cons_append,
      skipSpace_cons (by decide)]
    exact ⟨_, rfl⟩
  obtain ⟨more, starts⟩ := starts
  rw [text, readValue?_brace fuel starts (by decide), read]
  rfl

theorem readMembers?_cons (regular : style.Regular) (depth fuel : Nat) (name : String) (value : Value)
    (others : List (String × Value)) {behind left : List Char} (closes : skipSpace behind = '\x7d' :: left)
    (first : readValue? fuel
      (value.writeAt style depth ++ (writeMembers style depth others ++ behind)) =
      some (value, writeMembers style depth others ++ behind))
    (later : others ≠ [] → readMembers? fuel ((writeMembers style depth others).tail ++ behind) =
      some (others, left)) :
    readMembers? (fuel + 1) ((writeMembers style depth ((name, value) :: others)).tail ++ behind) =
      some ((name, value) :: others, left) := by
  obtain ⟨spaces, blank, colon⟩ := regular
  have text : (writeMembers style depth ((name, value) :: others)).tail ++ behind =
      style.lineBreak depth ++ '"' :: (name.toList.flatMap escapedChar ++ '"' :: (':' :: (spaces ++
        (value.writeAt style depth ++ (writeMembers style depth others ++ behind))))) := by
    rw [writeMembers, List.tail_cons, writeString, colon]
    simp
  rw [text, readMembers?, skipSpace_append (isSpace_lineBreak style depth), skipSpace_cons (by decide)]
  simp only [readString?_escaped, skipSpace_cons (show isSpace ':' = false by decide),
    readValue?_append blank, first]
  cases others with
  | nil => simp only [writeMembers, List.nil_append, closes]
  | cons next others =>
    rw [writeMembers_append]
    simp only [skipSpace_cons (show isSpace ',' = false by decide), later (List.cons_ne_nil _ _),
      Option.map_some]

theorem length_writeAt_pos (style : Style) (depth : Nat) (v : Value) (given : ∀ x ∈ v.reals, ReadsBack x) :
    0 < (v.writeAt style depth).length := by
  obtain ⟨c, more, written, -⟩ := writeAt_starts style depth v given
  rw [written, List.length_cons]
  omega

mutual

theorem readValue?_writeAt (regular : style.Regular) (v : Value)
    (given : ∀ x ∈ v.reals, ReadsBack x) {depth fuel : Nat} {rest : List Char}
    (enough : (v.writeAt style depth).length ≤ fuel) (ends : Numeral.Ends rest) :
    readValue? fuel (v.writeAt style depth ++ rest) = some (v, rest) := by
  cases fuel with
  | zero =>
    have positive := length_writeAt_pos style depth v given
    omega
  | succ fuel =>
    match v with
    | .null => rfl
    | .bool value => cases value <;> rfl
    | .int value =>
      obtain ⟨c, more, written, starts⟩ := writeAt_int_starts style depth value
      rw [written, List.cons_append, readValue?_number starts, ← List.cons_append, ← written,
        Value.writeAt, readNumber?_integer value ends]
    | .real x =>
      have given := given x (by simp [Value.reals])
      obtain ⟨c, more, written, starts⟩ := writeAt_real_starts style depth given
      rw [written, List.cons_append, readValue?_number starts, ← List.cons_append, ← written,
        Value.writeAt, readNumber?_writeReal given ends]
    | .string text =>
      have read := readString?_escaped text rest
      have written : (Value.string text).writeAt style depth ++ rest =
          '"' :: (text.toList.flatMap escapedChar ++ '"' :: rest) := by
        rw [Value.writeAt, writeString]
        simp
      rw [written, readValue?, skipSpace_cons (by decide)]
      simp only [read, Option.map_some]
    | .array [] => rfl
    | .array (item :: others) =>
      rw [Value.reals] at given
      refine readValue?_array depth fuel item others rest ?_ ?_
      · intro x member
        exact given x (by simp [realsOfItems, member])
      · refine readItems?_writeItems regular (item :: others) given (List.cons_ne_nil _ _) ?_ ?_ ?_
        · simp only [Value.writeAt, writeItems, List.length_cons, List.length_append] at enough ⊢
          omega
        · exact ends_lineBreak style depth (by rintro _ ⟨⟩; decide)
        · rw [skipSpace_append (isSpace_lineBreak style depth), skipSpace_cons (by decide)]
    | .object [] => rfl
    | .object (member :: others) =>
      rw [Value.reals] at given
      refine readValue?_object depth fuel member others rest ?_
      refine readMembers?_writeMembers regular (member :: others) given (List.cons_ne_nil _ _) ?_ ?_ ?_
      · obtain ⟨name, value⟩ := member
        simp only [Value.writeAt, writeMembers, List.length_cons, List.length_append] at enough ⊢
        omega
      · exact ends_lineBreak style depth (by rintro _ ⟨⟩; decide)
      · rw [skipSpace_append (isSpace_lineBreak style depth), skipSpace_cons (by decide)]

theorem readItems?_writeItems (regular : style.Regular) (items : List Value)
    (given : ∀ x ∈ realsOfItems items, ReadsBack x) (some : items ≠ []) {depth fuel : Nat}
    {behind left : List Char} (enough : (writeItems style depth items).length ≤ fuel)
    (ends : Numeral.Ends behind) (closes : skipSpace behind = ']' :: left) :
    readItems? fuel ((writeItems style depth items).tail ++ behind) = Option.some (items, left) := by
  match items with
  | [] => exact absurd rfl some
  | item :: others =>
    rw [realsOfItems] at given
    rw [writeItems, List.length_cons, List.length_append, List.length_append] at enough
    cases fuel with
    | zero => omega
    | succ fuel =>
      refine readItems?_cons depth fuel item others closes ?_ ?_
      · exact readValue?_writeAt regular item (fun x member => given x (List.mem_append_left _ member))
          (by omega) (ends_items ends others)
      · intro more
        exact readItems?_writeItems regular others (fun x member => given x (List.mem_append_right _ member))
          more (by omega) ends closes

theorem readMembers?_writeMembers (regular : style.Regular) (members : List (String × Value))
    (given : ∀ x ∈ realsOfMembers members, ReadsBack x) (some : members ≠ []) {depth fuel : Nat}
    {behind left : List Char} (enough : (writeMembers style depth members).length ≤ fuel)
    (ends : Numeral.Ends behind) (closes : skipSpace behind = '\x7d' :: left) :
    readMembers? fuel ((writeMembers style depth members).tail ++ behind) =
      Option.some (members, left) := by
  match members with
  | [] => exact absurd rfl some
  | (name, value) :: others =>
    rw [realsOfMembers] at given
    rw [writeMembers] at enough
    simp only [List.length_cons, List.length_append] at enough
    cases fuel with
    | zero => omega
    | succ fuel =>
      refine readMembers?_cons regular depth fuel name value others closes ?_ ?_
      · exact readValue?_writeAt regular value (fun x member => given x (List.mem_append_left _ member))
          (by omega) (ends_members ends others)
      · intro more
        exact readMembers?_writeMembers regular others
          (fun x member => given x (List.mem_append_right _ member)) more (by omega) ends closes

end

/-- Every document is read back as it is, if its reals are. -/
theorem read?_write (regular : style.Regular) (v : Value) (given : ∀ x ∈ v.reals, ReadsBack x) :
    read? (v.write style) = some v := by
  have ends : Numeral.Ends [] := by simp [Numeral.Ends]
  have whole := readValue?_writeAt regular v given
    (Nat.le_succ (v.writeAt style 0).length) ends
  rw [List.append_nil] at whole
  rw [read?, Value.write, String.toList_ofList]
  simp only [whole]
  rfl

theorem ascii_of_blank {spaces : List Char} (blank : ∀ c ∈ spaces, isSpace c) : Ascii spaces := by
  intro c member
  have known := blank c member
  simp only [isSpace, Bool.or_eq_true, beq_iff_eq] at known
  rcases known with ((rfl | rfl) | rfl) | rfl <;> decide

theorem ascii_lineBreak (style : Style) (depth : Nat) : Ascii (style.lineBreak depth) :=
  ascii_of_blank (isSpace_lineBreak style depth)

theorem ascii_colon (regular : style.Regular) : Ascii style.colon := by
  obtain ⟨spaces, blank, colon⟩ := regular
  rw [colon, ascii_cons]
  exact ⟨by decide, ascii_of_blank blank⟩

mutual

theorem ascii_writeAt (regular : style.Regular) (depth : Nat) (v : Value) :
    Ascii (v.writeAt style depth) := by
  match v with
  | .null => simp [Value.writeAt]
  | .bool value => cases value <;> simp [Value.writeAt]
  | .int value =>
    rw [Value.writeAt]
    exact ascii_toString value
  | .real x =>
    rw [Value.writeAt]
    exact ascii_writeReal x
  | .string text =>
    rw [Value.writeAt]
    exact ascii_writeString text
  | .array [] => simp [Value.writeAt]
  | .array (item :: others) =>
    simp [Value.writeAt, ascii_lineBreak, ascii_writeAt regular _ item, ascii_writeItems regular _ others]
  | .object [] => simp [Value.writeAt]
  | .object ((name, value) :: others) =>
    simp [Value.writeAt, ascii_lineBreak, ascii_colon regular, ascii_writeString,
      ascii_writeAt regular _ value, ascii_writeMembers regular _ others]

theorem ascii_writeItems (regular : style.Regular) (depth : Nat) (items : List Value) :
    Ascii (writeItems style depth items) := by
  match items with
  | [] => simp [writeItems]
  | item :: others =>
    simp [writeItems, ascii_lineBreak, ascii_writeAt regular _ item, ascii_writeItems regular _ others]

theorem ascii_writeMembers (regular : style.Regular) (depth : Nat) (members : List (String × Value)) :
    Ascii (writeMembers style depth members) := by
  match members with
  | [] => simp [writeMembers]
  | (name, value) :: others =>
    simp [writeMembers, ascii_lineBreak, ascii_colon regular, ascii_writeString,
      ascii_writeAt regular _ value, ascii_writeMembers regular _ others]

end

theorem ascii_write (regular : style.Regular) (v : Value) : Ascii (v.write style).toList := by
  rw [Value.write, String.toList_ofList]
  exact ascii_writeAt regular 0 v

end

end SourceCensus.Json
