/-! Text with marks for style in brackets. A mark starts with a small letter or one of three signs and
   ends at the next closing bracket; a backslash before it makes it plain text. -/
namespace SourceCensus.Command

def startsMark (c : Char) : Bool := c.isLower || c = '#' || c = '/' || c = '@'

/-- What follows the mark, if the text behind an opening bracket is the rest of one. -/
def afterMark? : List Char → Option (List Char)
  | [] => none
  | c :: rest =>
    if startsMark c then
      match rest.dropWhile fun d => d != ']' && d != '[' with
      | ']' :: after => some after
      | _ => none
    else none

theorem afterMark?_length {text after : List Char} (found : afterMark? text = some after) :
    after.length < text.length := by
  cases text with
  | nil => simp [afterMark?] at found
  | cons c rest =>
    have shorter : (rest.dropWhile fun d => d != ']' && d != '[').length ≤ rest.length :=
      (List.dropWhile_sublist _).length_le
    simp only [afterMark?] at found
    split at found
    · split at found
      · rename_i left same
        rw [same] at shorter
        simp only [Option.some.injEq] at found
        subst found
        simp only [List.length_cons] at shorter ⊢
        omega
      · simp at found
    · simp at found

def backslashes (count : Nat) : List Char := List.replicate count '\\'

def escapeFrom (slashes : Nat) : List Char → List Char
  | [] => backslashes slashes
  | '\\' :: rest => escapeFrom (slashes + 1) rest
  | '[' :: rest =>
    backslashes (if (afterMark? rest).isSome then 2 * slashes + 1 else slashes) ++
      '[' :: escapeFrom 0 rest
  | c :: rest => backslashes slashes ++ c :: escapeFrom 0 rest

def endsInOneBackslash (text : List Char) : Bool :=
  match text.reverse with
  | '\\' :: '\\' :: _ => false
  | '\\' :: _ => true
  | _ => false

/-- Text in which nothing is taken for a mark. A single backslash at the end is doubled. -/
def escape (text : List Char) : List Char :=
  let done := escapeFrom 0 text
  if endsInOneBackslash done then done ++ ['\\'] else done

/-- What is seen of text with marks. A backslash before a bracket that starts no mark goes as well. -/
def visibleFrom (slashes : Nat) (text : List Char) : List Char :=
  match text with
  | [] => backslashes slashes
  | c :: rest =>
    if c = '\\' then visibleFrom (slashes + 1) rest
    else if c = '[' then
      match _found : afterMark? rest with
      | none => backslashes (slashes - 1) ++ '[' :: visibleFrom 0 rest
      | some after =>
        if slashes % 2 = 1 then backslashes (slashes / 2) ++ '[' :: visibleFrom 0 rest
        else backslashes (slashes / 2) ++ visibleFrom 0 after
    else backslashes slashes ++ c :: visibleFrom 0 rest
  termination_by text.length
  decreasing_by
    all_goals first
      | (have shorter := afterMark?_length _found; simp only [List.length_cons]; omega)
      | simp

/-- Characters that move the cursor and are left out: bell, backspace, vertical tab, form feed and
    carriage return. -/
def movesCursor (c : Char) : Bool := [7, 8, 11, 12, 13].contains c.toNat

def steady (text : List Char) : List Char := text.filter (!movesCursor ·)

def visible (text : List Char) : List Char :=
  if text.contains '[' then visibleFrom 0 text else text

end SourceCensus.Command
