import Mathlib.Algebra.Group.Int.Defs
import SourceCensus.Command.Request
import SourceCensus.Proofs.Fault
import SourceCensus.Proofs.Text.Digits

/-! What the words of a command line ask for. Each word writes a whole number or it does not, and of the
   numbers those of 32 bits are limits; a number of more digits than can be read is a fault, but only
   if it is come to. All else is told by which words there are and how many. -/
namespace SourceCensus.Command
open Text

structure IsRun (digits : List Char) : Prop where
  nonempty : digits ≠ []
  plain : ∀ c ∈ digits, c.isDigit = true

inductive Writes (word : String) (digits : List Char) : Int → Prop
  | unsigned (run : IsRun digits) (text : word.toList = digits) :
      Writes word digits (Nat.ofDigitChars 10 digits 0)
  | plus (run : IsRun digits) (text : word.toList = '+' :: digits) :
      Writes word digits (Nat.ofDigitChars 10 digits 0)
  | minus (run : IsRun digits) (text : word.toList = '-' :: digits) :
      Writes word digits (-(Nat.ofDigitChars 10 digits 0 : Int))

/-- A word that writes a number with more digits than are read. -/
def Overlong (word : String) : Prop :=
  ∃ digits value, Writes word digits value ∧ longestInteger < digits.length

/-- A word that writes a number of 32 bits. -/
def IsLimit (word : String) (value : Int) : Prop :=
  (∃ digits, Writes word digits value) ∧ -2 ^ 31 ≤ value ∧ value ≤ 2 ^ 31 - 1

section word
variable {word : String} {digits : List Char} {value : Int}

theorem IsRun.head (run : IsRun digits) : ∃ c rest, digits = c :: rest ∧ c.isDigit = true := by
  obtain ⟨c, rest, rfl⟩ := List.exists_cons_of_ne_nil run.nonempty
  exact ⟨c, rest, rfl, run.plain c List.mem_cons_self⟩

namespace Writes

theorem run (writes : Writes word digits value) : IsRun digits := by
  cases writes <;> assumption

theorem length_le (writes : Writes word digits value) : digits.length ≤ word.length := by
  rw [← String.length_toList]
  cases writes with
  | unsigned run text | plus run text | minus run text => simp [text]

theorem digitsOf_eq (writes : Writes word digits value) : digitsOf word.toList = digits := by
  cases writes with
  | unsigned run text =>
    obtain ⟨c, rest, rfl, first⟩ := run.head
    rw [text, digitsOf]
    · rintro _ ⟨⟩
      cases first
    · rintro _ ⟨⟩
      cases first
  | plus run text | minus run text => rw [text, digitsOf]

theorem readInteger_eq (writes : Writes word digits value) :
    readInteger word =
      if longestInteger < digits.length then .error (.tooLong digits.length) else .ok value := by
  cases writes with
  | unsigned run text =>
    rw [← text, ← readInteger_digits (text ▸ run.nonempty) (text ▸ run.plain), String.ofList_toList]
  | plus run text | minus run text =>
    refine readInteger_signed ?_ (by rw [text, takeSign]) run.nonempty run.plain
    rw [text]
    exact List.dropWhile_cons_of_neg (by decide)

theorem value_eq (writes : Writes word digits value) :
    value = if word.toList.head? = some '-' then -(Nat.ofDigitChars 10 digits 0 : Int)
      else Nat.ofDigitChars 10 digits 0 := by
  cases writes with
  | unsigned run text =>
    obtain ⟨c, rest, rfl, first⟩ := run.head
    have other : c ≠ '-' := ne_of_isDigit first rfl
    simp [text, other]
  | plus run text | minus run text => simp [text]

theorem unique {others : List Char} {other : Int} (writes : Writes word digits value)
    (same : Writes word others other) : digits = others ∧ value = other := by
  obtain rfl : digits = others := by rw [← writes.digitsOf_eq, ← same.digitsOf_eq]
  exact ⟨rfl, by rw [writes.value_eq, same.value_eq]⟩

end Writes

theorem isWholeNumber_iff :
    isWholeNumber word.toList = true ↔ ∃ digits value, Writes word digits value := by
  constructor
  · intro whole
    rw [isWholeNumber, Bool.and_eq_true, Bool.not_eq_true', List.isEmpty_eq_false_iff,
      List.all_eq_true] at whole
    have run : IsRun (digitsOf word.toList) := ⟨whole.1, whole.2⟩
    refine ⟨digitsOf word.toList, ?_⟩
    unfold digitsOf at run ⊢
    split at run
    · exact ⟨_, .plus run ‹_›⟩
    · exact ⟨_, .minus run ‹_›⟩
    · exact ⟨_, .unsigned run rfl⟩
  · rintro ⟨digits, value, writes⟩
    rw [isWholeNumber, writes.digitsOf_eq, Bool.and_eq_true, Bool.not_eq_true',
      List.isEmpty_eq_false_iff, List.all_eq_true]
    exact ⟨writes.run.nonempty, writes.run.plain⟩

theorem Writes.limitOf?_eq (writes : Writes word digits value) :
    limitOf? word =
      if longestInteger < digits.length then .error (.notAnInteger word (.tooLong digits.length))
      else .ok (if -2 ^ 31 ≤ value ∧ value ≤ 2 ^ 31 - 1 then some value else none) := by
  have whole := isWholeNumber_iff.mpr ⟨digits, value, writes⟩
  have least : leastLimit = -2 ^ 31 := by decide
  have greatest : greatestLimit = 2 ^ 31 - 1 := by decide
  rw [limitOf?, whole, writes.readInteger_eq, least, greatest]
  by_cases long : longestInteger < digits.length <;> simp only [long, if_true, if_false] <;> rfl

theorem limitOf?_cases (word : String) :
    (∃ digits value, Writes word digits value ∧ longestInteger < digits.length ∧
      limitOf? word = .error (.notAnInteger word (.tooLong digits.length))) ∨
    (¬ Overlong word ∧ ∃ value, IsLimit word value ∧ limitOf? word = .ok (some value)) ∨
    (¬ Overlong word ∧ (∀ value, ¬ IsLimit word value) ∧ limitOf? word = .ok none) := by
  by_cases whole : ∃ digits value, Writes word digits value
  · obtain ⟨digits, value, writes⟩ := whole
    have read := writes.limitOf?_eq
    by_cases long : longestInteger < digits.length
    · exact .inl ⟨digits, value, writes, long, by rw [read, if_pos long]⟩
    rw [if_neg long] at read
    -- A word writes its number in one way only, so it cannot be overlong by other digits.
    have short : ¬ Overlong word := by
      rintro ⟨others, other, same, longer⟩
      obtain ⟨rfl, -⟩ := writes.unique same
      exact long longer
    by_cases range : -2 ^ 31 ≤ value ∧ value ≤ 2 ^ 31 - 1
    · exact .inr (.inl ⟨short, value, ⟨⟨digits, writes⟩, range⟩, by rw [read, if_pos range]⟩)
    · refine .inr (.inr ⟨short, ?_, by rw [read, if_neg range]⟩)
      rintro other ⟨⟨others, same⟩, inside⟩
      obtain ⟨-, rfl⟩ := writes.unique same
      exact range inside
  · have refused : limitOf? word = .ok none := by
      rw [limitOf?, if_pos]
      simpa using fun yes => whole (isWholeNumber_iff.mp yes)
    refine .inr (.inr ⟨?_, ?_, refused⟩)
    · exact fun ⟨digits, value, writes, _⟩ => whole ⟨digits, value, writes⟩
    · exact fun value ⟨⟨digits, writes⟩, _⟩ => whole ⟨digits, value, writes⟩

theorem not_overlong_of_length_le (short : word.length ≤ longestInteger) : ¬ Overlong word := by
  rintro ⟨digits, value, writes, long⟩
  have bounded := writes.length_le
  omega

theorem IsLimit.unique {other : Int} (one : IsLimit word value) (same : IsLimit word other) :
    value = other := by
  obtain ⟨⟨digits, writes⟩, -⟩ := one
  obtain ⟨⟨others, again⟩, -⟩ := same
  exact (writes.unique again).2

theorem limitOf?_eq_some :
    limitOf? word = .ok (some value) ↔ ¬ Overlong word ∧ IsLimit word value := by
  obtain ⟨digits, number, writes, long, read⟩ | ⟨short, number, limit, read⟩ | ⟨short, other, read⟩ :=
    limitOf?_cases word <;> rw [read]
  · simpa using fun short => absurd ⟨digits, number, writes, long⟩ short
  · simpa [short] using ⟨fun same => same ▸ limit, fun same => limit.unique same⟩
  · simpa using fun _ => other value

theorem limitOf?_eq_none :
    limitOf? word = .ok none ↔ ¬ Overlong word ∧ ∀ value, ¬ IsLimit word value := by
  obtain ⟨digits, number, writes, long, read⟩ | ⟨short, number, limit, read⟩ | ⟨short, other, read⟩ :=
    limitOf?_cases word <;> rw [read]
  · simpa using fun short => absurd ⟨digits, number, writes, long⟩ short
  · simpa [short] using ⟨number, limit⟩
  · simp [short, other]

end word

def IsFirst (kind : String → Prop) (words : List String) (word : String) : Prop :=
  kind word ∧ ∃ front behind, words = front ++ word :: behind ∧ ∀ earlier ∈ front, ¬ kind earlier

def EndsSearch (word : String) : Prop := Overlong word ∨ ∃ value, IsLimit word value

theorem IsFirst.mem {kind : String → Prop} {words : List String} {word : String}
    (first : IsFirst kind words word) : word ∈ words := by
  obtain ⟨-, front, behind, rfl, -⟩ := first
  simp

theorem IsFirst.unique {kind : String → Prop} {words : List String} {word other : String}
    (first : IsFirst kind words word) (same : IsFirst kind words other) : word = other := by
  classical
  have found {word : String} (first : IsFirst kind words word) :
      words.find? (decide <| kind ·) = some word := by
    rw [List.find?_eq_some_iff_append]
    simpa [IsFirst] using first
  exact Option.some.inj ((found first).symm.trans (found same))

section words
variable {words : List String}

theorem firstLimit?_insert {word : String} (none : limitOf? word = .ok none)
    (front behind : List String) : firstLimit? (front ++ word :: behind) = firstLimit? (front ++ behind) := by
  induction front with
  | nil => rw [List.nil_append, firstLimit?, none]; rfl
  | cons first rest ih => rw [List.cons_append, firstLimit?, ih]; rfl

theorem firstLimit?_of_endsSearch {word : String} (ends : EndsSearch word) (behind : List String) :
    firstLimit? (word :: behind) = limitOf? word := by
  rw [firstLimit?]
  cases told : limitOf? word with
  | error fault => rfl
  | ok found =>
    cases found with
    | none =>
      obtain ⟨short, other⟩ := limitOf?_eq_none.mp told
      exact absurd ends (not_or.mpr ⟨short, fun ⟨value, limit⟩ => other value limit⟩)
    | some value => rfl

theorem firstLimit?_cases (words : List String) :
    ((∀ word ∈ words, ¬ EndsSearch word) ∧ firstLimit? words = .ok none) ∨
    ∃ word, IsFirst EndsSearch words word ∧ firstLimit? words = limitOf? word := by
  induction words with
  | nil => exact .inl ⟨by simp, rfl⟩
  | cons first rest ih =>
    by_cases ends : EndsSearch first
    · exact .inr ⟨first, ⟨ends, [], rest, rfl, by simp⟩, firstLimit?_of_endsSearch ends rest⟩
    have idle : limitOf? first = .ok none := by
      rw [EndsSearch, not_or, not_exists] at ends
      exact limitOf?_eq_none.mpr ends
    -- A word that does not end the search is passed over, so the rest decides.
    have later : firstLimit? (first :: rest) = firstLimit? rest := firstLimit?_insert idle [] rest
    rw [later]
    rcases ih with ⟨others, none⟩ | ⟨word, ⟨told, front, behind, rfl, before⟩, same⟩
    · exact .inl ⟨List.forall_mem_cons.mpr ⟨ends, others⟩, none⟩
    · have ahead : ∀ earlier ∈ first :: front, ¬ EndsSearch earlier :=
        List.forall_mem_cons.mpr ⟨ends, before⟩
      exact .inr ⟨word, ⟨told, first :: front, behind, rfl, ahead⟩, same⟩

def AsksForDefaults (words : List String) : Prop :=
  words.length < 2 ∨ ∃ second value, words[1]? = some second ∧ IsLimit second value

/-- A number that is too long is come to: in second place, or where the search for a limit ends. -/
def Stumbles (words : List String) : Prop :=
  (∃ second, words[1]? = some second ∧ Overlong second) ∨
    ∃ word, IsFirst EndsSearch words word ∧ Overlong word

theorem wantsDefaults_eq_ok (readable : ∀ second, words[1]? = some second → ¬ Overlong second) :
    ∃ defaults, Request.wantsDefaults words = .ok defaults ∧
      (defaults = true ↔ AsksForDefaults words) := by
  match words with
  | [] | [_] => exact ⟨true, rfl, by simp [AsksForDefaults]⟩
  | first :: second :: rest =>
    rw [Request.wantsDefaults]
    obtain ⟨digits, value, writes, long, -⟩ | ⟨-, value, limit, read⟩ | ⟨-, other, read⟩ :=
      limitOf?_cases second
    · exact absurd ⟨digits, value, writes, long⟩ (readable second rfl)
    · rw [read]
      exact ⟨true, rfl, iff_of_true rfl (.inr ⟨second, value, rfl, limit⟩)⟩
    · rw [read]
      refine ⟨false, rfl, iff_of_false nofun ?_⟩
      rintro (few | ⟨_, value, ⟨⟩, limit⟩)
      · simp only [List.length_cons] at few
        omega
      · exact other value limit

theorem wantsDefaults_eq_error {second : String} {fault : Fault} (place : words[1]? = some second)
    (refused : limitOf? second = .error fault) : Request.wantsDefaults words = .error fault := by
  match words with
  | [] | [_] => cases place
  | first :: other :: rest =>
    cases place
    rw [Request.wantsDefaults, refused]
    rfl

theorem firstLimit?_eq_ok (readable : ∀ word, IsFirst EndsSearch words word → ¬ Overlong word) :
    ∃ limit, firstLimit? words = .ok limit ∧ ∀ value, limit = some value ↔
      ∃ word, IsFirst (fun word => ∃ number, IsLimit word number) words word ∧ IsLimit word value := by
  rcases firstLimit?_cases words with ⟨idle, none⟩ | ⟨word, first, same⟩
  · refine ⟨_, none, fun value => ⟨nofun, ?_⟩⟩
    rintro ⟨word, first, -⟩
    exact absurd (Or.inr first.1) (idle word first.mem)
  · have short := readable word first
    obtain ⟨value, limit⟩ := first.1.resolve_left short
    obtain ⟨-, front, behind, parts, before⟩ := first
    have plain : IsFirst (fun word => ∃ number, IsLimit word number) words word := by
      refine ⟨⟨value, limit⟩, front, behind, parts, fun earlier ahead number => ?_⟩
      exact before earlier ahead (.inr number)
    refine ⟨some value, same.trans (limitOf?_eq_some.mpr ⟨short, limit⟩), fun other => ⟨?_, ?_⟩⟩
    · rintro ⟨⟩
      exact ⟨word, plain, limit⟩
    · rintro ⟨again, first, told⟩
      exact congrArg some (limit.unique (first.unique plain ▸ told))

/-- What a request is to hold for the words that it is made of. -/
structure Answers (words : List String) (r : Request) : Prop where
  root : r.root = words.head?.getD "./"
  modes : ∀ mode, mode ∈ r.modes ↔ mode.name ∈ words ∨
    AsksForDefaults words ∧ mode ∈ [Mode.color, .num, .classes]
  limit : ∀ value, r.limit = some value ↔
    ∃ word, IsFirst (fun word => ∃ number, IsLimit word number) words word ∧ IsLimit word value
  help : r.showsHelp = true ↔ "help" ∈ words
  intro : r.showsIntro = true ↔ words.length < 2

theorem mem_modesIn (mode : Mode) (defaults : Bool) : mode ∈ Request.modesIn words defaults ↔
    mode.name ∈ words ∨ defaults = true ∧ mode ∈ [Mode.color, .num, .classes] := by
  simp [Request.modesIn, Mode.mem_all, Mode.defaults]

def settled (words : List String) (defaults : Bool) (limit : Option Int) : Request where
  root := words.headD Request.defaultRoot
  modes := Request.modesIn words defaults
  limit := limit
  showsHelp := words.contains Request.helpWord
  showsIntro := words.length < 2

theorem ofWords_eq (words : List String) : Request.ofWords words = (do
    let defaults ← Request.wantsDefaults words
    let limit ← firstLimit? words
    return settled words defaults limit) := rfl

theorem answers_of_not_stumbles (steady : ¬ Stumbles words) :
    ∃ request, Request.ofWords words = .ok request ∧ Answers words request := by
  obtain ⟨second, first⟩ := not_or.mp steady
  obtain ⟨defaults, wants, asked⟩ := wantsDefaults_eq_ok fun word place overlong =>
    second ⟨word, place, overlong⟩
  obtain ⟨limit, found, told⟩ := firstLimit?_eq_ok fun word ends overlong =>
    first ⟨word, ends, overlong⟩
  refine ⟨settled words defaults limit, ?_, ?_⟩
  · rw [ofWords_eq, wants, found]
    rfl
  · constructor
    case root => exact List.headD_eq_head?_getD
    case modes =>
      intro mode
      rw [settled, mem_modesIn, asked]
    case limit => exact told
    case help => simp [settled, Request.helpWord]
    case intro => simp [settled]

theorem fault_of_stumbles (stumbles : Stumbles words) :
    ∃ word ∈ words, ∃ digits value, Writes word digits value ∧ longestInteger < digits.length ∧
      Request.ofWords words = .error (.notAnInteger word (.tooLong digits.length)) := by
  by_cases second : ∃ second, words[1]? = some second ∧ Overlong second
  · obtain ⟨word, place, digits, value, writes, long⟩ := second
    have refused := writes.limitOf?_eq.trans (if_pos long)
    refine ⟨word, List.mem_of_getElem? place, digits, value, writes, long, ?_⟩
    rw [ofWords_eq, wantsDefaults_eq_error place refused]
    rfl
  · obtain ⟨word, first, digits, value, writes, long⟩ := stumbles.resolve_left second
    have refused := writes.limitOf?_eq.trans (if_pos long)
    obtain ⟨defaults, wants, -⟩ := wantsDefaults_eq_ok fun word place overlong =>
      second ⟨word, place, overlong⟩
    refine ⟨word, first.mem, digits, value, writes, long, ?_⟩
    rcases firstLimit?_cases words with ⟨idle, -⟩ | ⟨other, again, same⟩
    · exact absurd first.1 (idle word first.mem)
    · obtain rfl := first.unique again
      rw [ofWords_eq, wants, same, refused]
      rfl

/-- Any words ask for something, unless they come to a number that is too long. A word that is not too
    long gives the limit that it writes, and if it writes none it gives none. -/
theorem words_ask_or_stumble (words : List String) :
    ((¬ Stumbles words ∧ ∃ request, Request.ofWords words = .ok request) ∨
      Stumbles words ∧ ∃ word ∈ words, ∃ digits value, Writes word digits value ∧
        longestInteger < digits.length ∧
        Request.ofWords words = .error (.notAnInteger word (.tooLong digits.length))) ∧
    ∀ word, (Overlong word ∧ ∃ fault, limitOf? word = .error fault) ∨
      ¬ Overlong word ∧ ∃ found, limitOf? word = .ok found ∧
        ∀ value, found = some value ↔ IsLimit word value := by
  refine ⟨?_, fun word => ?_⟩
  · by_cases stumbles : Stumbles words
    · exact .inr ⟨stumbles, fault_of_stumbles stumbles⟩
    · obtain ⟨request, made, -⟩ := answers_of_not_stumbles stumbles
      exact .inl ⟨stumbles, request, made⟩
  · obtain ⟨digits, value, writes, long, read⟩ | ⟨short, value, limit, read⟩ | ⟨short, other, read⟩ :=
      limitOf?_cases word
    · exact .inl ⟨⟨digits, value, writes, long⟩, _, read⟩
    · refine .inr ⟨short, some value, read, fun number => ⟨?_, fun same => ?_⟩⟩
      · rintro ⟨⟩
        exact limit
      · exact congrArg some (limit.unique same)
    · exact .inr ⟨short, none, read, fun value => ⟨nofun, fun limit => absurd limit (other value)⟩⟩

theorem not_stumbles_of_short (short : ∀ word ∈ words, ¬ Overlong word) : ¬ Stumbles words := by
  rintro (⟨second, place, overlong⟩ | ⟨word, first, overlong⟩)
  · exact short second (List.mem_of_getElem? place) overlong
  · exact short word first.mem overlong

end words

def nines (n : Nat) : String := String.ofList (List.replicate (n + 1) '9')

theorem writes_nines (n : Nat) :
    Writes (nines n) (List.replicate (n + 1) '9')
      (Nat.ofDigitChars 10 (List.replicate (n + 1) '9') 0) := by
  refine .unsigned ⟨by simp, ?_⟩ String.toList_ofList
  intro c member
  rw [List.eq_of_mem_replicate member]
  rfl

theorem ofWords_nines : Request.ofWords ["lib", "num", nines longestInteger] =
    .error (.notAnInteger (nines longestInteger) (.tooLong 4301)) := by
  have long : longestInteger < (List.replicate (longestInteger + 1) '9').length := by
    rw [List.length_replicate]
    exact Nat.lt_succ_self _
  have refused := (writes_nines longestInteger).limitOf?_eq
  rw [if_pos long, List.length_replicate] at refused
  have ends : EndsSearch (nines longestInteger) := .inl ⟨_, _, writes_nines longestInteger, long⟩
  have found : firstLimit? ["lib", "num", nines longestInteger] = limitOf? (nines longestInteger) := by
    rw [← firstLimit?_of_endsSearch ends []]
    exact (firstLimit?_insert rfl [] _).trans (firstLimit?_insert rfl [] _)
  rw [ofWords_eq, found, refused]
  rfl

def IsKeyword (word : String) : Prop := word = "help" ∨ ∃ mode : Mode, word = mode.name

section rest
variable {first second word : String} {rest others front behind : List String} {request : Request}

theorem settled_congr (same : ∀ key, IsKeyword key → (key ∈ rest ↔ key ∈ others)) (defaults : Bool)
    (limit : Option Int) :
    settled (first :: second :: rest) defaults limit =
      settled (first :: second :: others) defaults limit := by
  have members (key : String) (keyword : IsKeyword key) :
      (first :: second :: rest).contains key = (first :: second :: others).contains key := by
    rw [Bool.eq_iff_iff]
    simp [same key keyword]
  have modes : Request.modesIn (first :: second :: rest) defaults =
      Request.modesIn (first :: second :: others) defaults :=
    List.filter_congr fun mode _ => by rw [members mode.name (.inr ⟨mode, rfl⟩)]
  have count (words : List String) : ¬ (first :: second :: words).length < 2 := by simp
  rw [settled, settled, modes, members Request.helpWord (.inl rfl)]
  simp only [count]
  rfl

theorem ofWords_insert (none : limitOf? word = .ok none) (plain : ¬ IsKeyword word) :
    Request.ofWords (first :: second :: (front ++ word :: behind)) =
      Request.ofWords (first :: second :: (front ++ behind)) := by
  have search : firstLimit? (first :: second :: (front ++ word :: behind)) =
      firstLimit? (first :: second :: (front ++ behind)) :=
    firstLimit?_insert none (first :: second :: front) behind
  have same (key : String) (keyword : IsKeyword key) :
      key ∈ front ++ word :: behind ↔ key ∈ front ++ behind := by
    have apart : key ≠ word := by
      rintro rfl
      exact plain keyword
    simp [apart]
  have settle : settled (first :: second :: (front ++ word :: behind)) =
      settled (first :: second :: (front ++ behind)) := by
    funext defaults limit
    exact settled_congr same defaults limit
  rw [ofWords_eq, ofWords_eq, search, settle]
  rfl

theorem ofWords_perm (same : rest.Perm others) {limit : Option Int}
    (found : firstLimit? (first :: second :: others) = .ok limit)
    (made : Request.ofWords (first :: second :: rest) = .ok request) :
    Request.ofWords (first :: second :: others) = .ok { request with limit } := by
  rw [ofWords_eq] at made
  obtain ⟨defaults, wants, made⟩ := bind_eq_ok made
  obtain ⟨before, -, made⟩ := bind_eq_ok made
  cases made
  have settle : settled (first :: second :: rest) defaults limit =
      settled (first :: second :: others) defaults limit :=
    settled_congr (fun _ _ => same.mem_iff) defaults limit
  -- The second word alone tells whether the default modes are asked for, and it stays in its place.
  have wants' : Request.wantsDefaults (first :: second :: others) = .ok defaults := wants
  rw [ofWords_eq, wants', found]
  exact congrArg Except.ok settle.symm

end rest

/-- Words that write no number that is too long ask for what they answer to. From the third word on
    their order bears on the limit alone, and a word that is no keyword and no limit asks for nothing. -/
theorem words_ask_by_kind {words : List String} (short : ∀ word ∈ words, ¬ Overlong word) :
    ∃ request, Request.ofWords words = .ok request ∧ Answers words request ∧
      ∀ first second rest, words = first :: second :: rest →
        (∀ others, rest.Perm others → ∃ limit,
          Request.ofWords (first :: second :: others) = .ok { request with limit }) ∧
        ∀ front behind word, rest = front ++ behind → ¬ IsKeyword word →
          (∀ value, ¬ IsLimit word value) → ¬ Overlong word →
          Request.ofWords (first :: second :: (front ++ word :: behind)) = .ok request := by
  obtain ⟨request, made, answers⟩ := answers_of_not_stumbles (not_stumbles_of_short short)
  refine ⟨request, made, answers, ?_⟩
  rintro first second rest rfl
  constructor
  · intro others same
    have readable (word : String) (ends : IsFirst EndsSearch (first :: second :: others) word) :
        ¬ Overlong word := by
      refine short word ?_
      have member := ends.mem
      simpa [same.mem_iff] using member
    obtain ⟨limit, found, -⟩ := firstLimit?_eq_ok readable
    exact ⟨limit, ofWords_perm same found made⟩
  · rintro front behind word rfl plain unlimited fits
    rw [ofWords_insert (limitOf?_eq_none.mpr ⟨fits, unlimited⟩) plain, made]

def numberedRoot : List String := ["007", "+3", "contrast", "help"]

theorem words_ask_by_kind_numberedRoot :
    (∀ word ∈ numberedRoot, ¬ Overlong word) ∧
      ∃ request, Request.ofWords numberedRoot = .ok request ∧ Answers numberedRoot request ∧
        request.limit = some 7 ∧
        (∃ limit, Request.ofWords ["007", "+3", "help", "contrast"] = .ok { request with limit }) ∧
        Request.ofWords ["007", "+3", "-1x", "contrast", "help"] = .ok request := by
  have short : ∀ word ∈ numberedRoot, ¬ Overlong word := by
    intro word member
    refine not_overlong_of_length_le ?_
    revert word
    decide
  obtain ⟨request, made, answers, later⟩ := words_ask_by_kind short
  have run : IsRun ['0', '0', '7'] := ⟨by decide, List.all_eq_true.mp rfl⟩
  have seven : IsLimit "007" 7 := ⟨⟨_, .unsigned run rfl⟩, by decide, by decide⟩
  have ends : limitOf? "-1x" = .ok none := rfl
  obtain ⟨fits, unlimited⟩ := limitOf?_eq_none.mp ends
  refine ⟨short, request, made, answers, ?_, ?_, ?_⟩
  · exact (answers.limit 7).mpr ⟨"007", ⟨⟨7, seven⟩, [], _, rfl, by simp⟩, seven⟩
  · exact (later _ _ _ rfl).1 ["help", "contrast"] (by decide)
  · refine (later _ _ _ rfl).2 [] ["contrast", "help"] "-1x" rfl ?_ unlimited fits
    rintro (help | ⟨mode, same⟩)
    · exact absurd help (by decide)
    · cases mode <;> exact absurd same (by decide)

end SourceCensus.Command
