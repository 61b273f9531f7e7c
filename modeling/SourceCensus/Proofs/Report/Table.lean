import Mathlib
import SourceCensus.Proofs.Json.Number
import SourceCensus.Proofs.Report.Grid
import SourceCensus.Report.Table

/-! Reports as tables, on a screen that is wide enough for each of them. Every entry has a line of its
   own, with its place, its key and its count; a key is shown as it is, whatever marks it seems to
   have. Ahead of all rankings stands the contrast table. -/
namespace SourceCensus.Report
open Text Decimal Grid Command

theorem of_printable {c : Char} (low : ' ' ≤ c) (high : c ≤ '~') :
    charBreadth c = 1 ∧ movesCursor c = false ∧ (isBlank c → c = ' ') := by
  have known : ∀ code < 127, 32 ≤ code → charBreadth (Char.ofNat code) = 1 ∧
      movesCursor (Char.ofNat code) = false ∧ (isBlank (Char.ofNat code) → Char.ofNat code = ' ') := by
    decide
  simpa using known c.toNat (Nat.lt_succ_of_le high) low

structure Solid (text : List Char) : Prop where
  nonempty : text ≠ []
  ink : ∀ c ∈ text, ' ' < c ∧ c ≤ '~' ∧ c ≠ '['

namespace Solid
variable {text : List Char} (solid : Solid text)
include solid

theorem narrow : Narrow text := by
  intro c member
  obtain ⟨low, high, -⟩ := solid.ink c member
  exact (of_printable (le_of_lt low) high).1

theorem unblank : ∀ c ∈ text, isBlank c = false := by
  intro c member
  obtain ⟨low, high, -⟩ := solid.ink c member
  by_contra blank
  exact absurd ((of_printable (le_of_lt low) high).2.2 (by simpa using blank)) (ne_of_gt low)

theorem visible_eq : visible text = text := by
  have unmarked : '[' ∉ text := fun member => (solid.ink _ member).2.2 rfl
  rw [visible, if_neg (by simpa using unmarked)]

end Solid

theorem ink_of_mark {c : Char} (mark : Numeral.IsMark c) : ' ' < c ∧ c ≤ '~' ∧ c ≠ '[' := by
  have known : ∀ code < 128, Numeral.IsMark (Char.ofNat code) →
      ' ' < Char.ofNat code ∧ Char.ofNat code ≤ '~' ∧ Char.ofNat code ≠ '[' := by decide
  simpa using known c.toNat mark.toNat_lt (by simpa using mark)

theorem solid_toString (value : Int) : Solid (toString value).toList := by
  rw [← Json.text_integer]
  constructor
  · obtain ⟨c, more, starts, -⟩ := (Json.integer value).text_starts
    rw [starts]
    exact List.cons_ne_nil c more
  · exact fun c member => ink_of_mark ((Json.integer value).mark_of_mem_text member)

theorem solid_index (index : Nat) : Solid (toString index).toList := solid_toString index

theorem solid_signed {negative : Bool} {text : List Char} (solid : Solid text) :
    Solid (signed negative text) := by
  cases negative with
  | false => exact solid
  | true => exact ⟨List.cons_ne_nil _ _, List.forall_mem_cons.mpr ⟨by decide, solid.ink⟩⟩

theorem solid_pointed (places units : Nat) : Solid (pointed places units) := by
  have digits : Solid (padLeft (places + 1) '0' (Nat.toDigits 10 units)) := by
    refine ⟨List.append_ne_nil_of_right_ne_nil _ Nat.toDigits_ne_nil, ?_⟩
    intro c member
    rcases List.mem_append.mp member with zero | digit
    · rw [List.eq_of_mem_replicate zero]
      decide
    · exact ink_of_mark (.inl (isDigit_of_mem_toDigits digit))
  unfold pointed
  dsimp only
  split
  · exact digits
  · refine ⟨List.append_ne_nil_of_right_ne_nil _ (List.cons_ne_nil _ _), ?_⟩
    intro c member
    rcases List.mem_append.mp member with whole | fraction
    · exact digits.ink c (List.mem_of_mem_take whole)
    · rcases List.mem_cons.mp fraction with rfl | later
      · decide
      · exact digits.ink c (List.mem_of_mem_drop later)

theorem solid_fixedChars (places : Nat) (x : Float) : Solid (fixedChars places x) := by
  unfold fixedChars
  split
  · exact solid_signed (solid_pointed _ _)
  · exact solid_signed ⟨by decide, by simp⟩
  · exact ⟨by decide, by simp⟩

/-- What a label says: itself, or a hyphen if it is none. -/
def shownLabel (label : String) : List Char :=
  if label ∈ ["fail", "AA+", "AA", "AAA"] then label.toList else ['-']

theorem visible_markedLabel (label : String) :
    visible (markedLabel label).toList = shownLabel label := by
  by_cases known : label ∈ ["fail", "AA+", "AA", "AAA"]
  · simp only [List.mem_cons, List.not_mem_nil, or_false] at known
    rcases known with rfl | rfl | rfl | rfl <;> cbv
  · have hyphen : markedLabel label = "[dim]-[/dim]" := by
      simp only [List.mem_cons, List.not_mem_nil, or_false, not_or] at known
      simp [markedLabel, known]
    rw [shownLabel, if_neg known, hyphen]
    cbv

theorem solid_shownLabel (label : String) : Solid (shownLabel label) := by
  have known : ∀ text ∈ ["fail", "AA+", "AA", "AAA", "-"],
      text.toList ≠ [] ∧
        ∀ c ∈ text.toList, ' ' < c ∧ c ≤ '~' ∧ c ≠ '[' := by
    simp
  unfold shownLabel
  split
  · obtain ⟨nonempty, ink⟩ := known label (List.mem_append_left ["-"] ‹_›)
    exact ⟨nonempty, ink⟩
  · obtain ⟨nonempty, ink⟩ := known "-" (by decide)
    exact ⟨nonempty, ink⟩

def IsPlain (text : String) : Prop := ∀ c ∈ text.toList, ' ' ≤ c ∧ c ≤ '~'

theorem IsPlain.narrow {text : String} (plain : IsPlain text) : Narrow text.toList :=
  fun c member => (of_printable (plain c member).1 (plain c member).2).1

theorem IsPlain.steady_eq {text : String} (plain : IsPlain text) :
    steady text.toList = text.toList :=
  List.filter_eq_self.mpr fun c member => by
    simp [(of_printable (plain c member).1 (plain c member).2).2.1]

def IsPlainKey : Key → Prop
  | .text value => IsPlain value
  | .number _ => True

theorem IsPlainKey.shown {key : Key} (plain : IsPlainKey key) : IsPlain key.shown := by
  cases key with
  | text value => exact plain
  | number value =>
    intro c member
    obtain ⟨low, high, -⟩ := (solid_toString value).ink c member
    exact ⟨le_of_lt low, high⟩

theorem shown_entryCells (index : Nat) {entry : Entry} (plain : IsPlainKey entry.1) :
    (entryCells index entry).map (·.shown) =
      [(toString (index + 1)).toList, entry.1.shown.toList, (toString entry.2).toList] := by
  simp only [entryCells, List.map_cons, List.map_nil, Content.shown, plain.shown.steady_eq,
    (solid_index (index + 1)).visible_eq, (solid_toString entry.2).visible_eq]

theorem shown_rowCells {row : Color.Row} (plain : IsPlain row.color) :
    (rowCells row).map (·.shown) =
      [[' ', ' ', ' '] ++ row.color.toList, (toString row.count).toList,
        fixedChars 2 row.blackRatio, shownLabel row.blackLabel,
        fixedChars 2 row.whiteRatio, shownLabel row.whiteLabel] := by
  have ratio (x : Float) : visible (fixed 2 x).toList = fixedChars 2 x := by
    rw [fixed, String.toList_ofList, (solid_fixedChars 2 x).visible_eq]
  have color : steady ("   " ++ row.color).toList = [' ', ' ', ' '] ++ row.color.toList := by
    rw [String.toList_append, steady, List.filter_append, ← steady, ← steady, plain.steady_eq]
    rfl
  simp only [rowCells, List.map_cons, List.map_nil, Content.shown, color,
    (solid_toString row.count).visible_eq, ratio, visible_markedLabel]

theorem headers_rankingGrid (mode : Mode) (entries : List Entry) :
    (rankingGrid mode entries).columns.map (·.header) =
      [['#'], (keyHeader mode).toList, (countHeader mode).toList] := by
  cases mode <;> rfl

theorem headers_contrastGrid (rows : List Color.Row) :
    (contrastGrid rows).columns.map (·.header) =
      ["Color".toList, "Uses".toList, "▒ Black".toList, [], "▒ White".toList, []] := by
  have black : visible "[black on white]▒[/black on white] Black".toList = "▒ Black".toList := by
    cbv
  have white : visible "[white on black]▒[/white on black] White".toList = "▒ White".toList := by
    cbv
  simp only [contrastGrid, List.map_cons, List.map_nil, headed, black, white]
  rfl

theorem narrow_title (mode : Mode) : Narrow (visible (title mode).toList) := by
  cases mode <;> decide +kernel

theorem regular_rankingGrid (mode : Mode) {entries : List Entry}
    (plain : ∀ entry ∈ entries, IsPlainKey entry.1) : (rankingGrid mode entries).Regular where
  columned := List.cons_ne_nil _ _
  shaped := by
    intro row listed
    obtain ⟨index, _, rfl⟩ := List.mem_mapIdx.mp listed
    rfl
  title := narrow_title mode
  headers := by
    have all : ∀ header ∈ (rankingGrid mode entries).columns.map (·.header), Narrow header := by
      rw [headers_rankingGrid]
      cases mode <;> decide +kernel
    exact fun column member => all _ (List.mem_map_of_mem member)
  cells := by
    intro row listed cell member
    obtain ⟨index, inside, rfl⟩ := List.mem_mapIdx.mp listed
    rw [shown_entryCells _ (plain _ (List.getElem_mem inside))] at member
    simp only [List.mem_cons, List.not_mem_nil, or_false] at member
    rcases member with rfl | rfl | rfl
    · exact (solid_index _).narrow
    · exact (plain _ (List.getElem_mem inside)).shown.narrow
    · exact (solid_toString _).narrow
  visible := by
    have all : ∀ header ∈ (rankingGrid mode entries).columns.map (·.header), header ≠ [] := by
      rw [headers_rankingGrid]
      cases mode <;> decide
    intro k inside
    exact ⟨_, header_mem_texts inside, all _ (List.mem_map_of_mem (List.getElem_mem inside))⟩

theorem regular_contrastGrid {rows : List Color.Row} (some : rows ≠ [])
    (plain : ∀ row ∈ rows, IsPlain row.color) : (contrastGrid rows).Regular where
  columned := List.cons_ne_nil _ _
  shaped := by
    intro cells listed
    obtain ⟨row, _, rfl⟩ := List.mem_map.mp listed
    rfl
  title := narrow_title .contrast
  headers := by
    have all : ∀ header ∈ (contrastGrid rows).columns.map (·.header), Narrow header := by
      rw [headers_contrastGrid]
      decide +kernel
    exact fun column member => all _ (List.mem_map_of_mem member)
  cells := by
    intro cells listed cell member
    obtain ⟨row, given, rfl⟩ := List.mem_map.mp listed
    rw [shown_rowCells (plain row given)] at member
    simp only [List.mem_cons, List.not_mem_nil, or_false] at member
    rcases member with rfl | rfl | rfl | rfl | rfl | rfl
    · exact (Narrow.spaces 3).append (plain row given).narrow
    · exact (solid_toString _).narrow
    · exact (solid_fixedChars _ _).narrow
    · exact (solid_shownLabel _).narrow
    · exact (solid_fixedChars _ _).narrow
    · exact (solid_shownLabel _).narrow
  visible := by
    -- Two headers are empty, so it takes a row for every column to have something to show.
    obtain ⟨row, rest, rfl⟩ := List.exists_cons_of_ne_nil some
    have all : ∀ cell ∈ (rowCells row).map (·.shown), cell ≠ [] := by
      rw [shown_rowCells (plain row List.mem_cons_self)]
      simp only [List.forall_mem_cons]
      exact ⟨List.cons_ne_nil _ _, (solid_toString _).nonempty, (solid_fixedChars _ _).nonempty,
        (solid_shownLabel _).nonempty, (solid_fixedChars _ _).nonempty,
        (solid_shownLabel _).nonempty, List.forall_mem_nil _⟩
    have first : (rowCells row).map (·.shown) ∈ (contrastGrid (row :: rest)).rows :=
      List.mem_cons_self
    intro k inside
    exact ⟨_, cell_mem_texts first inside, all _ (List.getElem_mem _)⟩

/-- A line that shows an entry in its place of the ranking. -/
def ShowsEntry (place : Nat) (entry : Entry) (line : List Char) : Prop :=
  ∃ a b c, line = ruled '│' '│' '│' [
    padded a (toString place).toList 1,
    padded 1 entry.1.shown.toList b,
    padded c (toString entry.2).toList 1]

/-- A line that shows a contrast row, with a patch of the color before its key. -/
def ShowsRow (row : Color.Row) (line : List Char) : Prop :=
  ∃ a b c d e f, line = ruled '│' '│' '│' [
    padded 1 ([' ', ' ', ' '] ++ row.color.toList) a,
    padded b (toString row.count).toList 1,
    padded c (fixedChars 2 row.blackRatio) 1,
    padded 1 (shownLabel row.blackLabel) d,
    padded e (fixedChars 2 row.whiteRatio) 1,
    padded 1 (shownLabel row.whiteLabel) f]

theorem shows_entry {mode : Mode} {entries : List Entry} {index : Nat} {entry : Entry}
    (plain : IsPlainKey entry.1)
    (fits : List.Forall₂ Fits (rankingGrid mode entries).naturalWidths
      ((entryCells index entry).map (·.shown))) :
    ShowsEntry (index + 1) entry
      ((rankingGrid mode entries).rowLine '│' ((entryCells index entry).map (·.shown))) := by
  rw [rowLine]
  rw [shown_entryCells index plain] at fits ⊢
  generalize (rankingGrid mode entries).naturalWidths = widths at fits ⊢
  obtain _ | ⟨place, _ | ⟨key, _ | ⟨count, _ | _⟩⟩⟩ := fits
  simp only [rankingGrid, headed]
  rw [cellsAt_right place (solid_index _).unblank, cellsAt_left key,
    cellsAt_right count (solid_toString _).unblank]
  exact ⟨_, _, _, rfl⟩

theorem shows_row {rows : List Color.Row} {row : Color.Row} (plain : IsPlain row.color)
    (fits : List.Forall₂ Fits (contrastGrid rows).naturalWidths ((rowCells row).map (·.shown))) :
    ShowsRow row ((contrastGrid rows).rowLine '│' ((rowCells row).map (·.shown))) := by
  rw [rowLine]
  rw [shown_rowCells plain] at fits ⊢
  generalize (contrastGrid rows).naturalWidths = widths at fits ⊢
  obtain _ | ⟨color, _ | ⟨count, _ | ⟨black, _ | ⟨onBlack, _ | ⟨white, _ | ⟨onWhite, _ | _⟩⟩⟩⟩⟩⟩ :=
    fits
  simp only [contrastGrid, headed]
  rw [cellsAt_left color, cellsAt_right count (solid_toString _).unblank,
    cellsAt_right black (solid_fixedChars _ _).unblank, cellsAt_left onBlack,
    cellsAt_right white (solid_fixedChars _ _).unblank, cellsAt_left onWhite]
  exact ⟨_, _, _, _, _, _, rfl⟩

theorem ShowsRow.color_infix {row : Color.Row} {line : List Char} (shows : ShowsRow row line) :
    row.color.toList <:+: line := by
  obtain ⟨a, b, c, d, e, f, rfl⟩ := shows
  have patched : row.color.toList <:+: [' ', ' ', ' '] ++ row.color.toList :=
    (List.suffix_append _ _).isInfix
  exact (patched.trans (infix_padded _ _ _)).trans (infix_ruled List.mem_cons_self)

structure ShowsRanking (entries : List Entry) (p : Picture) : Prop where
  boxed : p.Boxed
  complete : p.body.length = entries.length
  inOrder : ∀ k entry, entries[k]? = some entry →
    ∃ line, p.body[k]? = some line ∧ ShowsEntry (k + 1) entry line

structure ShowsContrast (rows : List Color.Row) (p : Picture) : Prop where
  boxed : p.Boxed
  inOrder : List.Forall₂ (fun row line => ShowsRow row line ∧ row.color.toList <:+: line)
    rows p.body

theorem shows_ranking (mode : Mode) {entries : List Entry}
    (plain : ∀ entry ∈ entries, IsPlainKey entry.1) :
    ShowsRanking entries (rankingGrid mode entries).whole where
  boxed := (regular_rankingGrid mode plain).boxed_whole
  complete := by simp [whole, rankingGrid]
  inOrder := by
    intro k entry found
    have regular := regular_rankingGrid mode plain
    have listed : (rankingGrid mode entries).rows[k]? =
        some ((entryCells k entry).map (·.shown)) := by
      simp [rankingGrid, found]
    have plainKey := plain entry (List.mem_of_getElem? found)
    refine ⟨_, ?_, shows_entry plainKey (regular.row_fits (List.mem_of_getElem? listed))⟩
    rw [whole, List.getElem?_map, listed]
    rfl

theorem shows_contrast {rows : List Color.Row} (some : rows ≠ [])
    (plain : ∀ row ∈ rows, IsPlain row.color) :
    ShowsContrast rows (contrastGrid rows).whole where
  boxed := (regular_contrastGrid some plain).boxed_whole
  inOrder := by
    have regular := regular_contrastGrid some plain
    have lines : (contrastGrid rows).whole.body =
        rows.map fun row => (contrastGrid rows).rowLine '│' ((rowCells row).map (·.shown)) := by
      simp [whole, contrastGrid, Function.comp_def]
    rw [lines, List.forall₂_map_right_iff, List.forall₂_same]
    intro row given
    have shows := shows_row (plain row given) (regular.row_fits (List.mem_map_of_mem given))
    exact ⟨shows, shows.color_infix⟩

/-- The text of a report is its contrast table and then its rankings, and on a screen as wide as a
    table the lines of that table show all there is to show. -/
theorem tables_show_every_entry (r : Report) (screen : Nat) :
    (r.tableText screen).toList =
      (r.contrastLines screen ++ (r.sectionLines screen .color ++ r.sectionLines screen .num ++
        r.sectionLines screen .classes) ++ r.skippedLines screen).flatMap (· ++ ['\n']) ∧
    (r.has .contrast → r.contrast ≠ [] → (∀ row ∈ r.contrast, IsPlain row.color) →
      (contrastGrid r.contrast).naturalWidth ≤ screen →
      ∃ p, r.contrastLines screen = p.lines ++ [[]] ∧ ShowsContrast r.contrast p) ∧
    ∀ mode ∈ sections, r.has mode → r.entries mode ≠ [] →
      (∀ entry ∈ r.entries mode, IsPlainKey entry.1) →
      (rankingGrid mode (r.entries mode)).naturalWidth ≤ screen →
      ∃ p, r.sectionLines screen mode = p.lines ++ [[]] ∧ ShowsRanking (r.entries mode) p := by
  refine ⟨?_, ?_, ?_⟩
  · simp only [tableText, String.toList_ofList, tableLines, sections, List.flatMap_cons,
      List.flatMap_nil, List.append_nil, List.append_assoc]
  · intro asked some plain wide
    refine ⟨_, ?_, shows_contrast some plain⟩
    rw [contrastLines, if_pos asked, if_neg (by simpa using some),
      (regular_contrastGrid some plain).draw_eq_whole wide]
  · intro mode _ asked some plain wide
    refine ⟨_, ?_, shows_ranking mode plain⟩
    rw [sectionLines, if_pos asked, if_neg (by simpa using some),
      (regular_rankingGrid mode plain).draw_eq_whole wide]

def markLike : Report :=
  { blank "." ["color", "contrast"] .none with
    colors := [(.text "[bold]", 12), (.text "[/x]", 3), (.text "\\", 2), (.text "", 1)]
    contrast := [⟨"[/a]ff7f0a", 12, 8.5, "AAA", 2.5, "fail"⟩] }

theorem tables_show_every_entry_markLike :
    (∃ p, markLike.contrastLines 60 = p.lines ++ [[]] ∧ ShowsContrast markLike.contrast p) ∧
    ∃ p, markLike.sectionLines 60 .color = p.lines ++ [[]] ∧ ShowsRanking markLike.colors p := by
  obtain ⟨-, contrast, rankings⟩ := tables_show_every_entry markLike 60
  have plainColors : ∀ row ∈ markLike.contrast, IsPlain row.color := by
    simp [markLike, IsPlain]
  have plainKeys : ∀ entry ∈ markLike.colors, IsPlainKey entry.1 := by
    simp [markLike, IsPlainKey, IsPlain]
  exact ⟨contrast (by decide) (List.cons_ne_nil _ _) plainColors (by decide +kernel),
    rankings .color (by decide) (by decide) (List.cons_ne_nil _ _) plainKeys (by decide +kernel)⟩

end SourceCensus.Report
