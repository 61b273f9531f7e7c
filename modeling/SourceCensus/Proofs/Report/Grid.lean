import Mathlib
import SourceCensus.Report.Grid

/-! Grids on a screen that is wide enough for them. No column is narrowed, no text is broken or cut, and
   so each row takes one line, in which every cell stands whole between its padding. -/
namespace SourceCensus.Grid
open Text

/-- A text whose characters take one column each. -/
def Narrow (text : List Char) : Prop := ∀ c ∈ text, charBreadth c = 1

instance (text : List Char) : Decidable (Narrow text) :=
  decidable_of_iff (text.all (charBreadth · = 1) = true) (by simp [Narrow])

theorem breadth_append (first second : List Char) :
    breadth (first ++ second) = breadth first + breadth second := by
  induction first with
  | nil => exact (Nat.zero_add _).symm
  | cons c rest ih => rw [List.cons_append, breadth, breadth, ih, Nat.add_assoc]

theorem breadth_le_of_sublist {part text : List Char} (within : part.Sublist text) :
    breadth part ≤ breadth text := by
  induction within with
  | slnil => exact Nat.le_refl _
  | cons c _ ih => exact ih.trans (Nat.le_add_left _ _)
  | cons_cons c _ ih => exact Nat.add_le_add_left ih _

theorem endsMeasured_of_breadth {c : Char} (narrow : charBreadth c = 1) : endsMeasured c = false := by
  have flat : ∀ code ∈ [0x0a, 0x0b, 0x0c, 0x0d, 0x1c, 0x1d, 0x1e, 0x85, 0x2028, 0x2029],
      charBreadth (Char.ofNat code) = 0 := by decide +kernel
  by_contra ends
  have listed := List.contains_iff_mem.mp (Bool.not_eq_false _ ▸ ends)
  have none := flat _ listed
  rw [Char.ofNat_toNat, narrow] at none
  cases none

theorem linesBy_of_line {ends : Char → Bool} {text : List Char} (line : ∀ c ∈ text, ends c = false) :
    linesBy ends text = [text] := by
  induction text with
  | nil => rfl
  | cons c rest ih =>
    obtain ⟨inside, later⟩ := List.forall_mem_cons.mp line
    have done := ih later
    unfold linesBy at done ⊢
    rw [List.foldr_cons, done, inside]
    rfl

theorem sublist_dropBlankEnd (text : List Char) : (dropBlankEnd text).Sublist text := by
  have shorter := (List.dropWhile_sublist (l := text.reverse) isBlank).reverse
  rwa [List.reverse_reverse] at shorter

namespace Narrow
variable {text part first second : List Char}

theorem mono (narrow : Narrow text) (within : part ⊆ text) : Narrow part :=
  fun c member => narrow c (within member)

theorem append (head : Narrow first) (tail : Narrow second) : Narrow (first ++ second) :=
  List.forall_mem_append.mpr ⟨head, tail⟩

theorem cons {c : Char} (head : charBreadth c = 1) (tail : Narrow text) : Narrow (c :: text) :=
  List.forall_mem_cons.mpr ⟨head, tail⟩

theorem spaces (count : Nat) : Narrow (List.replicate count ' ') := by
  intro c member
  rw [List.eq_of_mem_replicate member]
  rfl

section
variable (narrow : Narrow text)
include narrow

theorem breadth_eq : breadth text = text.length := by
  induction text with
  | nil => rfl
  | cons c rest ih =>
    obtain ⟨first, later⟩ := List.forall_mem_cons.mp narrow
    rw [breadth, first, ih later, List.length_cons, Nat.add_comm]

theorem line : '\n' ∉ text := fun member => absurd (narrow _ member) (by decide)

theorem lines_eq : lines text = [text] :=
  linesBy_of_line fun c member => by
    rw [beq_eq_false_iff_ne]
    rintro rfl
    exact narrow.line member

theorem measured_eq : linesBy endsMeasured text = [text] :=
  linesBy_of_line fun c member => endsMeasured_of_breadth (narrow c member)

theorem fillTabs_eq (column : Nat) : fillTabs column text = text := by
  induction text generalizing column with
  | nil => rfl
  | cons c rest ih =>
    obtain ⟨first, later⟩ := List.forall_mem_cons.mp narrow
    have shown : c ≠ '\t' := by
      rintro rfl
      exact absurd first (by decide)
    rw [fillTabs, if_neg shown, ih later]

theorem crop_eq (width : Nat) : crop width text = text.take width := by
  rw [crop, if_pos (by simpa [Narrow] using narrow)]

end

end Narrow

theorem dropBlankEnd_of_solid {text : List Char} (solid : ∀ c ∈ text, isBlank c = false) :
    dropBlankEnd text = text := by
  have kept : text.reverse.dropWhile isBlank = text.reverse := by
    cases reversed : text.reverse with
    | nil => rfl
    | cons c rest =>
      have member : c ∈ text := by
        rw [← List.mem_reverse, reversed]
        exact List.mem_cons_self
      exact List.dropWhile_cons_of_neg (by simp [solid c member])
  rw [dropBlankEnd, kept, List.reverse_reverse]

theorem append_of_wordAt? {text word rest : List Char} (found : wordAt? text = some (word, rest)) :
    word ++ rest = text := by
  unfold wordAt? at found
  dsimp only at found
  split at found
  · cases found
  · obtain ⟨rfl, rfl⟩ := Prod.mk.inj (Option.some.inj found)
    set lead := text.takeWhile isBlank with lead_eq
    set body := (text.drop lead.length).takeWhile (!isBlank ·) with body_eq
    have first : lead ++ text.drop lead.length = text :=
      List.prefix_iff_eq_append.mp (List.takeWhile_prefix _)
    have second : body ++ (text.drop lead.length).drop body.length = text.drop lead.length :=
      List.prefix_iff_eq_append.mp (List.takeWhile_prefix _)
    rw [List.append_assoc, List.takeWhile_append_dropWhile, List.append_assoc, ← List.drop_drop,
      second, first]

theorem sum_wordsOf_le (fuel : Nat) (text : List Char) :
    ((wordsOf fuel text).map breadth).sum ≤ breadth text := by
  induction fuel generalizing text with
  | zero => exact Nat.zero_le _
  | succ fuel ih =>
    rw [wordsOf]
    cases found : wordAt? text with
    | none => exact Nat.zero_le _
    | some taken =>
      obtain ⟨word, rest⟩ := taken
      rw [← append_of_wordAt? found, breadth_append]
      simpa using ih rest

theorem breaks_of_fits {overflow : Overflow} {width column place : Nat} {words : List (List Char)}
    (fits : column + (words.map breadth).sum ≤ width) :
    breaks overflow width column place words = [] := by
  induction words generalizing column place with
  | nil => rfl
  | cons word rest ih =>
    simp only [List.map_cons, List.sum_cons] at fits
    have short := breadth_le_of_sublist (sublist_dropBlankEnd word)
    have room : column + breadth (dropBlankEnd word) ≤ width := by omega
    unfold breaks
    dsimp only
    rw [if_pos room]
    exact ih (by omega)

theorem pieces_of_fits {overflow : Overflow} {width : Nat} {line : List Char} (narrow : Narrow line)
    (fits : line.length ≤ width) : pieces overflow width line = [line] := by
  have words := sum_wordsOf_le (line.length + 1) line
  rw [narrow.breadth_eq] at words
  rw [pieces, breaks_of_fits (by omega)]
  simp [splitAtPlaces, trimEnd, Nat.sub_eq_zero_of_le fits]

theorem block_of_fits {side : Side} {overflow : Overflow} {width : Nat} {text : List Char}
    (narrow : Narrow text) (fits : text.length ≤ width) :
    block side overflow width text = [place side overflow width text] := by
  simp [block, narrow.lines_eq, narrow.fillTabs_eq, pieces_of_fits narrow fits]

def padded (before : Nat) (text : List Char) (after : Nat) : List Char :=
  List.replicate before ' ' ++ text ++ List.replicate after ' '

theorem infix_padded (before : Nat) (text : List Char) (after : Nat) :
    text <:+: padded before text after :=
  ⟨_, _, rfl⟩

theorem narrow_padded {text : List Char} (narrow : Narrow text) (before after : Nat) :
    Narrow (padded before text after) :=
  ((Narrow.spaces before).append narrow).append (Narrow.spaces after)

theorem clip_of_fits {overflow : Overflow} {width : Nat} {text : List Char} (narrow : Narrow text)
    (fits : text.length ≤ width) : clip overflow width text = text := by
  unfold clip
  rw [narrow.breadth_eq, if_pos fits]

theorem place_left {overflow : Overflow} {width : Nat} {text : List Char} (narrow : Narrow text)
    (fits : text.length ≤ width) :
    place .left overflow width text = padded 0 text (width - text.length) := by
  simp [place, clip_of_fits narrow fits, narrow.breadth_eq, padded]

theorem place_right {overflow : Overflow} {width : Nat} {text : List Char} (narrow : Narrow text)
    (fits : text.length ≤ width) :
    place .right overflow width text =
      padded (width - (dropBlankEnd text).length) (dropBlankEnd text) 0 := by
  have shorter := sublist_dropBlankEnd text
  have kept := narrow.mono shorter.subset
  simp [place, clip_of_fits kept (shorter.length_le.trans fits), kept.breadth_eq, padded]

section
variable (side : Side) (overflow : Overflow) {width : Nat} {text : List Char} (narrow : Narrow text)
  (fits : text.length ≤ width)
include narrow fits

theorem length_place_of_fits : (place side overflow width text).length = width := by
  have shorter := (sublist_dropBlankEnd text).length_le
  cases side with
  | left =>
    rw [place_left narrow fits]
    simp [padded, fits]
  | right =>
    rw [place_right narrow fits]
    simp [padded, shorter.trans fits]

theorem narrow_place : Narrow (place side overflow width text) := by
  cases side with
  | left =>
    rw [place_left narrow fits]
    exact narrow_padded narrow _ _
  | right =>
    rw [place_right narrow fits]
    exact narrow_padded (narrow.mono (sublist_dropBlankEnd text).subset) _ _

end

theorem subset_of_mem_splitAtPlaces {text piece : List Char} {start : Nat} {places : List Nat}
    (member : piece ∈ splitAtPlaces text start places) : piece ⊆ text := by
  induction places generalizing text start with
  | nil => exact List.mem_singleton.mp member ▸ List.Subset.refl _
  | cons place rest ih =>
    rcases List.mem_cons.mp member with rfl | later
    · exact List.take_subset _ _
    · exact List.Subset.trans (ih later) (List.drop_subset _ _)

theorem subset_of_mem_pieces {overflow : Overflow} {width : Nat} {line piece : List Char}
    (member : piece ∈ pieces overflow width line) : piece ⊆ line := by
  obtain ⟨part, split, rfl⟩ := List.mem_map.mp member
  exact List.Subset.trans (List.take_subset _ _) (subset_of_mem_splitAtPlaces split)

theorem mem_block_left {width : Nat} {text line : List Char} (narrow : Narrow text)
    (member : line ∈ block .left .folded width text) : Narrow line ∧ line.length = width := by
  simp only [block, narrow.lines_eq, List.flatMap_singleton, narrow.fillTabs_eq,
    List.mem_map] at member
  obtain ⟨piece, among, rfl⟩ := member
  have kept := narrow.mono (subset_of_mem_pieces among)
  have cut : Narrow (clip .folded width piece) ∧ (clip .folded width piece).length ≤ width := by
    unfold clip
    rw [kept.breadth_eq]
    split
    · exact ⟨kept, ‹_›⟩
    · rw [kept.crop_eq]
      exact ⟨kept.mono (List.take_subset _ _), by simp⟩
  refine ⟨cut.1.append (Narrow.spaces _), ?_⟩
  simp [place, cut.1.breadth_eq, Nat.add_sub_cancel' cut.2]

structure Fits (width : Nat) (cell : List Char) : Prop where
  narrow : Narrow cell
  short : cell.length ≤ width
  roomy : 0 < width

def cellsAt (columns : List Column) (widths : List Nat) (cells : List (List Char)) :
    List (List Char) :=
  List.zipWith (fun (column, width) cell =>
    ' ' :: (place column.side column.overflow width cell ++ [' '])) (columns.zip widths) cells

section
variable {header : List Char} {overflow : Overflow} {columns : List Column} {width : Nat}
  {widths : List Nat} {cell : List Char} {cells : List (List Char)} (fits : Fits width cell)
include fits

theorem cellsAt_left :
    cellsAt (⟨header, .left, overflow⟩ :: columns) (width :: widths) (cell :: cells) =
      padded 1 cell (width - cell.length + 1) :: cellsAt columns widths cells := by
  simp [cellsAt, place_left fits.narrow fits.short, padded, List.replicate_succ']

theorem cellsAt_right (solid : ∀ c ∈ cell, isBlank c = false) :
    cellsAt (⟨header, .right, overflow⟩ :: columns) (width :: widths) (cell :: cells) =
      padded (width - cell.length + 1) cell 1 :: cellsAt columns widths cells := by
  simp [cellsAt, place_right fits.narrow fits.short, padded, dropBlankEnd_of_solid solid,
    List.replicate_succ]

end

theorem cellLines_of_fits (column : Column) {width : Nat} {cell : List Char}
    (fits : Fits width cell) : cellLines column (width + 2) cell =
      [' ' :: (place column.side column.overflow width cell ++ [' '])] := by
  have roomy := fits.roomy
  rw [cellLines, if_neg (by omega), Nat.add_sub_cancel, block_of_fits fits.narrow fits.short]
  rfl

section
variable {columns : List Column} {widths : List Nat} {cells : List (List Char)}
  (fits : List.Forall₂ Fits widths cells)
include fits

theorem zipWith_cellLines (columns : List Column) :
    List.zipWith (fun (column, width) cell => cellLines column width cell)
      (columns.zip (widths.map (· + 2))) cells =
      (cellsAt columns widths cells).map ([·]) := by
  induction fits generalizing columns with
  | nil => cases columns <;> rfl
  | cons head _ ih =>
    cases columns with
    | nil => rfl
    | cons column columns =>
      simp only [cellsAt] at ih ⊢
      simp only [List.map_cons, List.zip_cons_cons, List.zipWith_cons_cons, ih,
        cellLines_of_fits column head]

theorem map_length_cellsAt (same : columns.length = widths.length) :
    (cellsAt columns widths cells).map List.length = widths.map (· + 2) := by
  induction fits generalizing columns with
  | nil => cases columns <;> rfl
  | cons head _ ih =>
    cases columns with
    | nil => cases same
    | cons column columns =>
      have later := ih (Nat.succ.inj same)
      simp only [cellsAt] at later ⊢
      simp [later, length_place_of_fits _ _ head.narrow head.short]

theorem narrow_cellsAt (columns : List Column) :
    ∀ cell ∈ cellsAt columns widths cells, Narrow cell := by
  induction fits generalizing columns with
  | nil => cases columns <;> simp [cellsAt]
  | cons head _ ih =>
    cases columns with
    | nil => simp [cellsAt]
    | cons column columns =>
      have inner := narrow_place column.side column.overflow head.narrow head.short
      have first := Narrow.cons (c := ' ') rfl (inner.append (Narrow.spaces 1))
      exact List.forall_mem_cons.mpr ⟨first, ih columns⟩

end

theorem foldl_max_ones (count : Nat) : (List.replicate count 1).foldl max 1 = 1 := by
  induction count with
  | zero => rfl
  | succ count ih => rwa [List.replicate_succ, List.foldl_cons, Nat.max_self]

theorem zipWith_fillCell (isHeader : Bool) {widths : List Nat} {cells : List (List Char)}
    (enough : cells.length ≤ widths.length) :
    List.zipWith (fillCell isHeader 1) widths (cells.map ([·])) = cells.map ([·]) := by
  induction cells generalizing widths with
  | nil => simp
  | cons cell rest ih =>
    cases widths with
    | nil => simp at enough
    | cons width widths =>
      have later := ih (Nat.le_of_succ_le_succ enough)
      cases isHeader <;> simp [fillCell, later]

theorem rowLines_of_fits (isHeader : Bool) (columns : List Column) {widths : List Nat}
    {cells : List (List Char)} (fits : List.Forall₂ Fits widths cells) :
    rowLines isHeader columns (widths.map (· + 2)) cells =
      [let edge := if isHeader then '┃' else '│'
       ruled edge edge edge (cellsAt columns widths cells)] := by
  -- A row is as tall as its tallest cell, and here each cell has one line.
  have tall : (((cellsAt columns widths cells).map ([·])).map List.length).foldl max 1 = 1 := by
    rw [List.map_map, show List.length ∘ (fun cell : List Char => [cell]) = fun _ => 1 from rfl,
      List.map_const']
    exact foldl_max_ones _
  have enough : (cellsAt columns widths cells).length ≤ (widths.map (· + 2)).length := by
    simp only [cellsAt, List.length_zipWith, List.length_zip, List.length_map]
    omega
  have first : ((cellsAt columns widths cells).map ([·])).map (fun cell => cell[0]?.getD []) =
      cellsAt columns widths cells := by
    rw [List.map_map]
    exact List.map_id _
  unfold rowLines
  simp only [zipWith_cellLines fits, tall, zipWith_fillCell isHeader enough, List.range_one,
    List.map_singleton, first]

def texts (g : Grid) (k : Nat) : List (List Char) :=
  (g.columns[k]?.map (·.header)).toList ++ g.rows.filterMap (·[k]?)

theorem header_mem_texts {g : Grid} {k : Nat} (inside : k < g.columns.length) :
    g.columns[k].header ∈ g.texts k := by
  simp [texts, List.getElem?_eq_getElem inside]

theorem cell_mem_texts {g : Grid} {row : List (List Char)} (listed : row ∈ g.rows) {k : Nat}
    (inside : k < row.length) : row[k] ∈ g.texts k :=
  List.mem_append_right _ (List.mem_filterMap.mpr ⟨row, listed, List.getElem?_eq_getElem inside⟩)

/-- How wide a grid is that nothing narrows: every column has its widest line with a space on each
    side, and columns have dividers between them. -/
def naturalWidth (g : Grid) : Nat :=
  total (g.naturalWidths.map (· + 2)) + frameWidth g.columns.length

theorem le_foldl_max {width : Nat} {widths : List Nat} (start : Nat)
    (among : width ≤ start ∨ width ∈ widths) : width ≤ widths.foldl max start := by
  induction widths generalizing start with
  | nil => simpa using among
  | cons head rest ih =>
    apply ih
    rcases among with small | member
    · exact Or.inl (small.trans (Nat.le_max_left _ _))
    · rcases List.mem_cons.mp member with rfl | later
      · exact Or.inl (Nat.le_max_right _ _)
      · exact Or.inr later

theorem length_le_widest {text : List Char} {texts : List (List Char)} (member : text ∈ texts)
    (narrow : Narrow text) : text.length ≤ widest texts := by
  apply le_foldl_max 0 (Or.inr _)
  apply List.mem_map.mpr
  refine ⟨text, List.mem_flatMap.mpr ⟨text, member, ?_⟩, narrow.breadth_eq⟩
  rw [narrow.measured_eq]
  exact List.mem_singleton_self text

theorem total_eq_sum (widths : List Nat) : total widths = widths.sum := List.sum_eq_foldl.symm

theorem ruled_cons (left divider right : Char) (cell : List Char) (rest : List (List Char)) :
    ruled left divider right (cell :: rest) =
      left :: (cell ++ (rest.map (divider :: ·)).flatten ++ [right]) := by
  have inner : [divider].intercalate (cell :: rest) =
      cell ++ (rest.map (divider :: ·)).flatten := by
    induction rest generalizing cell with
    | nil => simp
    | cons next rest ih =>
      rw [List.intercalate_cons_cons, ih next, List.map_cons, List.flatten_cons]
      simp
  rw [ruled, inner]

theorem length_ruled {left divider right : Char} {cells : List (List Char)} (some : cells ≠ []) :
    (ruled left divider right cells).length =
      (cells.map List.length).sum + frameWidth cells.length := by
  obtain ⟨cell, rest, rfl⟩ := List.exists_cons_of_ne_nil some
  have later : ((rest.map (divider :: ·)).flatten).length =
      (rest.map List.length).sum + rest.length := by
    rw [List.length_flatten, List.map_map, show List.length ∘ (divider :: ·) =
      fun cell => cell.length + 1 from rfl, List.sum_map_add]
    simp
  rw [ruled_cons]
  simp only [frameWidth, List.length_cons, List.length_append, List.length_nil, later,
    List.map_cons, List.sum_cons]
  omega

theorem infix_ruled {left divider right : Char} {cell : List Char} {cells : List (List Char)}
    (member : cell ∈ cells) : cell <:+: ruled left divider right cells := by
  obtain ⟨first, rest, rfl⟩ := List.exists_cons_of_ne_nil (List.ne_nil_of_mem member)
  rw [ruled_cons]
  have inner : cell <:+: first ++ (rest.map (divider :: ·)).flatten := by
    rcases List.mem_cons.mp member with rfl | later
    · exact (List.prefix_append _ _).isInfix
    · have divided := List.infix_of_mem_flatten (List.mem_map_of_mem (f := (divider :: ·)) later)
      exact ((List.suffix_cons divider cell).isInfix.trans divided).trans
        (List.suffix_append _ _).isInfix
  exact inner.trans ⟨[left], [right], rfl⟩

theorem narrow_ruled {left divider right : Char} {cells : List (List Char)}
    (edges : Narrow [left, divider, right]) (narrow : ∀ cell ∈ cells, Narrow cell) :
    Narrow (ruled left divider right cells) := by
  simp only [Narrow, List.forall_mem_cons] at edges
  obtain ⟨leftEdge, between, rightEdge, -⟩ := edges
  cases cells with
  | nil => exact .cons leftEdge (.cons rightEdge (List.forall_mem_nil _))
  | cons cell rest =>
    obtain ⟨first, later⟩ := List.forall_mem_cons.mp narrow
    have divided : Narrow (rest.map (divider :: ·)).flatten := by
      intro c member
      obtain ⟨_, listed, inside⟩ := List.mem_flatten.mp member
      obtain ⟨other, among, rfl⟩ := List.mem_map.mp listed
      exact Narrow.cons between (later other among) c inside
    rw [ruled_cons]
    exact .cons leftEdge ((first.append divided).append (.cons rightEdge (List.forall_mem_nil _)))

theorem length_naturalWidths (g : Grid) : g.naturalWidths.length = g.columns.length := by
  simp [naturalWidths]

theorem getElem_naturalWidths (g : Grid) (k : Nat) (inside : k < g.naturalWidths.length) :
    g.naturalWidths[k] = widest (g.texts k) := by
  simp [naturalWidths, texts]

theorem widths_of_wide {g : Grid} {screen : Nat} (wide : g.naturalWidth ≤ screen) :
    g.widths screen = g.naturalWidths.map (· + 2) := by
  have room : total (g.naturalWidths.map (· + 2)) ≤ screen - frameWidth g.columns.length := by
    unfold naturalWidth at wide
    omega
  have unlimited : g.naturalWidths.map (fun width =>
      if screen - frameWidth g.columns.length = 0 then 1
      else min (width + 2) (screen - frameWidth g.columns.length)) =
        g.naturalWidths.map (· + 2) := by
    apply List.map_congr_left
    intro width member
    have part := List.single_le_sum (fun _ _ => Nat.zero_le _) (width + 2)
      (List.mem_map_of_mem (f := (· + 2)) member)
    rw [← total_eq_sum] at part
    rw [if_neg (by omega), Nat.min_eq_left (by omega)]
  unfold widths
  dsimp only
  rw [unlimited, shrink, if_pos room]

/-- The lines of a table: a title, and a box with a header and with one line for each row. -/
structure Picture where
  title : List (List Char)
  top : List Char
  header : List Char
  rule : List Char
  body : List (List Char)
  bottom : List Char

namespace Picture

def box (p : Picture) : List (List Char) := [p.top, p.header, p.rule] ++ p.body ++ [p.bottom]

def lines (p : Picture) : List (List Char) := p.title ++ p.box

/-- Borders above and below, and lines of one length from the first to the last of them. -/
structure Boxed (p : Picture) : Prop where
  top : ∃ inner, p.top = '┏' :: (inner ++ ['┓'])
  bottom : ∃ inner, p.bottom = '└' :: (inner ++ ['┘'])
  level : ∀ line ∈ p.box, line.length = p.top.length
  unbroken : ∀ line ∈ p.box, '\n' ∉ line

end Picture

def outline (g : Grid) (left fill divider right : Char) : List Char :=
  border left fill divider right (g.naturalWidths.map (· + 2))

def rowLine (g : Grid) (edge : Char) (cells : List (List Char)) : List Char :=
  ruled edge edge edge (cellsAt g.columns g.naturalWidths cells)

def whole (g : Grid) : Picture where
  title := block .left .folded g.naturalWidth g.title
  top := g.outline '┏' '━' '┳' '┓'
  header := g.rowLine '┃' (g.columns.map (·.header))
  rule := g.outline '┡' '━' '╇' '┩'
  body := g.rows.map (g.rowLine '│')
  bottom := g.outline '└' '─' '┴' '┘'

theorem narrow_outline {g : Grid} {left fill divider right : Char}
    (narrow : Narrow [left, fill, divider, right]) :
    Narrow (g.outline left fill divider right) := by
  obtain ⟨leftEdge, others⟩ := List.forall_mem_cons.mp narrow
  obtain ⟨filled, edges⟩ := List.forall_mem_cons.mp others
  refine narrow_ruled (Narrow.cons leftEdge edges) ?_
  intro cell member c inside
  obtain ⟨_, _, rfl⟩ := List.mem_map.mp member
  rwa [List.eq_of_mem_replicate inside]

theorem narrow_rowLine {g : Grid} {edge : Char} (narrow : charBreadth edge = 1)
    {cells : List (List Char)} (fits : List.Forall₂ Fits g.naturalWidths cells) :
    Narrow (g.rowLine edge cells) :=
  narrow_ruled (by simp [Narrow, narrow]) (narrow_cellsAt fits _)

/-- Rows with a cell for each column, and no text that takes more or less room than its characters. -/
structure Regular (g : Grid) : Prop where
  columned : g.columns ≠ []
  shaped : ∀ row ∈ g.rows, row.length = g.columns.length
  title : Narrow g.title
  headers : ∀ column ∈ g.columns, Narrow column.header
  cells : ∀ row ∈ g.rows, ∀ cell ∈ row, Narrow cell
  visible : ∀ k < g.columns.length, ∃ text ∈ g.texts k, text ≠ []

namespace Regular
variable {g : Grid} (regular : g.Regular)
include regular

theorem narrow_of_mem_texts {k : Nat} {text : List Char} (member : text ∈ g.texts k) :
    Narrow text := by
  rcases List.mem_append.mp member with header | cell
  · obtain ⟨column, found, rfl⟩ := Option.map_eq_some_iff.mp (Option.mem_toList.mp header)
    exact regular.headers column (List.mem_of_getElem? found)
  · obtain ⟨row, listed, found⟩ := List.mem_filterMap.mp cell
    exact regular.cells row listed text (List.mem_of_getElem? found)

theorem fits {cells : List (List Char)} (length : cells.length = g.columns.length)
    (listed : ∀ k (inside : k < cells.length), cells[k] ∈ g.texts k) :
    List.Forall₂ Fits g.naturalWidths cells := by
  rw [List.forall₂_iff_get]
  refine ⟨by rw [length, length_naturalWidths], ?_⟩
  intro k first second
  rw [List.get_eq_getElem, List.get_eq_getElem, getElem_naturalWidths]
  have inside : k < g.columns.length := by rwa [← length]
  obtain ⟨text, member, some⟩ := regular.visible k inside
  have short := length_le_widest member (regular.narrow_of_mem_texts member)
  have text_pos := List.length_pos_iff.mpr some
  have narrow := regular.narrow_of_mem_texts (listed k second)
  exact ⟨narrow, length_le_widest (listed k second) narrow, text_pos.trans_le short⟩

theorem headers_fit : List.Forall₂ Fits g.naturalWidths (g.columns.map (·.header)) := by
  apply regular.fits (List.length_map _)
  intro k inside
  rw [List.getElem_map]
  exact header_mem_texts _

theorem row_fits {row : List (List Char)} (member : row ∈ g.rows) :
    List.Forall₂ Fits g.naturalWidths row :=
  regular.fits (regular.shaped row member) fun _ inside => cell_mem_texts member inside

theorem length_outline (left fill divider right : Char) :
    (g.outline left fill divider right).length = g.naturalWidth := by
  have some : (g.naturalWidths.map (· + 2)).map (fun width => List.replicate width fill) ≠ [] := by
    rw [← List.length_pos_iff, List.length_map, List.length_map, length_naturalWidths]
    exact List.length_pos_iff.mpr regular.columned
  have lengths : ((g.naturalWidths.map (· + 2)).map fun width => List.replicate width fill).map
      List.length = g.naturalWidths.map (· + 2) := by
    simp [Function.comp_def]
  rw [outline, border, length_ruled some, lengths, naturalWidth, total_eq_sum]
  simp only [List.length_map, length_naturalWidths]

theorem length_rowLine (edge : Char) {cells : List (List Char)}
    (fits : List.Forall₂ Fits g.naturalWidths cells) :
    (g.rowLine edge cells).length = g.naturalWidth := by
  have lengths := map_length_cellsAt fits (length_naturalWidths g).symm
  have count := congrArg List.length lengths
  rw [List.length_map, List.length_map, length_naturalWidths] at count
  have some : cellsAt g.columns g.naturalWidths cells ≠ [] := by
    rw [← List.length_pos_iff, count]
    exact List.length_pos_iff.mpr regular.columned
  rw [rowLine, length_ruled some, lengths, count, naturalWidth, total_eq_sum]

theorem mem_box {line : List Char} (member : line ∈ g.whole.box) :
    (∃ left fill divider right, Narrow [left, fill, divider, right] ∧
      line = g.outline left fill divider right) ∨
    (∃ edge cells, charBreadth edge = 1 ∧ List.Forall₂ Fits g.naturalWidths cells ∧
      line = g.rowLine edge cells) := by
  simp only [Picture.box, whole, List.mem_append, List.mem_cons, List.not_mem_nil, or_false,
    List.mem_map] at member
  rcases member with ((rfl | rfl | rfl) | ⟨row, listed, rfl⟩) | rfl
  · exact .inl ⟨_, _, _, _, by decide +kernel, rfl⟩
  · exact .inr ⟨_, _, by decide +kernel, regular.headers_fit, rfl⟩
  · exact .inl ⟨_, _, _, _, by decide +kernel, rfl⟩
  · exact .inr ⟨_, _, by decide +kernel, regular.row_fits listed, rfl⟩
  · exact .inl ⟨_, _, _, _, by decide +kernel, rfl⟩

theorem of_mem_box {line : List Char} (member : line ∈ g.whole.box) :
    Narrow line ∧ line.length = g.naturalWidth := by
  rcases regular.mem_box member with ⟨_, _, _, _, narrow, rfl⟩ | ⟨_, _, narrow, fits, rfl⟩
  · exact ⟨narrow_outline narrow, regular.length_outline _ _ _ _⟩
  · exact ⟨narrow_rowLine narrow fits, regular.length_rowLine _ fits⟩

theorem of_mem_whole {line : List Char} (member : line ∈ g.whole.lines) :
    Narrow line ∧ line.length = g.naturalWidth := by
  rcases List.mem_append.mp member with title | box
  · exact mem_block_left regular.title title
  · exact regular.of_mem_box box

theorem boxed_whole : g.whole.Boxed where
  top := ⟨_, rfl⟩
  bottom := ⟨_, rfl⟩
  level := by
    intro line member
    rw [(regular.of_mem_box member).2]
    exact (regular.length_outline _ _ _ _).symm
  unbroken := fun _ member => (regular.of_mem_box member).1.line

theorem rows_flatMap : g.rows.flatMap (rowLines false g.columns (g.naturalWidths.map (· + 2))) =
    g.rows.map (g.rowLine '│') := by
  have one : ∀ row ∈ g.rows, rowLines false g.columns (g.naturalWidths.map (· + 2)) row =
      [g.rowLine '│' row] :=
    fun row member => rowLines_of_fits false g.columns (regular.row_fits member)
  rw [List.flatMap_congr one, ← List.map_eq_flatMap]

/-- A screen that is wide enough shows the whole grid. -/
theorem draw_eq_whole {screen : Nat} (wide : g.naturalWidth ≤ screen) :
    g.draw screen = g.whole.lines := by
  have header := rowLines_of_fits true g.columns regular.headers_fit
  have uncut : g.whole.lines.map (clip .folded screen) = g.whole.lines := by
    rw [List.map_congr_left (g := id), List.map_id]
    intro line member
    obtain ⟨narrow, length⟩ := regular.of_mem_whole member
    exact clip_of_fits narrow (length.trans_le wide)
  rw [← uncut]
  unfold draw
  simp only [widths_of_wide wide, header, regular.rows_flatMap, List.length_map,
    length_naturalWidths]
  simp only [Picture.lines, Picture.box, whole, List.append_assoc]
  rfl

end Regular

end SourceCensus.Grid
