import SourceCensus.Census
import SourceCensus.Proofs.Tally

/-! A census against the texts it was taken from. Each tally belongs to the modes that ask for it; the
   colors are tallied for their own mode and for contrast. -/
namespace SourceCensus.Census

variable {c : Census} {scanner : Block.Scanner} {modes : List Mode} {texts : List (List Char)}

/-- The three tallies hold what the texts hold, in the order of the texts. -/
structure Takes (c : Census) (scanner : Block.Scanner) (modes : List Mode)
    (texts : List (List Char)) : Prop where
  colors : wantsColors modes = true →
    c.colors.Holds (texts.flatMap Color.keys) (Counted (texts.flatMap Color.keys))
  numbers : .num ∈ modes →
    c.numbers.Holds (texts.flatMap MagicNumber.all) (Counted (texts.flatMap MagicNumber.all))
  classes : .classes ∈ modes →
    c.classes.Holds ((texts.flatMap scanner.sizes).map (·.1)) (GivenLast (texts.flatMap scanner.sizes))

theorem takes_empty (scanner : Block.Scanner) (modes : List Mode) : empty.Takes scanner modes [] :=
  ⟨fun _ => Tally.holds_empty _, fun _ => Tally.holds_empty _, fun _ => Tally.holds_empty _⟩

section
variable (c : Census) (scanner : Block.Scanner) (modes : List Mode) (text : List Char)

theorem colors_scan : (c.scan scanner modes text).colors =
    if wantsColors modes then c.colors.countAll (Color.keys text) else c.colors := by
  unfold scan
  split <;> split <;> split <;> rfl

theorem numbers_scan : (c.scan scanner modes text).numbers =
    if modes.contains .num then c.numbers.countAll (MagicNumber.all text) else c.numbers := by
  unfold scan
  split <;> split <;> split <;> rfl

theorem classes_scan : (c.scan scanner modes text).classes =
    if modes.contains .classes then c.classes.putAll (scanner.sizes text) else c.classes := by
  unfold scan
  split <;> split <;> split <;> rfl

end

theorem Takes.scan (takes : c.Takes scanner modes texts) (text : List Char) :
    (c.scan scanner modes text).Takes scanner modes (texts ++ [text]) := by
  refine ⟨?_, ?_, ?_⟩
  · intro asked
    rw [colors_scan, if_pos asked, List.flatMap_append, List.flatMap_singleton]
    exact (takes.colors asked).countAll (Color.keys text)
  · intro asked
    rw [numbers_scan, if_pos (List.contains_iff_mem.mpr asked), List.flatMap_append,
      List.flatMap_singleton]
    exact (takes.numbers asked).countAll (MagicNumber.all text)
  · intro asked
    rw [classes_scan, if_pos (List.contains_iff_mem.mpr asked), List.flatMap_append,
      List.flatMap_singleton]
    exact (takes.classes asked).putAll (scanner.sizes text)

end SourceCensus.Census
