import SourceCensus.Proofs.Block.Nesting

/-! Braces that match. What stands between two of them closes every brace that it opens and no other,
   and a block ends at the brace that matches the one it starts with. -/
namespace SourceCensus.Block
open Text

/-- As many closing as opening braces, and no start of the text with more closing than opening ones. -/
structure Balanced (text : List Char) : Prop where
  level : text.count '{' = text.count '}'
  covered : ∀ before, before <+: text → before.count '}' ≤ before.count '{'

instance (text : List Char) : Decidable (Balanced text) :=
  decidable_of_iff (text.count '{' = text.count '}' ∧
      ∀ before ∈ text.inits, before.count '}' ≤ before.count '{')
    ⟨fun both => ⟨both.1, fun before start => both.2 before ((List.mem_inits _ _).mpr start)⟩,
      fun balanced => ⟨balanced.level, fun before member =>
        balanced.covered before ((List.mem_inits _ _).mp member)⟩⟩

/-- The brace at `stop` matches the one at `start`. -/
structure Encloses (text : List Char) (start stop : Nat) : Prop where
  later : start < stop
  closes : text[stop]? = some '}'
  balanced : Balanced ((text.drop (start + 1)).take (stop - (start + 1)))

/-- The text closes what it opens and the braces that were open before it, and never more. -/
structure Levels (opened : Nat) (text : List Char) : Prop where
  level : text.count '}' = opened + text.count '{'
  covered : ∀ before, before <+: text → before.count '}' ≤ opened + before.count '{'

theorem balanced_iff_levels (text : List Char) : Balanced text ↔ Levels 0 text := by
  constructor
  · intro balanced
    constructor
    · rw [Nat.zero_add, balanced.level]
    · intro before start
      rw [Nat.zero_add]
      exact balanced.covered before start
  · intro levels
    have level := levels.level
    rw [Nat.zero_add] at level
    refine ⟨level.symm, ?_⟩
    intro before start
    have covered := levels.covered before start
    rwa [Nat.zero_add] at covered

theorem levels_nil_iff (opened : Nat) : Levels opened [] ↔ opened = 0 := by
  constructor
  · intro levels
    have level := levels.level
    simp only [List.count_nil] at level
    omega
  · intro none
    subst none
    refine ⟨rfl, ?_⟩
    intro before start
    rw [List.prefix_nil.mp start]
    exact Nat.le_refl _

theorem not_levels_closing (text : List Char) : ¬ Levels 0 ('}' :: text) := by
  intro levels
  have covered := levels.covered ['}'] ⟨text, rfl⟩
  simp at covered

theorem count_brace_cons (c : Char) (text : List Char) :
    ((c :: text).count '{' : Int) - (c :: text).count '}' =
      depthChange c + (text.count '{' - text.count '}') := by
  by_cases opening : c = '{'
  · subst opening
    simp [depthChange]
    omega
  · by_cases closing : c = '}'
    · subst closing
      simp [depthChange]
      omega
    · simp [depthChange, opening, closing]

theorem levels_cons_iff {opened still : Nat} {c : Char} (text : List Char)
    (change : (opened : Int) + depthChange c = still) :
    Levels opened (c :: text) ↔ Levels still text := by
  constructor
  · intro levels
    have level := levels.level
    have counts := count_brace_cons c text
    refine ⟨by omega, ?_⟩
    intro before start
    have covered := levels.covered (c :: before) (List.cons_prefix_cons.mpr ⟨rfl, start⟩)
    have counts := count_brace_cons c before
    omega
  · intro levels
    have level := levels.level
    have counts := count_brace_cons c text
    refine ⟨by omega, ?_⟩
    intro before start
    rcases List.prefix_cons_iff.mp start with empty | ⟨rest, same, inside⟩
    · subst empty
      exact Nat.zero_le _
    · subst same
      have covered := levels.covered rest inside
      have counts := count_brace_cons c rest
      omega

theorem closing?_eq_some_iff {opened : Nat} {text : List Char} {distance : Nat} :
    closing? (opened + 1) text = some distance ↔
      text[distance]? = some '}' ∧ Levels opened (text.take distance) := by
  induction text generalizing opened distance with
  | nil => simp [closing?]
  | cons c rest ih =>
    have change := depthChange_cases c
    rw [closing?]
    by_cases closed : (opened : Int) + 1 + depthChange c = 0
    · obtain ⟨none, brace⟩ : opened = 0 ∧ c = '}' := by
        rcases change with ⟨_, up⟩ | ⟨brace, down⟩ | level
        · omega
        · exact ⟨by omega, brace⟩
        · omega
      subst none brace
      rw [if_pos closed]
      cases distance with
      | zero => simp [levels_nil_iff]
      | succ n => simp [not_levels_closing]
    · obtain ⟨still, depth⟩ : ∃ still : Nat, (opened : Int) + depthChange c = still :=
        Int.eq_ofNat_of_zero_le (by omega)
      have inside : (opened : Int) + 1 + depthChange c = still + 1 := by omega
      rw [if_neg closed, inside, Option.map_eq_some_iff]
      cases distance with
      | zero =>
        constructor
        · rintro ⟨_, _, impossible⟩
          omega
        · rintro ⟨brace, levels⟩
          obtain rfl : c = '}' := by simpa using brace
          have none := (levels_nil_iff opened).mp levels
          have down : depthChange '}' = -1 := rfl
          omega
      | succ n =>
        rw [List.getElem?_cons_succ, List.take_succ_cons, levels_cons_iff _ depth, ← ih]
        constructor
        · rintro ⟨before, found, same⟩
          rwa [← Nat.succ.inj same]
        · intro found
          exact ⟨n, found, rfl⟩

theorem encloses_iff_closing? (text : List Char) (start stop : Nat) :
    Encloses text start stop ↔
      start < stop ∧ closing? (0 + 1) (text.drop (start + 1)) = some (stop - (start + 1)) := by
  have found := @closing?_eq_some_iff 0 (text.drop (start + 1)) (stop - (start + 1))
  rw [Int.natCast_zero, List.getElem?_drop, ← balanced_iff_levels] at found
  constructor
  · intro encloses
    have later := encloses.later
    refine ⟨later, found.mpr ⟨?_, encloses.balanced⟩⟩
    rw [Nat.add_sub_cancel' later]
    exact encloses.closes
  · rintro ⟨later, closes⟩
    obtain ⟨brace, balanced⟩ := found.mp closes
    rw [Nat.add_sub_cancel' later] at brace
    exact ⟨later, brace, balanced⟩

theorem Encloses.unique {text : List Char} {start stop other : Nat}
    (first : Encloses text start stop) (second : Encloses text start other) : other = stop := by
  obtain ⟨later, closes⟩ := (encloses_iff_closing? text start stop).mp first
  obtain ⟨also, found⟩ := (encloses_iff_closing? text start other).mp second
  have same := Option.some.inj (closes.symm.trans found)
  omega

section
variable {text : List Char} {start : Nat} (opens : text[start]? = some '{')
include opens

theorem blockEnd?_of_encloses {stop : Nat} (encloses : Encloses text start stop) :
    blockEnd? text start = some stop := by
  obtain ⟨later, closes⟩ := (encloses_iff_closing? text start stop).mp encloses
  have distance : start + (stop - (start + 1) + 1) = stop := by omega
  rw [blockEnd?, closing?_opening opens, closes]
  exact congrArg some distance

theorem blockEnd?_of_unmatched (unmatched : ∀ stop, ¬ Encloses text start stop) :
    blockEnd? text start = some (text.length - 1) := by
  obtain ⟨more, _⟩ := List.getElem?_eq_some_iff.mp opens
  apply blockEnd?_unclosed more
  rw [closing?_opening opens, Option.map_eq_none_iff, Option.eq_none_iff_forall_ne_some]
  intro distance closes
  apply unmatched (start + 1 + distance)
  rw [encloses_iff_closing?, Nat.add_sub_cancel_left]
  exact ⟨by omega, closes⟩

end

theorem Balanced.encloses {body : List Char} (balanced : Balanced body) (before after : List Char) :
    Encloses (before ++ '{' :: (body ++ '}' :: after)) before.length
      (before.length + 1 + body.length) := by
  have inside : (before ++ '{' :: (body ++ '}' :: after)).drop (before.length + 1) =
      body ++ '}' :: after := by
    rw [← List.drop_drop, List.drop_left]
    rfl
  refine ⟨by omega, ?_, ?_⟩
  · rw [← List.getElem?_drop, inside, List.getElem?_append_right (Nat.le_refl _), Nat.sub_self]
    rfl
  · rw [inside, Nat.add_sub_cancel_left, List.take_left]
    exact balanced

/-- A block that starts with an opening brace ends at the one brace that matches it, or with the text
    if none does. So a balanced body between braces is a block, whatever stands around it. -/
theorem blocks_end_at_matching_brace :
    (∀ (text : List Char) (start : Nat), text[start]? = some '{' →
      (∃ stop, Encloses text start stop ∧ (∀ other, Encloses text start other → other = stop) ∧
        blockEnd? text start = some stop) ∨
      (∀ stop, ¬ Encloses text start stop) ∧ blockEnd? text start = some (text.length - 1)) ∧
    ∀ before body after : List Char, Balanced body →
      blockEnd? (before ++ '{' :: (body ++ '}' :: after)) before.length =
        some (before.length + 1 + body.length) := by
  constructor
  · intro text start opens
    by_cases matched : ∃ stop, Encloses text start stop
    · obtain ⟨stop, encloses⟩ := matched
      refine Or.inl ⟨stop, encloses, ?_, blockEnd?_of_encloses opens encloses⟩
      intro other also
      exact encloses.unique also
    · have unmatched := not_exists.mp matched
      exact Or.inr ⟨unmatched, blockEnd?_of_unmatched opens unmatched⟩
  · intro before body after balanced
    apply blockEnd?_of_encloses
    · exact List.getElem?_append_right (Nat.le_refl _) |>.trans (by rw [Nat.sub_self]; rfl)
    · exact balanced.encloses before after

theorem blocks_end_at_matching_brace_nested :
    "\x7b \x7b".toList[0]? = some '{' ∧ blockEnd? "\x7b \x7b".toList 0 = some 2 ∧
      Balanced " g\x7b\x7d; ".toList ∧
      blockEnd? (['f'] ++ '{' :: (" g\x7b\x7d; ".toList ++ '}' :: ['}'])) 1 = some 8 := by
  have opens : "\x7b \x7b".toList[0]? = some '{' := rfl
  have balanced : Balanced " g\x7b\x7d; ".toList := by decide
  have block := blocks_end_at_matching_brace.2 ['f'] " g\x7b\x7d; ".toList ['}'] balanced
  refine ⟨opens, ?_, balanced, block⟩
  rcases blocks_end_at_matching_brace.1 _ 0 opens with ⟨stop, encloses, _⟩ | ⟨_, ends⟩
  · have brace := List.mem_of_getElem? encloses.closes
    exact absurd brace (by decide)
  · exact ends

end SourceCensus.Block
