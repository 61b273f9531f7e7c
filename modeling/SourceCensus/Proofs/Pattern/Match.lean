import SourceCensus.Pattern.Search
import SourceCensus.Proofs.Text.Cursor

/-! A match lies in the text that is searched: whatever the pattern, what its rest is asked about is
   at the cursor or further on. Looking ahead and behind moves nothing. -/
namespace SourceCensus.Pattern
open Text

def Progress.Onward (p q : Progress) : Prop := ∃ n, q.cursor = p.cursor.forward n

namespace Progress

theorem onward_refl (p : Progress) : p.Onward p := ⟨0, rfl⟩

theorem onward_of_cursor {p q : Progress} (same : q.cursor = p.cursor) : p.Onward q := ⟨0, same⟩

theorem Onward.trans {p q r : Progress} (first : p.Onward q) (second : q.Onward r) : p.Onward r := by
  obtain ⟨m, moved⟩ := first
  obtain ⟨n, further⟩ := second
  exact ⟨m + n, by rw [further, moved, Cursor.forward_forward]⟩

theorem onward_take? {p q : Progress} {test : Char → Bool} (taken : p.take? test = some q) :
    p.Onward q := by
  unfold take? at taken
  split at taken
  · split at taken
    · rw [← Option.some.inj taken]
      exact ⟨1, rfl⟩
    · cases taken
  · cases taken

theorem onward_takeText? {rule : CaseRule} {text : List Char} {p q : Progress}
    (taken : takeText? rule text p = some q) : p.Onward q := by
  induction text generalizing p with
  | nil =>
    rw [← Option.some.inj taken]
    exact p.onward_refl
  | cons c rest ih =>
    obtain ⟨next, first, later⟩ := Option.bind_eq_some_iff.mp taken
    exact (onward_take? first).trans (ih later)

end Progress

/-- What is accepted was first reached, at the cursor or further on. -/
def Advances (body : Runner) : Prop :=
  ∀ ⦃p r : Progress⦄ ⦃accept : Accepts⦄, body p accept = some r →
    ∃ q, p.Onward q ∧ accept q = some r

theorem times_advances {body : Runner} (advances : Advances body) (count : Nat) :
    Advances (times body count) := by
  induction count with
  | zero =>
    intro p r accept done
    exact ⟨p, p.onward_refl, done⟩
  | succ count ih =>
    intro p r accept done
    obtain ⟨q, onward, later⟩ := advances done
    obtain ⟨last, further, accepted⟩ := ih later
    exact ⟨last, onward.trans further, accepted⟩

theorem turns_advances {body : Runner} (advances : Advances body) (greedy : Bool) (bound : Nat)
    (last : Option Nat) : Advances (turns body greedy bound last) := by
  induction bound generalizing last with
  | zero =>
    intro p r accept done
    exact ⟨p, p.onward_refl, done⟩
  | succ bound ih =>
    intro p r accept done
    have again {left : Option Nat}
        (turned : (body p fun q => turns body greedy bound left q accept) = some r) :
        ∃ q, p.Onward q ∧ accept q = some r := by
      obtain ⟨q, onward, later⟩ := advances turned
      obtain ⟨stop, further, accepted⟩ := ih left later
      exact ⟨stop, onward.trans further, accepted⟩
    unfold turns at done
    split at done
    · exact ⟨p, p.onward_refl, done⟩
    · split at done
      · split at done
        · rename_i turned
          exact again (turned.trans done)
        · exact ⟨p, p.onward_refl, done⟩
      · split at done
        · rename_i accepted
          exact ⟨p, p.onward_refl, accepted.trans done⟩
        · exact again done

theorem settledTurns_onward {body : Runner} (advances : Advances body) (bound : Nat)
    (last : Option Nat) (p : Progress) : p.Onward (settledTurns body bound last p) := by
  induction bound generalizing last p with
  | zero => exact p.onward_refl
  | succ bound ih =>
    unfold settledTurns
    split
    · exact p.onward_refl
    · split
      · rename_i q turned
        obtain ⟨stop, onward, same⟩ := advances turned
        rw [← Option.some.inj same]
        exact onward.trans (ih _ stop)
      · exact p.onward_refl

theorem settledTimes_onward {body : Runner} (advances : Advances body) (count : Nat)
    {p q : Progress} (done : settledTimes body count p = some q) : p.Onward q := by
  induction count generalizing p with
  | zero =>
    rw [← Option.some.inj done]
    exact p.onward_refl
  | succ count ih =>
    obtain ⟨next, turned, later⟩ := Option.bind_eq_some_iff.mp done
    obtain ⟨stop, onward, same⟩ := advances turned
    rw [← Option.some.inj same] at later
    exact onward.trans (ih later)

theorem loopRun_advances {body : Runner} (advances : Advances body) (least : Nat)
    (most : Option Nat) (appetite : Appetite) : Advances (loopRun body least most appetite) := by
  intro p r accept done
  cases appetite with
  | possessive =>
    obtain ⟨q, settled, accepted⟩ := Option.bind_eq_some_iff.mp done
    exact ⟨_, (settledTimes_onward advances least settled).trans
      (settledTurns_onward advances _ none q), accepted⟩
  | greedy | lazy =>
    obtain ⟨q, onward, later⟩ := times_advances advances least done
    obtain ⟨stop, further, accepted⟩ := turns_advances advances _ _ none later
    exact ⟨stop, onward.trans further, accepted⟩

theorem take?_advances (test : Char → Bool) :
    Advances fun p accept => (p.take? test).bind accept := by
  intro p r accept done
  obtain ⟨q, taken, accepted⟩ := Option.bind_eq_some_iff.mp done
  exact ⟨q, Progress.onward_take? taken, accepted⟩

theorem run_advances (node : Node) : Advances node.run := by
  induction node with
  | empty =>
    intro p r accept done
    exact ⟨p, p.onward_refl, done⟩
  | char code rule => exact take?_advances _
  | other code rule => exact take?_advances _
  | any newline => exact take?_advances _
  | set negated members rule ascii => exact take?_advances _
  | anchor place =>
    intro p r accept done
    rw [Node.run] at done
    split at done
    · exact ⟨p, p.onward_refl, done⟩
    · cases done
  | seq first second ihFirst ihSecond =>
    intro p r accept done
    obtain ⟨q, onward, later⟩ := ihFirst done
    obtain ⟨stop, further, accepted⟩ := ihSecond later
    exact ⟨stop, onward.trans further, accepted⟩
  | alt first second ihFirst ihSecond =>
    intro p r accept done
    rw [Node.run] at done
    split at done
    · rename_i found
      exact ihFirst (found.trans done)
    · exact ihSecond done
  | group index body ih =>
    intro p r accept done
    obtain ⟨q, onward, accepted⟩ := ih done
    exact ⟨q.remember index p.cursor, onward.trans (Progress.onward_of_cursor rfl), accepted⟩
  | atomic body ih =>
    intro p r accept done
    obtain ⟨q, found, accepted⟩ := Option.bind_eq_some_iff.mp done
    obtain ⟨stop, onward, same⟩ := ih found
    rw [← Option.some.inj same] at accepted
    exact ⟨stop, onward, accepted⟩
  | loop least most appetite body ih => exact loopRun_advances ih least most appetite
  | ahead negated body =>
    intro p r accept done
    rw [Node.run] at done
    split at done
    · rename_i q _
      split at done
      · cases done
      · exact ⟨{ q with cursor := p.cursor }, Progress.onward_of_cursor rfl, done⟩
    · split at done
      · exact ⟨p, p.onward_refl, done⟩
      · cases done
  | behind negated width body =>
    intro p r accept done
    simp only [Node.run] at done
    split at done
    · rename_i q _
      split at done
      · cases done
      · exact ⟨{ q with cursor := p.cursor }, Progress.onward_of_cursor rfl, done⟩
    · split at done
      · exact ⟨p, p.onward_refl, done⟩
      · cases done
  | «recall» index rule =>
    intro p r accept done
    rw [Node.run] at done
    split at done
    · obtain ⟨q, taken, accepted⟩ := Option.bind_eq_some_iff.mp done
      exact ⟨q, Progress.onward_takeText? taken, accepted⟩
    · cases done
  | ifGroup index yes no ihYes ihNo =>
    intro p r accept done
    rw [Node.run] at done
    split at done
    · exact ihYes done
    · exact ihNo done

theorem matchAt?_within {node : Node} {c : Cursor} {moving : Bool} {found : Match}
    (matched : matchAt? node c moving = some found) :
    found.start = c ∧ ∃ n, found.stop = c.forward n := by
  obtain ⟨p, ran, rfl⟩ := Option.map_eq_some_iff.mp matched
  obtain ⟨q, ⟨n, moved⟩, accepted⟩ := run_advances node ran
  refine ⟨rfl, n, ?_⟩
  split at accepted
  · cases accepted
  · rw [← Option.some.inj accepted]
    exact moved

theorem search?_within {node : Node} {c : Cursor} {moving : Bool} {found : Match}
    (searched : search? node c moving = some found) :
    ∃ m n, found.start = c.forward m ∧ found.stop = c.forward (m + n) := by
  fun_induction search? node c moving with
  | case1 c moving found' matched =>
    obtain rfl := Option.some.inj searched
    obtain ⟨start, n, stop⟩ := matchAt?_within matched
    exact ⟨0, n, start, by rw [stop, Nat.zero_add]⟩
  | case2 => cases searched
  | case3 c moving _ _ ih =>
    obtain ⟨m, n, start, stop⟩ := ih searched
    refine ⟨m + 1, n, start, ?_⟩
    rw [stop, Nat.add_right_comm]
    rfl

theorem searches_within {node : Node} {fuel : Nat} {c : Cursor} {moving : Bool} {found : Match}
    (member : found ∈ searches node fuel c moving) :
    ∃ m n, found.start = c.forward m ∧ found.stop = c.forward (m + n) := by
  induction fuel generalizing c moving with
  | zero => simp [searches] at member
  | succ fuel ih =>
    unfold searches at member
    split at member
    · simp at member
    · rename_i first searched
      obtain ⟨m, n, start, stop⟩ := search?_within searched
      rcases List.mem_cons.mp member with rfl | later
      · exact ⟨m, n, start, stop⟩
      · obtain ⟨k, l, laterStart, laterStop⟩ := ih later
        rw [stop, Cursor.forward_forward] at laterStart laterStop
        exact ⟨m + n + k, l, laterStart, by rw [laterStop, ← Nat.add_assoc]⟩

theorem findAll_within {node : Node} {text : List Char} {found : Match}
    (member : found ∈ findAll node text) :
    ∃ place width, found.start = Cursor.within text place ∧
      found.stop = Cursor.within text (place + width) :=
  searches_within member

end SourceCensus.Pattern
