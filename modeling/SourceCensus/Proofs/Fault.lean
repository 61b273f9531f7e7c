import SourceCensus.Fault

/-! Steps that may fail, one after another: the whole has a result only if each step has one. -/
namespace SourceCensus

theorem bind_eq_ok {ε α β : Type} {value : Except ε α} {later : α → Except ε β} {result : β}
    (made : value >>= later = .ok result) :
    ∃ produced, value = .ok produced ∧ later produced = .ok result := by
  cases value with
  | error fault => cases made
  | ok produced => exact ⟨produced, rfl, made⟩

theorem bind_eq_error {α β : Type} {value : Except Fault α} {later : α → Except Fault β} {fault : Fault}
    (failed : value >>= later = .error fault) :
    value = .error fault ∨ ∃ produced, value = .ok produced ∧ later produced = .error fault := by
  cases value with
  | error first =>
    cases failed
    exact Or.inl rfl
  | ok produced => exact Or.inr ⟨produced, rfl, failed⟩

theorem map_eq_error {α β : Type} {value : Except Fault α} {f : α → β} {fault : Fault}
    (failed : value.map f = .error fault) : value = .error fault := by
  cases value with
  | error first =>
    cases failed
    rfl
  | ok produced => cases failed

theorem exists_map_ok {α : Type} {results : List (Except Fault α)}
    (made : ∀ result ∈ results, ∃ value, result = .ok value) :
    ∃ values : List α, results = values.map .ok := by
  induction results with
  | nil => exact ⟨[], rfl⟩
  | cons result rest ih =>
    obtain ⟨⟨value, rfl⟩, others⟩ := List.forall_mem_cons.mp made
    obtain ⟨values, rfl⟩ := ih others
    exact ⟨value :: values, rfl⟩

end SourceCensus
