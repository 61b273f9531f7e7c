/-! What a census ranks. -/
namespace SourceCensus

inductive Mode
  | color
  | num
  | classes
  | contrast
  deriving DecidableEq, Repr

namespace Mode

def name : Mode → String
  | .color => "color"
  | .num => "num"
  | .classes => "class"
  | .contrast => "contrast"

def all : List Mode := [.color, .num, .classes, .contrast]

def defaults : List Mode := [.color, .num, .classes]

def ofName? (name : String) : Option Mode := all.find? (·.name = name)

theorem mem_all (mode : Mode) : mode ∈ all := by cases mode <;> decide

theorem name_injective {a b : Mode} (same : a.name = b.name) : a = b := by
  cases a <;> cases b <;> first | rfl | simp [name] at same

end Mode

end SourceCensus
