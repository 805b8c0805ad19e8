import SwiftAudit.Swift.Expression

namespace SwiftAudit.Swift

-- The operands are chosen by their labels alone.
theorem operandsAmong_map {α β : Type} (label : β → Label) (f : α → β) (children : List α) :
    operandsAmong label (children.map f) = (operandsAmong (label ∘ f) children).map f := by
  unfold operandsAmong
  simp only [List.find?_map, List.filter_map, Function.comp_def]
  cases children.find? (fun child => (label (f child)).has .lhs) with
  | none => rfl
  | some left => cases children.find? (fun child => (label (f child)).has .rhs) <;> rfl

theorem mem_of_mem_operandsAmong {α : Type} {label : α → Label} {children : List α} {operand : α}
    (h : operand ∈ operandsAmong label children) : operand ∈ children := by
  unfold operandsAmong at h
  split at h
  · rename_i left right hleft hright
    obtain rfl | rfl : operand = left ∨ operand = right := by simpa using h
    · exact List.mem_of_find?_eq_some hleft
    · exact List.mem_of_find?_eq_some hright
  · exact (List.mem_filter.mp h).1

theorem mem_children_of_mem_operands {n operand : Node} (h : operand ∈ operands n) :
    operand ∈ n.children :=
  mem_of_mem_operandsAmong h

end SwiftAudit.Swift
