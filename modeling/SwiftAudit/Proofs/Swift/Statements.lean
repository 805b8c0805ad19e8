import SwiftAudit.Proofs.Lists
import SwiftAudit.Proofs.Tree.Ancestors
import SwiftAudit.Swift.Statement

namespace SwiftAudit.Swift

-- The children that are statements have names, and are no comments.
def isStatement (n : Node) : Bool := n.label.named && !n.isComment

theorem statementsIn_eq (block : Node) : statementsIn block = block.children.filter isStatement := by
  rw [statementsIn, Node.namedChildren, List.filter_filter]
  apply List.filter_congr
  intro n _
  rw [isStatement, Bool.and_comm]

theorem mem_statementsIn_iff {block n : Node} :
    n ∈ statementsIn block ↔ n ∈ block.children ∧ isStatement n := by
  rw [statementsIn_eq, List.mem_filter]

theorem nodup_statementsIn (block : Node) : (statementsIn block).Nodup := by
  rw [statementsIn_eq]
  exact block.nodup_children.filter _

theorem parent?_of_mem_statementsIn {block n : Node} (h : n ∈ statementsIn block) :
    n.parent? = some block :=
  Node.parent?_child (mem_statementsIn_iff.mp h).1

-- What follows a statement in its list are those of its later siblings that are statements.
theorem pair_infix_statementsIn_iff {block n next : Node} (hn : n ∈ block.children) :
    [n, next] <:+: statementsIn block ↔
      isStatement n ∧ (n.laterSiblings.filter isStatement).head? = some next := by
  obtain ⟨before, hchildren⟩ := Node.children_eq_append hn
  by_cases hstatement : isStatement n
  · have hlist : statementsIn block =
        before.filter isStatement ++ n :: n.laterSiblings.filter isStatement := by
      rw [statementsIn_eq, hchildren, List.filter_append, List.filter_cons_of_pos hstatement]
    have hnodup := nodup_statementsIn block
    rw [hlist] at hnodup
    rw [hlist, pair_infix_iff hnodup]
    exact (and_iff_right hstatement).symm
  · constructor
    · intro hpair
      have hm : n ∈ statementsIn block := hpair.subset List.mem_cons_self
      exact absurd (mem_statementsIn_iff.mp hm).2 hstatement
    · intro h
      exact absurd h.1 hstatement

theorem isComment_iff {n : Node} : n.isComment ↔ n.kind ∈ ["comment", "multiline_comment"] := by
  rw [Node.isComment, Label.isComment, Bool.or_eq_true, beq_iff_eq, beq_iff_eq, List.mem_pair]
  rfl

theorem not_isComment_of_kind {n : Node} {kind : String} (h : n.kind = kind)
    (hkind : kind ∉ ["comment", "multiline_comment"]) : ¬n.isComment := by
  rwa [isComment_iff, h]

theorem not_isComment_of_isStatement {n : Node} (h : isStatement n) : ¬n.isComment := by
  rw [isStatement, Bool.and_eq_true] at h
  simpa using h.2

-- Comments alone are no statements.
theorem statementsIn_eq_nil {block : Node} (h : ∀ c ∈ block.namedChildren, c.isComment) :
    statementsIn block = [] := by
  apply List.filter_eq_nil_iff.mpr
  intro c hc
  simpa using h c hc

theorem kind_of_isReturn {source : Source} {n : Node} (h : isReturn source n) :
    n.kind = "control_transfer_statement" := by
  rw [isReturn, Bool.and_eq_true] at h
  exact beq_iff_eq.mp h.1

theorem not_isComment_of_isReturn {source : Source} {n : Node} (h : isReturn source n) :
    ¬n.isComment :=
  not_isComment_of_kind (kind_of_isReturn h) (by decide)

end SwiftAudit.Swift
