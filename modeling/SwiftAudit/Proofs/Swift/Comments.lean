import SwiftAudit.Proofs.Swift.Statements
import SwiftAudit.Proofs.Tree.Pruned

namespace SwiftAudit

-- The nodes in which comments may stand between statements.
def blockKinds : List String := ["statements", "if_statement", "catch_block"]

-- What stays when some nodes are chosen to go: only comments in blocks do go.
def stays (chosen : Node → Bool) (n : Node) : Bool :=
  !(chosen n && n.isComment && n.parentKind?.any blockKinds.contains)

-- The same bytes with a tree without the chosen comments.
def Source.without (source : Source) (chosen : Node → Bool) : Source :=
  { source with tree := source.root.prunedTree (stays chosen) }

-- Comments hold nothing, and have no role in their parents.
def Node.HasPlainComments (n : Node) : Prop :=
  ∀ m ∈ n.preorder, m.isComment → m.children = [] ∧ m.label.fields = []

instance (n : Node) : Decidable n.HasPlainComments :=
  inferInstanceAs (Decidable (∀ m ∈ n.preorder, _))

variable {chosen : Node → Bool} {n : Node}

theorem isComment_of_not_stays (h : ¬stays chosen n) : n.isComment := by
  simp only [stays, Bool.not_eq_true', Bool.not_eq_false, Bool.and_eq_true] at h
  exact h.1.2

theorem stays_of_not_isComment (h : ¬n.isComment) : stays chosen n := by
  by_contra hgone
  exact h (isComment_of_not_stays hgone)

-- A node of another kind keeps all its children.
theorem stays_child {child : Node} (h : n.kind ∉ blockKinds) (hchild : child ∈ n.children) :
    stays chosen child := by
  have hparent : child.parentKind? = some n.kind := by
    rw [Node.parentKind?, Node.parent?_child hchild]
    rfl
  simp [stays, hparent, h]

theorem children_pruned_of_notMem (h : n.kind ∉ blockKinds) :
    (n.pruned (stays chosen)).children = n.children.map (Node.pruned (stays chosen)) := by
  rw [Node.children_pruned, List.filter_eq_self.mpr fun child => stays_child h]

-- What comments are not does not depend on which comments are left.
theorem filter_stays {p : Node → Bool} (hp : ∀ n, p n → ¬n.isComment) (nodes : List Node) :
    (nodes.filter (stays chosen)).filter p = nodes.filter p := by
  rw [List.filter_filter]
  apply List.filter_congr
  intro n _
  by_cases hn : p n
  · rw [hn, stays_of_not_isComment (hp n hn)]
    rfl
  · simp [hn]

namespace Swift

variable (chosen)

theorem statementsIn_pruned (block : Node) :
    statementsIn (block.pruned (stays chosen)) =
      (statementsIn block).map (Node.pruned (stays chosen)) := by
  have hsame : isStatement ∘ Node.pruned (stays chosen) = isStatement := rfl
  rw [statementsIn_eq, Node.children_pruned, List.filter_map, hsame,
    filter_stays fun _ => not_isComment_of_isStatement, ← statementsIn_eq]

-- The search for a block goes past a comment.
theorem blockAmong_cons_comment {comment : Node} (h : comment.isComment) (inSwitch opened : Bool)
    (rest : List Node) :
    blockAmong inSwitch opened (comment :: rest) = blockAmong inSwitch opened rest := by
  rcases List.mem_pair.mp (isComment_iff.mp h) with hkind | hkind <;> simp [blockAmong, hkind]

theorem blockAmong_pruned (inSwitch opened : Bool) (nodes : List Node) :
    blockAmong inSwitch opened ((nodes.filter (stays chosen)).map (Node.pruned (stays chosen))) =
      (blockAmong inSwitch opened nodes).map (Node.pruned (stays chosen)) := by
  induction nodes generalizing opened with
  | nil => rfl
  | cons n rest ih =>
      by_cases hn : stays chosen n
      · rw [List.filter_cons_of_pos hn, List.map_cons, blockAmong, blockAmong, Node.kind_pruned]
        split
        · exact ih true
        · split
          · rfl
          · split
            · rfl
            · exact ih opened
      · rw [List.filter_cons_of_neg hn, ih, blockAmong_cons_comment (isComment_of_not_stays hn)]

theorem block?_pruned (n : Node) :
    block? (n.pruned (stays chosen)) = (block? n).map (Node.pruned (stays chosen)) := by
  rw [block?, Node.children_pruned, blockAmong_pruned, Node.kind_pruned, block?]

theorem statements_pruned (n : Node) :
    statements (n.pruned (stays chosen)) = (statements n).map (Node.pruned (stays chosen)) := by
  rw [statements, block?_pruned, statements]
  cases block? n with
  | none => rfl
  | some block => exact statementsIn_pruned chosen block

theorem isReturn_pruned (source : Source) (n : Node) :
    isReturn (source.without chosen) (n.pruned (stays chosen)) = isReturn source n := by
  rw [isReturn, Node.kind_pruned, isReturn]
  by_cases hkind : n.kind = "control_transfer_statement"
  · have hblock : n.kind ∉ blockKinds := by
      rw [hkind]
      decide
    rw [children_pruned_of_notMem hblock]
    cases n.children <;> rfl
  · rw [beq_eq_false_iff_ne.mpr hkind, Bool.false_and, Bool.false_and]

end Swift

variable {source : Source}

theorem preorder_without (chosen : Node → Bool) (h : source.root.HasPlainComments) :
    (source.without chosen).root.preorder =
      (source.root.preorder.filter (stays chosen)).map (Node.pruned (stays chosen)) := by
  have hroot : stays chosen source.root := by
    simp [stays, Source.root, Node.root, Node.parentKind?, Node.parent?]
  apply Node.preorder_pruned _ hroot
  intro m hm hgone
  exact (h m hm (isComment_of_not_stays hgone)).1

-- No two nodes that stay become one.
theorem pruned_injOn (h : source.root.HasPlainComments) {n m : Node}
    (hn : n ∈ source.root.preorder) (hm : m ∈ source.root.preorder) (hstays : stays chosen n)
    (hstays' : stays chosen m) (hsame : n.pruned (stays chosen) = m.pruned (stays chosen)) :
    n = m := by
  have hnodup := (source.without chosen).root.nodup_preorder
  rw [preorder_without chosen h] at hnodup
  exact List.inj_on_of_nodup_map hnodup (List.mem_filter.mpr ⟨hn, hstays⟩)
    (List.mem_filter.mpr ⟨hm, hstays'⟩) hsame

theorem filter_without {p p' : Node → Bool} (chosen : Node → Bool)
    (h : source.root.HasPlainComments) (hp : ∀ n, p n → ¬n.isComment)
    (hsame : ∀ n ∈ source.root.preorder, p' (n.pruned (stays chosen)) = p n) :
    (source.without chosen).root.preorder.filter p' =
      (source.root.preorder.filter p).map (Node.pruned (stays chosen)) := by
  rw [preorder_without chosen h, List.filter_map, ← filter_stays hp source.root.preorder]
  congr 1
  apply List.filter_congr
  intro n hn
  exact hsame n (List.mem_filter.mp hn).1

end SwiftAudit
