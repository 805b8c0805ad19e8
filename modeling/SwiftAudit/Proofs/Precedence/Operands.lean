import Mathlib.Logic.ExistsUnique
import Mathlib.Logic.Relation
import SwiftAudit.Proofs.Lists
import SwiftAudit.Proofs.Swift.Operands
import SwiftAudit.Proofs.Tree.Ancestors
import SwiftAudit.Rule.OperatorPrecedence

namespace SwiftAudit.Rule.OperatorPrecedence

def isOperation (n : Node) : Bool := Swift.isBinary n.kind

-- An operation stands between two operands, which are different children of it. No other child
-- is an operation.
structure HasTwoOperands (n : Node) : Prop where
  two : (Swift.operands n).length = 2
  distinct : (Swift.operands n).Nodup
  only : ∀ child ∈ n.children, isOperation child → child ∈ Swift.operands n

-- The operations of a tree as the grammar gives them.
def IsBinary (root : Node) : Prop := ∀ n ∈ root.preorder, isOperation n → HasTwoOperands n

-- The operations that an operation leads to by way of operands, and itself.
def HasOperation : Node → Node → Prop :=
  Relation.ReflTransGen fun n operand => operand ∈ Swift.operands n ∧ isOperation operand

-- The operations that hang together at the top of a tree.
def cluster : Node → List Node :=
  Node.fold fun n below => if isOperation n then n :: below.flatten else []

theorem cluster_eq (n : Node) :
    cluster n = if isOperation n then n :: n.children.flatMap cluster else [] :=
  Node.fold_eq _ n

instance (n : Node) : Decidable (HasTwoOperands n) :=
  decidable_of_iff ((Swift.operands n).length = 2 ∧ (Swift.operands n).Nodup ∧
    ∀ child ∈ n.children, isOperation child → child ∈ Swift.operands n)
    ⟨fun ⟨two, distinct, only⟩ => ⟨two, distinct, only⟩,
      fun ⟨two, distinct, only⟩ => ⟨two, distinct, only⟩⟩

instance (root : Node) : Decidable (IsBinary root) :=
  inferInstanceAs (Decidable (∀ n ∈ root.preorder, _))

theorem IsBinary.below {n d : Node} (h : IsBinary n) (hd : d ∈ n.preorder) : IsBinary d :=
  fun m hm => h m ((Node.preorder_sublist hd).subset hm)

theorem IsBinary.child {n child : Node} (h : IsBinary n) (hchild : child ∈ n.children) :
    IsBinary child :=
  h.below (Node.mem_preorder_of_child hchild (Node.self_mem_preorder child))

theorem IsBinary.hasTwoOperands {n : Node} (h : IsBinary n) (hn : isOperation n) :
    HasTwoOperands n :=
  h n (Node.self_mem_preorder n) hn

theorem mem_cluster_self {n : Node} (h : isOperation n) : n ∈ cluster n := by
  rw [cluster_eq, if_pos h]
  exact List.mem_cons_self

theorem isOperation_of_mem_cluster {n d : Node} (h : d ∈ cluster n) : isOperation n := by
  rw [cluster_eq] at h
  by_contra hn
  rw [if_neg hn] at h
  cases h

-- What only operations have, the operands have as the children do.
theorem HasTwoOperands.flatMap_perm {α : Type} {n : Node} (h : HasTwoOperands n)
    {f : Node → List α} (hf : ∀ child, ¬isOperation child → f child = []) :
    ((Swift.operands n).flatMap f).Perm (n.children.flatMap f) := by
  have hoperations : ((Swift.operands n).filter isOperation).Perm
      (n.children.filter isOperation) := by
    apply (List.perm_ext_iff_of_nodup (h.distinct.filter _) (n.nodup_children.filter _)).mpr
    intro child
    rw [List.mem_filter, List.mem_filter]
    constructor
    · intro hm
      exact ⟨Swift.mem_children_of_mem_operands hm.1, hm.2⟩
    · intro hm
      exact ⟨h.only child hm.1 hm.2, hm.2⟩
  rw [← flatMap_filter_of_nil fun child (_ : child ∈ Swift.operands n) => hf child,
    ← flatMap_filter_of_nil fun child (_ : child ∈ n.children) => hf child]
  exact hoperations.flatMap_right f

theorem mem_cluster_operands {n d : Node} (h : IsBinary n) (hn : isOperation n) :
    d ∈ cluster n ↔ d = n ∨ ∃ operand ∈ Swift.operands n, d ∈ cluster operand := by
  have hchildren := (h.hasTwoOperands hn).flatMap_perm (f := cluster) fun child hchild => by
    rw [cluster_eq, if_neg hchild]
  rw [cluster_eq, if_pos hn, List.mem_cons, ← hchildren.mem_iff, List.mem_flatMap]

-- The operations that hang together are those to which operands lead.
theorem mem_cluster_iff {n d : Node} (h : IsBinary n) (hn : isOperation n) :
    d ∈ cluster n ↔ HasOperation n d := by
  induction n using Node.childInduction with
  | node n ih =>
      rw [mem_cluster_operands h hn, HasOperation, Relation.ReflTransGen.cases_head_iff, eq_comm]
      apply or_congr_right
      constructor
      · rintro ⟨operand, hoperand, hd⟩
        have hchild := Swift.mem_children_of_mem_operands hoperand
        have hoperation := isOperation_of_mem_cluster hd
        exact ⟨operand, ⟨hoperand, hoperation⟩,
          (ih operand hchild (h.child hchild) hoperation).mp hd⟩
      · rintro ⟨operand, ⟨hoperand, hoperation⟩, hd⟩
        have hchild := Swift.mem_children_of_mem_operands hoperand
        exact ⟨operand, hoperand, (ih operand hchild (h.child hchild) hoperation).mpr hd⟩

theorem isOperation_of_isMaximal {n : Node} (h : isMaximal n) : isOperation n := by
  rw [isMaximal, Bool.and_eq_true] at h
  exact h.1

theorem isMaximal_child {n child : Node} (h : child ∈ n.children) :
    isMaximal child = (isOperation child && !isOperation n) := by
  obtain ⟨later, hplaces⟩ := Node.places_child h
  rw [isMaximal, Node.parentKind?, Node.parent?, hplaces]
  rfl

-- What a tree leaves to the operations around it: the operations at its top, unless they are
-- complete.
def leftOpen (n : Node) : List Node := if isMaximal n then [] else cluster n

theorem leftOpen_child {n child : Node} (h : child ∈ n.children) :
    leftOpen child = if isOperation n then cluster child else [] := by
  rw [leftOpen, isMaximal_child h]
  by_cases hn : isOperation n
  · simp [hn]
  · by_cases hchild : isOperation child
    · simp [hn, hchild]
    · rw [cluster_eq, if_neg hchild, ite_self, if_neg hn]

theorem flatMap_leftOpen (n : Node) :
    n.children.flatMap leftOpen = if isOperation n then n.children.flatMap cluster else [] := by
  rw [List.flatMap_congr fun child => leftOpen_child]
  split
  · rfl
  · exact List.flatMap_eq_nil_iff.mpr fun _ _ => rfl

-- By induction on the tree: each operation is in the cluster of one maximal operation, or in what
-- is left open at the top.
theorem operations_perm (n : Node) :
    (n.preorder.filter isOperation).Perm
      ((n.preorder.filter isMaximal).flatMap cluster ++ leftOpen n) := by
  induction n using Node.childInduction with
  | node n ih =>
      have hbelow : ((n.children.flatMap Node.preorder).filter isOperation).Perm
          (((n.children.flatMap Node.preorder).filter isMaximal).flatMap cluster ++
            if isOperation n then n.children.flatMap cluster else []) := by
        rw [List.filter_flatMap, List.filter_flatMap, List.flatMap_assoc, ← flatMap_leftOpen]
        exact (List.Perm.flatMap_left _ ih).trans (List.flatMap_append_perm _ _ _).symm
      rw [Node.preorder_eq, leftOpen]
      by_cases hn : isOperation n
      · rw [if_pos hn] at hbelow
        have hcluster : cluster n = n :: n.children.flatMap cluster := by
          rw [cluster_eq, if_pos hn]
        rw [List.filter_cons_of_pos hn]
        by_cases hmaximal : isMaximal n
        · rw [List.filter_cons_of_pos hmaximal, if_pos hmaximal, List.append_nil,
            List.flatMap_cons, hcluster]
          exact (hbelow.trans List.perm_append_comm).cons n
        · rw [List.filter_cons_of_neg hmaximal, if_neg hmaximal, hcluster]
          exact (hbelow.cons n).trans List.perm_middle.symm
      · have hmaximal : ¬isMaximal n := fun hmaximal => hn (isOperation_of_isMaximal hmaximal)
        rw [if_neg hn] at hbelow
        rw [List.filter_cons_of_neg hn, List.filter_cons_of_neg hmaximal, if_neg hmaximal,
          cluster_eq, if_neg hn]
        exact hbelow

theorem leftOpen_root (tree : Tree) : leftOpen (.root tree) = [] := by
  have hmaximal : isMaximal (.root tree) = isOperation (.root tree) := Bool.and_true _
  rw [leftOpen, hmaximal, cluster_eq]
  split <;> rfl

-- The clusters of the maximal operations hold each operation of a whole tree once.
theorem operations_perm_root (tree : Tree) :
    ((Node.root tree).preorder.filter isOperation).Perm
      (((Node.root tree).preorder.filter isMaximal).flatMap cluster) := by
  have hperm := operations_perm (.root tree)
  rwa [leftOpen_root, List.append_nil] at hperm

theorem existsUnique_maximal {tree : Tree} (h : IsBinary (.root tree)) {d : Node}
    (hd : d ∈ (Node.root tree).preorder.filter isOperation) :
    ∃! n, n ∈ (Node.root tree).preorder.filter isMaximal ∧ HasOperation n d := by
  have hperm := operations_perm_root tree
  have hnodup := hperm.nodup_iff.mp ((Node.nodup_preorder _).filter _)
  have hmem : ∀ n ∈ (Node.root tree).preorder.filter isMaximal,
      (d ∈ cluster n ↔ HasOperation n d) := by
    intro n hn
    obtain ⟨hbelow, hmaximal⟩ := List.mem_filter.mp hn
    exact mem_cluster_iff (h.below hbelow) (isOperation_of_isMaximal hmaximal)
  obtain ⟨n, hn, hdn⟩ := List.mem_flatMap.mp (hperm.mem_iff.mp hd)
  refine ⟨n, ⟨hn, (hmem n hn).mp hdn⟩, ?_⟩
  intro m hm
  exact eq_of_mem_flatMap hnodup hm.1 hn ((hmem m hm.1).mpr hm.2) hdn

end SwiftAudit.Rule.OperatorPrecedence
