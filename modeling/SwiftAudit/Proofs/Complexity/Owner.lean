import SwiftAudit.Proofs.Lists
import SwiftAudit.Proofs.Tree.Ancestors
import SwiftAudit.Rule.Complexity

namespace SwiftAudit.Rule.Complexity

-- The function that a node is in: of those that enclose the node the nearest one.
def owner? (n : Node) : Option Node := n.ancestors.find? isFunction

def isDecisionOf (owner : Option Node) (d : Node) : Bool :=
  isDecision d && decide (owner? d = owner)

-- How many of some nodes are decisions of a function, or of none.
def decisionsOf (owner : Option Node) (nodes : List Node) : Nat :=
  nodes.countP (isDecisionOf owner)

theorem isDecision_of_isFunction {n : Node} (h : isFunction n) : isDecision n = false := by
  simp only [isFunction, Swift.functionKinds, List.contains_iff_mem, List.mem_cons,
    List.not_mem_nil, or_false] at h
  rcases h with h | h | h <;> simp [isDecision, Swift.decisionKinds, h]

theorem mem_ancestors_of_owner? {n f : Node} (h : owner? n = some f) : f ∈ n.ancestors :=
  List.mem_of_find?_eq_some h

theorem isFunction_of_owner? {n f : Node} (h : owner? n = some f) : isFunction f :=
  List.find?_some h

theorem owner?_child {n child : Node} (h : child ∈ n.children) :
    owner? child = if isFunction n then some n else owner? n := by
  rw [owner?, Node.ancestors_child h, List.find?_cons]
  cases isFunction n <;> rfl

-- What is below a function is owned by that function or by one below it, and so not by an owner
-- of the function.
theorem owner?_ne_of_below {n d : Node} (hn : isFunction n) (hd : d ∈ n.preorder) (hne : d ≠ n) :
    owner? d ≠ owner? n := by
  rcases Node.ancestors_below hd with rfl | ⟨between, hancestors, hbetween⟩
  · exact absurd rfl hne
  intro howner
  obtain ⟨f, hf, hdepth⟩ : ∃ f, owner? d = some f ∧ n.depth ≤ f.depth := by
    rw [owner?, hancestors, List.find?_append, List.find?_cons_of_pos hn]
    cases hfound : between.find? isFunction with
    | none => exact ⟨n, rfl, Nat.le_refl _⟩
    | some f => exact ⟨f, rfl, Nat.le_of_lt (hbetween f (List.mem_of_find?_eq_some hfound))⟩
  rw [howner] at hf
  have hlt := Node.depth_lt_of_mem_ancestors (mem_ancestors_of_owner? hf)
  omega

theorem decisionsOf_cons (owner : Option Node) (n : Node) (nodes : List Node) :
    decisionsOf owner (n :: nodes) =
      decisionsOf owner nodes + (if isDecisionOf owner n then 1 else 0) := List.countP_cons

theorem decisionsOf_append (owner : Option Node) (a b : List Node) :
    decisionsOf owner (a ++ b) = decisionsOf owner a + decisionsOf owner b := List.countP_append

-- Around a function no decision inside of it counts.
theorem decisionsOf_function {n : Node} (h : isFunction n) :
    decisionsOf (owner? n) n.preorder = 0 := by
  rw [decisionsOf, List.countP_eq_zero]
  intro d hd hdecision
  obtain ⟨hkind, howner⟩ : isDecision d ∧ owner? d = owner? n := by
    simpa [isDecisionOf] using hdecision
  by_cases hne : d = n
  · rw [hne, isDecision_of_isFunction h] at hkind
    cases hkind
  · exact owner?_ne_of_below h hd hne howner

theorem decisionsOf_self {f : Node} (h : isFunction f) (owner : Option Node) :
    decisionsOf owner f.preorder = decisionsOf owner (f.children.flatMap Node.preorder) := by
  rw [Node.preorder_eq, decisionsOf_cons, isDecisionOf, isDecision_of_isFunction h]
  rfl

theorem mem_of_owner? {tree : Tree} {d f : Node} (hd : d ∈ (Node.root tree).preorder)
    (h : owner? d = some f) : f ∈ (Node.root tree).preorder ∧ d ∈ f.preorder :=
  (Node.mem_of_mem_ancestors hd (mem_ancestors_of_owner? h)).resolve_right nofun

-- The decisions that a function owns in a file are all below it.
theorem decisionsOf_root {tree : Tree} {f : Node} (h : f ∈ (Node.root tree).preorder) :
    decisionsOf (some f) (Node.root tree).preorder = decisionsOf (some f) f.preorder := by
  refine countP_of_infix (Node.preorder_infix h) (Node.nodup_preorder _) ?_
  intro d hd hdecision
  have howner : owner? d = some f := by
    simp only [isDecisionOf, Bool.and_eq_true, decide_eq_true_eq] at hdecision
    exact hdecision.2
  exact (mem_of_owner? hd howner).2

end SwiftAudit.Rule.Complexity
