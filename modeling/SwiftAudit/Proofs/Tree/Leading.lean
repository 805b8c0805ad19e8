import Mathlib.Data.List.Find
import Mathlib.Logic.Relation
import SwiftAudit.Proofs.Tree.Ancestors

namespace SwiftAudit.Node

-- No comment stands on the way from a node down to another one, which is no comment itself.
-- The node to start from may be one.
def Reaches (n d : Node) : Prop :=
  d ∈ n.preorder ∧ ∀ e ∈ n.preorder, e ≠ n → d ∈ e.preorder → ¬e.isComment

instance (n d : Node) : Decidable (n.Reaches d) :=
  inferInstanceAs (Decidable (_ ∧ _))

def isTokenOf (n d : Node) : Bool := d.children.isEmpty && decide (n.Reaches d)

-- The first leaf that is reached, in the order of the text.
def firstToken? (n : Node) : Option Node := n.preorder.find? n.isTokenOf

theorem reaches_self (n : Node) : n.Reaches n := by
  refine ⟨self_mem_preorder n, fun e he hne hn => ?_⟩
  obtain rfl | ⟨child, hchild, he⟩ := mem_preorder_iff.mp he
  · exact absurd rfl hne
  · exact absurd rfl (ne_of_mem_child hchild ((preorder_sublist he).subset hn))

theorem reaches_child {n child d : Node} (hchild : child ∈ n.children) (h : d ∈ child.preorder) :
    n.Reaches d ↔ ¬child.isComment ∧ child.Reaches d := by
  have hn := mem_preorder_of_child hchild h
  constructor
  · rintro ⟨-, hway⟩
    have hself := mem_preorder_of_child hchild (self_mem_preorder child)
    refine ⟨hway child hself (ne_of_mem_child hchild (self_mem_preorder child)) h, h, ?_⟩
    intro e he _ hde
    exact hway e (mem_preorder_of_child hchild he) (ne_of_mem_child hchild he) hde
  · rintro ⟨hcomment, -, hway⟩
    refine ⟨hn, fun e he hne hde => ?_⟩
    obtain rfl | ⟨other, hother, he⟩ := mem_preorder_iff.mp he
    · exact absurd rfl hne
    · -- the way down to the node goes through one child only
      obtain rfl := eq_of_mem_siblings hchild hother h ((preorder_sublist he).subset hde)
      by_cases hec : e = child
      · rwa [hec]
      · exact hway e he hec hde

theorem firstToken?_of_leaf {n : Node} (h : n.children = []) : n.firstToken? = some n := by
  have hself := reaches_self n
  rw [firstToken?, preorder_eq, List.find?_cons_of_pos (by simp [isTokenOf, h, hself])]

theorem find?_isTokenOf_child {n child : Node} (hchild : child ∈ n.children) :
    child.preorder.find? n.isTokenOf =
      if child.isComment then none else child.firstToken? := by
  split
  · rename_i hcomment
    apply List.find?_eq_none.mpr
    intro d hd htoken
    have hreaches : n.Reaches d := by
      simp only [isTokenOf, Bool.and_eq_true, decide_eq_true_eq] at htoken
      exact htoken.2
    exact ((reaches_child hchild hd).mp hreaches).1 hcomment
  · rename_i hcomment
    apply List.find?_congr
    intro d hd
    simp only [isTokenOf, reaches_child hchild hd, hcomment, Bool.false_eq_true,
      not_false_eq_true, true_and]

-- Below an inner node the first token is the one of a child. What stands before that child are
-- comments, and nodes without a token.
theorem exists_child_of_firstToken? {n token : Node} (h : n.children ≠ [])
    (htoken : n.firstToken? = some token) :
    ∃ before child after, n.children = before ++ child :: after ∧ ¬child.isComment ∧
      child.firstToken? = some token ∧
      ∀ other ∈ before, ¬other.isComment → other.firstToken? = none := by
  have hinner : ¬n.isTokenOf n := by simp [isTokenOf, h]
  rw [firstToken?, preorder_eq, List.find?_cons_of_neg hinner, List.find?_flatMap,
    List.findSome?_eq_some_iff] at htoken
  obtain ⟨before, child, after, hchildren, htoken, hbefore⟩ := htoken
  have hchild : child ∈ n.children := by simp [hchildren]
  rw [find?_isTokenOf_child hchild, Option.ite_none_left_eq_some] at htoken
  refine ⟨before, child, after, hchildren, htoken.1, htoken.2, ?_⟩
  intro other hm hcomment
  have hother : other ∈ n.children := by simp [hchildren, hm]
  have hnone := hbefore other hm
  rwa [find?_isTokenOf_child hother, if_neg hcomment] at hnone

-- The child that leads a node: the first one that is no comment.
def lead? (n : Node) : Option Node := n.children.find? (!·.isComment)

theorem leadingLeafOf?_eq (parent : Tree) (places : List Place) (trees : List Tree) :
    Tree.leadingLeafOf? trees =
      ((placed parent places trees).find? (!·.isComment)).bind (·.tree.leadingLeaf?) := by
  induction trees with
  | nil => rfl
  | cons tree later ih =>
      have hnode : (⟨tree, ⟨parent, later⟩ :: places⟩ : Node).isComment = tree.label.isComment := rfl
      by_cases hcomment : tree.label.isComment
      · rw [Tree.leadingLeafOf?, if_pos hcomment, ih, placed, List.find?_cons_of_neg]
        simp [hnode, hcomment]
      · rw [Tree.leadingLeafOf?, if_neg hcomment, placed, List.find?_cons_of_pos]
        · rfl
        · simp [hnode, hcomment]

theorem leadingLeaf?_of_leaf {n : Node} (h : n.children = []) :
    n.tree.leadingLeaf? = some n.label := by
  obtain ⟨⟨label, trees⟩, places⟩ := n
  cases trees with
  | nil => rfl
  | cons tree later => cases h

theorem leadingLeaf?_of_inner {n : Node} (h : n.children ≠ []) :
    n.tree.leadingLeaf? = n.lead?.bind (·.tree.leadingLeaf?) := by
  obtain ⟨⟨label, trees⟩, places⟩ := n
  cases trees with
  | nil => exact absurd rfl h
  | cons tree later =>
      have hleading := leadingLeafOf?_eq (.node label (tree :: later)) places (tree :: later)
      exact hleading

-- A token leads a node if it is its first one and nothing but comments hides it: every other
-- node before it has a token of its own.
structure LedBy (n token : Node) : Prop where
  first : n.firstToken? = some token
  unhidden : ∀ m, m ≠ n → ¬m.isComment → [m, token].Sublist n.preorder → m.firstToken?.isSome

instance (n token : Node) : Decidable (n.LedBy token) :=
  decidable_of_iff (n.firstToken? = some token ∧ ∀ m ∈ n.preorder, m ≠ n → ¬m.isComment →
      [m, token].Sublist n.preorder → m.firstToken?.isSome)
    ⟨fun ⟨first, unhidden⟩ =>
      ⟨first, fun m hne hm hsub => unhidden m (hsub.subset List.mem_cons_self) hne hm hsub⟩,
      fun ⟨first, unhidden⟩ => ⟨first, fun m _ => unhidden m⟩⟩

-- A child whose later siblings hold the token stands before it.
theorem before_of_mem_siblings {n child other token : Node} {before after : List Node}
    (hchildren : n.children = before ++ child :: after) (hother : other ∈ before)
    (htoken : token ∈ child.preorder) : [other, token].Sublist n.preorder := by
  have hfront : [other].Sublist (before.flatMap preorder) :=
    List.singleton_sublist.mpr (List.mem_flatMap.mpr ⟨other, hother, self_mem_preorder other⟩)
  have hback : [token].Sublist ((child :: after).flatMap preorder) :=
    List.singleton_sublist.mpr (List.mem_flatMap.mpr ⟨child, List.mem_cons_self, htoken⟩)
  rw [preorder_eq, hchildren, List.flatMap_append]
  exact (hfront.append hback).cons n

theorem mem_of_firstToken? {n token : Node} (h : n.firstToken? = some token) :
    token ∈ n.preorder :=
  List.mem_of_find?_eq_some h

-- By induction on the node: the child that leads it is the one that holds the token, as every
-- child before would hide the token, or is a comment.
theorem LedBy.leadingLeaf? {n token : Node} (h : n.LedBy token) :
    n.tree.leadingLeaf? = some token.label := by
  induction n using childInduction with
  | node n ih =>
      by_cases hleaf : n.children = []
      · have hself := h.first
        rw [firstToken?_of_leaf hleaf] at hself
        rw [leadingLeaf?_of_leaf hleaf, Option.some.inj hself]
      · obtain ⟨before, child, after, hchildren, hcomment, htoken, hbefore⟩ :=
          exists_child_of_firstToken? hleaf h.first
        have hchild : child ∈ n.children := by simp [hchildren]
        have hcomments : ∀ other ∈ before, other.isComment := by
          intro other hm
          by_contra hother
          have hmem : other ∈ n.children := by simp [hchildren, hm]
          have hsome := h.unhidden other (ne_of_mem_child hmem (self_mem_preorder other)) hother
            (before_of_mem_siblings hchildren hm (mem_of_firstToken? htoken))
          simp [hbefore other hm hother] at hsome
        have hlead : n.lead? = some child := by
          rw [lead?, hchildren, List.find?_append, List.find?_eq_none.mpr, Option.none_or,
            List.find?_cons_of_pos]
          · simpa using hcomment
          · simpa using hcomments
        have hled : child.LedBy token := by
          refine ⟨htoken, fun m hne hm hsub => ?_⟩
          have hbelow : m ∈ child.preorder := hsub.subset List.mem_cons_self
          have hpart := preorder_sublist
            (mem_preorder_of_child hchild (self_mem_preorder child))
          exact h.unhidden m (ne_of_mem_child hchild hbelow) hm (hsub.trans hpart)
        rw [leadingLeaf?_of_inner hleaf, hlead]
        exact ih child hchild hled

-- The other way round, only comments stand before the way down to the leading leaf, so that no
-- other token comes first.
theorem firstToken?_of_leadingLeaf? {n : Node} {leaf : Label}
    (h : n.tree.leadingLeaf? = some leaf) :
    ∃ token, n.firstToken? = some token ∧ token.label = leaf := by
  induction n using childInduction with
  | node n ih =>
      by_cases hleaf : n.children = []
      · rw [leadingLeaf?_of_leaf hleaf] at h
        exact ⟨n, firstToken?_of_leaf hleaf, Option.some.inj h⟩
      · rw [leadingLeaf?_of_inner hleaf] at h
        obtain ⟨child, hlead, h⟩ := Option.bind_eq_some_iff.mp h
        obtain ⟨hcomment, before, after, hchildren, hbefore⟩ :=
          List.find?_eq_some_iff_append.mp hlead
        have hchild : child ∈ n.children := by simp [hchildren]
        obtain ⟨token, htoken, hlabel⟩ := ih child hchild h
        have hinner : ¬n.isTokenOf n := by simp [isTokenOf, hleaf]
        refine ⟨token, ?_, hlabel⟩
        rw [firstToken?, preorder_eq, List.find?_cons_of_neg hinner, List.find?_flatMap,
          List.findSome?_eq_some_iff]
        refine ⟨before, child, after, hchildren, ?_, ?_⟩
        · rw [find?_isTokenOf_child hchild, if_neg (by simpa using hcomment), htoken]
        · intro other hm
          have hother : other ∈ n.children := by simp [hchildren, hm]
          rw [find?_isTokenOf_child hother, if_pos (by simpa using hbefore other hm)]

-- The way down from a node by the child that leads it comes to an end for every tree: at a leaf,
-- which is the leading one, or above nothing but comments.
theorem exists_end_of_descent (n : Node) :
    ∃ last, Relation.ReflTransGen (fun a b => a.lead? = some b) n last ∧ last.lead? = none ∧
      n.tree.leadingLeaf? = if last.children = [] then some last.label else none := by
  induction n using childInduction with
  | node n ih =>
      cases hlead : n.lead? with
      | none =>
          refine ⟨n, .refl, hlead, ?_⟩
          by_cases hleaf : n.children = []
          · rw [if_pos hleaf, leadingLeaf?_of_leaf hleaf]
          · rw [if_neg hleaf, leadingLeaf?_of_inner hleaf, hlead, Option.bind_none]
      | some child =>
          have hchild : child ∈ n.children := List.mem_of_find?_eq_some hlead
          obtain ⟨last, hway, hlast, hleaf⟩ := ih child hchild
          have hinner : n.children ≠ [] := List.ne_nil_of_mem hchild
          refine ⟨last, .head hlead hway, hlast, ?_⟩
          rw [leadingLeaf?_of_inner hinner, hlead, Option.bind_some, hleaf]

-- No node reaches out of the span of its parent.
def NestsSpans (n : Node) : Prop :=
  ∀ m ∈ n.preorder, ∀ child ∈ m.children,
    m.label.start ≤ child.label.start ∧ child.label.stop ≤ m.label.stop

instance (n : Node) : Decidable n.NestsSpans :=
  inferInstanceAs (Decidable (∀ m ∈ n.preorder, _))

theorem NestsSpans.within {n d : Node} (h : n.NestsSpans) (hd : d ∈ n.preorder) :
    n.label.start ≤ d.label.start ∧ d.label.stop ≤ n.label.stop := by
  induction n using childInduction with
  | node n ih =>
      obtain rfl | ⟨child, hchild, hd⟩ := mem_preorder_iff.mp hd
      · exact ⟨Nat.le_refl _, Nat.le_refl _⟩
      · have hspan := h n (self_mem_preorder n) child hchild
        have hbelow := ih child hchild
          (fun m hm => h m (mem_preorder_of_child hchild hm)) hd
        omega

end SwiftAudit.Node
