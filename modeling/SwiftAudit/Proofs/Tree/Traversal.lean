import SwiftAudit.Tree.Traversal

namespace SwiftAudit

-- The traversals of a tree by recursion on the tree, and what the ones that keep a list of what
-- is due have to do with them.
namespace Node

section Fold

variable {α : Type}

mutual

def foldAt (combine : Node → List α → α) : Tree → List Place → α
  | .node label children, places =>
    combine ⟨.node label children, places⟩
      (foldAmong combine children (.node label children) places)

def foldAmong (combine : Node → List α → α) : List Tree → Tree → List Place → List α
  | [], _, _ => []
  | tree :: later, parent, places =>
    foldAt combine tree (⟨parent, later⟩ :: places) :: foldAmong combine later parent places

end

-- The result for a node from the results for its children.
def fold (combine : Node → List α → α) (n : Node) : α := foldAt combine n.tree n.places

theorem foldAmong_eq (combine : Node → List α → α) (trees : List Tree) (parent : Tree)
    (places : List Place) :
    foldAmong combine trees parent places = (placed parent places trees).map (fold combine) := by
  induction trees with
  | nil => rfl
  | cons tree later ih => rw [foldAmong, ih, placed, List.map_cons, fold]

theorem fold_eq (combine : Node → List α → α) (n : Node) :
    n.fold combine = combine n (n.children.map (fold combine)) := by
  obtain ⟨⟨label, children⟩, places⟩ := n
  rw [fold, foldAt, foldAmong_eq, Node.children, Tree.children]

end Fold

-- All nodes of a tree, parents before children and siblings in order.
def preorder : Node → List Node := fold fun n below => n :: below.flatten

-- All nodes of a tree, parents after children.
def postorder : Node → List Node := fold fun n below => below.flatten ++ [n]

-- The events of a walk, those of the nodes below a node between its own two.
def bracketed : Node → List Event :=
  fold fun n below => .enter n :: below.flatten ++ [.leave n]

theorem preorder_eq (n : Node) : n.preorder = n :: n.children.flatMap preorder := fold_eq _ n

theorem postorder_eq (n : Node) : n.postorder = n.children.flatMap postorder ++ [n] := fold_eq _ n

theorem bracketed_eq (n : Node) :
    n.bracketed = .enter n :: n.children.flatMap bracketed ++ [.leave n] := fold_eq _ n

theorem map_tree_placed (parent : Tree) (places : List Place) (trees : List Tree) :
    (placed parent places trees).map (·.tree) = trees := by
  induction trees with
  | nil => rfl
  | cons tree later ih => rw [placed, List.map_cons, ih]

theorem map_tree_children (n : Node) : n.children.map (·.tree) = n.tree.children :=
  map_tree_placed _ _ _

theorem size_eq (tree : Tree) : tree.size = 1 + Tree.sizeAll tree.children := by
  cases tree
  rfl

theorem size_le_sizeAll {tree : Tree} {trees : List Tree} (h : tree ∈ trees) :
    tree.size ≤ Tree.sizeAll trees := by
  induction trees with
  | nil => cases h
  | cons head rest ih =>
      rw [Tree.sizeAll]
      rcases List.mem_cons.mp h with rfl | h
      · exact Nat.le_add_right _ _
      · exact Nat.le_trans (ih h) (Nat.le_add_left _ _)

theorem size_child_lt {n child : Node} (h : child ∈ n.children) :
    child.tree.size < n.tree.size := by
  have htree : child.tree ∈ n.tree.children := by
    rw [← map_tree_children]
    exact List.mem_map_of_mem h
  have hle := size_le_sizeAll htree
  rw [size_eq n.tree]
  omega

-- A property of all nodes that each has once its children have it.
@[elab_as_elim]
theorem childInduction {motive : Node → Prop}
    (node : ∀ n, (∀ child ∈ n.children, motive child) → motive n) (n : Node) : motive n :=
  node n fun child _ => childInduction node child
termination_by n.tree.size
decreasing_by exact size_child_lt ‹_›

-- What each node of a tree adds the same number of items to.
theorem length_flatMap_of_size {α : Type} {f : Node → List α} {share : Nat} {nodes : List Node}
    (h : ∀ n ∈ nodes, (f n).length = share * n.tree.size) :
    (nodes.flatMap f).length = share * Tree.sizeAll (nodes.map (·.tree)) := by
  induction nodes with
  | nil => rfl
  | cons n rest ih =>
      obtain ⟨hn, hrest⟩ := List.forall_mem_cons.mp h
      rw [List.flatMap_cons, List.length_append, hn, ih hrest, List.map_cons, Tree.sizeAll,
        Nat.mul_add]

theorem length_preorder (n : Node) : n.preorder.length = n.tree.size := by
  induction n using childInduction with
  | node n ih =>
      have hbelow : (n.children.flatMap preorder).length =
          1 * Tree.sizeAll (n.children.map (·.tree)) :=
        length_flatMap_of_size (by simpa using ih)
      rw [map_tree_children] at hbelow
      rw [preorder_eq, List.length_cons, hbelow, size_eq]
      omega

theorem length_bracketed (n : Node) : n.bracketed.length = 2 * n.tree.size := by
  induction n using childInduction with
  | node n ih =>
      have hbelow := length_flatMap_of_size ih
      rw [map_tree_children] at hbelow
      rw [bracketed_eq, List.length_append, List.length_cons, hbelow, size_eq, List.length_singleton]
      omega

end Node

section WorkingOff

variable {α : Type} {opens unfold : α → List α} {run : Nat → List α → List α}

-- A function works off what is due, as far as its fuel lasts, if it gives one item after the
-- other and what the item opens is due before the rest.
structure WorksOff (opens : α → List α) (run : Nat → List α → List α) : Prop where
  zero : ∀ due, run 0 due = []
  nil : ∀ fuel, run (fuel + 1) [] = []
  cons : ∀ fuel item due, run (fuel + 1) (item :: due) = item :: run fuel (opens item ++ due)

theorem flatMap_unfold_cons (hunfold : ∀ item, unfold item = item :: (opens item).flatMap unfold)
    (item : α) (due : List α) :
    (item :: due).flatMap unfold = item :: (opens item ++ due).flatMap unfold := by
  rw [List.flatMap_cons, hunfold, List.cons_append, List.flatMap_append]

-- With fuel for all that the due items unfold to, it gives just that.
theorem WorksOff.eq_flatMap (hrun : WorksOff opens run)
    (hunfold : ∀ item, unfold item = item :: (opens item).flatMap unfold) {fuel : Nat}
    {due : List α} (h : (due.flatMap unfold).length ≤ fuel) :
    run fuel due = due.flatMap unfold := by
  induction fuel generalizing due with
  | zero => rw [hrun.zero, List.length_eq_zero_iff.mp (Nat.le_zero.mp h)]
  | succ fuel ih =>
      cases due with
      | nil => exact hrun.nil fuel
      | cons item due =>
          rw [flatMap_unfold_cons hunfold, List.length_cons] at h
          rw [hrun.cons, ih (Nat.le_of_succ_le_succ h), flatMap_unfold_cons hunfold]

theorem WorksOff.eq_unfold (hrun : WorksOff opens run)
    (hunfold : ∀ item, unfold item = item :: (opens item).flatMap unfold) (item : α) :
    run (unfold item).length [item] = unfold item := by
  have hone : [item].flatMap unfold = unfold item := List.flatMap_singleton unfold item
  rw [hrun.eq_flatMap hunfold (Nat.le_of_eq (congrArg List.length hone)), hone]

end WorkingOff

theorem Node.visit_worksOff : WorksOff children visit where
  zero _ := rfl
  nil _ := rfl
  cons _ _ _ := rfl

-- What is visited with a list of nodes that are due is what recursion finds.
theorem Node.all_eq_preorder (n : Node) : n.all = n.preorder := by
  rw [all, ← length_preorder]
  exact visit_worksOff.eq_unfold preorder_eq n

namespace Event

theorem walk_worksOff : WorksOff next walk where
  zero _ := rfl
  nil _ := rfl
  cons _ _ _ := rfl

-- All that comes of an event that is due.
def unfolded : Event → List Event
  | enter n => n.bracketed
  | leave n => [leave n]

theorem unfolded_eq (event : Event) : event.unfolded = event :: event.next.flatMap unfolded := by
  cases event with
  | leave n => rfl
  | enter n =>
      rw [unfolded, Node.bracketed_eq, next, List.flatMap_append, List.flatMap_map]
      rfl

end Event

-- A walk that keeps a list of the events that are due brackets them as recursion does.
theorem Node.events_eq_bracketed (n : Node) : n.events = n.bracketed := by
  rw [events, ← length_bracketed]
  exact Event.walk_worksOff.eq_unfold Event.unfolded_eq (.enter n)

end SwiftAudit
