import SwiftAudit.Proofs.Tree.Ancestors

namespace SwiftAudit.Node

-- Some nodes of a tree are cut off, with all that is below them. The others stay what they are,
-- at a new place.
variable (keep : Node → Bool)

def remains : Node → List Tree :=
  fold fun n below => if keep n then [.node n.label below.flatten] else []

-- What stays of a subtree that stays itself.
def prunedTree (n : Node) : Tree := .node n.label (n.children.flatMap (remains keep))

def prunedPlaces : List Place → List Place
  | [] => []
  | place :: places =>
    ⟨prunedTree keep ⟨place.parent, places⟩,
      ((placed place.parent places place.later).filter keep).map (prunedTree keep)⟩ ::
        prunedPlaces places

def pruned (n : Node) : Node := ⟨prunedTree keep n, prunedPlaces keep n.places⟩

theorem remains_eq (n : Node) :
    remains keep n = if keep n then [prunedTree keep n] else [] := by
  rw [remains, fold_eq, prunedTree]
  rfl

theorem prunedTree_eq (n : Node) :
    prunedTree keep n = .node n.label ((n.children.filter keep).map (prunedTree keep)) := by
  rw [prunedTree, funext (remains_eq keep), flatMap_ite_singleton]

variable (n : Node)

@[simp] theorem label_pruned : (n.pruned keep).label = n.label := rfl

@[simp] theorem kind_pruned : (n.pruned keep).kind = n.kind := rfl

-- The siblings behind a node lose the same ones of them whether they are met from the node or from
-- their parent.
theorem placed_pruned (parent : Tree) (places : List Place) (trees : List Tree) :
    placed (prunedTree keep ⟨parent, places⟩) (prunedPlaces keep places)
        (((placed parent places trees).filter keep).map (prunedTree keep)) =
      ((placed parent places trees).filter keep).map (pruned keep) := by
  induction trees with
  | nil => rfl
  | cons tree later ih =>
      rw [placed, List.filter_cons]
      split
      · rw [List.map_cons, placed, ih, List.map_cons]
        rfl
      · exact ih

theorem children_pruned :
    (n.pruned keep).children = (n.children.filter keep).map (pruned keep) := by
  have hplaced := placed_pruned keep n.tree n.places n.tree.children
  rw [children, pruned, prunedTree_eq]
  rw [prunedTree_eq] at hplaced
  exact hplaced

theorem laterSiblings_pruned :
    (n.pruned keep).laterSiblings = (n.laterSiblings.filter keep).map (pruned keep) := by
  obtain ⟨tree, places⟩ := n
  cases places with
  | nil => rfl
  | cons place places => exact placed_pruned keep place.parent places place.later

@[simp] theorem parent?_pruned : (n.pruned keep).parent? = n.parent?.map (pruned keep) := by
  obtain ⟨tree, places⟩ := n
  cases places <;> rfl

@[simp] theorem parentKind?_pruned : (n.pruned keep).parentKind? = n.parentKind? := by
  rw [parentKind?, parent?_pruned, Option.map_map]
  rfl

variable {keep n}

-- Where only leaves are cut off, all other nodes of the tree stay, in their order.
theorem preorder_pruned (h : ∀ m ∈ n.preorder, ¬keep m → m.children = []) (hn : keep n) :
    (n.pruned keep).preorder = (n.preorder.filter keep).map (pruned keep) := by
  induction n using childInduction with
  | node n ih =>
      have hcut : ∀ child ∈ n.children, ¬keep child →
          (child.preorder.filter keep).map (pruned keep) = [] := by
        intro child hchild hcut
        have hleaf := h child (mem_preorder_of_child hchild (self_mem_preorder child)) hcut
        rw [preorder_eq, hleaf, List.flatMap_nil, List.filter_cons_of_neg hcut]
        rfl
      rw [preorder_eq, children_pruned, List.flatMap_map, preorder_eq n,
        List.filter_cons_of_pos hn, List.map_cons, List.filter_flatMap, List.map_flatMap,
        ← flatMap_filter_of_nil hcut]
      congr 1
      apply List.flatMap_congr
      intro child hm
      obtain ⟨hchild, hkept⟩ := List.mem_filter.mp hm
      exact ih child hchild (fun m hm => h m (mem_preorder_of_child hchild hm)) hkept

end SwiftAudit.Node
