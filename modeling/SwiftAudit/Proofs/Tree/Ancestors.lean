import Mathlib.Data.List.Perm.Basic
import SwiftAudit.Proofs.Lists
import SwiftAudit.Proofs.Tree.Traversal

namespace SwiftAudit

mutual

def Tree.decEq : (a b : Tree) → Decidable (a = b)
  | .node label children, .node label' children' =>
    if hlabel : label = label' then
      match Tree.decEqAll children children' with
      | isTrue hchildren => isTrue (by rw [hlabel, hchildren])
      | isFalse hchildren => isFalse fun h => hchildren (by cases h; rfl)
    else isFalse fun h => hlabel (by cases h; rfl)

def Tree.decEqAll : (a b : List Tree) → Decidable (a = b)
  | [], [] => isTrue rfl
  | [], _ :: _ => isFalse nofun
  | _ :: _, [] => isFalse nofun
  | tree :: rest, tree' :: rest' =>
    match Tree.decEq tree tree', Tree.decEqAll rest rest' with
    | isTrue htree, isTrue hrest => isTrue (by rw [htree, hrest])
    | isFalse htree, _ => isFalse fun h => htree (List.cons.inj h).1
    | _, isFalse hrest => isFalse fun h => hrest (List.cons.inj h).2

end

instance : DecidableEq Tree := Tree.decEq

deriving instance DecidableEq for Place

deriving instance DecidableEq for Node

namespace Node

def enclosing : List Place → List Node
  | [] => []
  | place :: places => ⟨place.parent, places⟩ :: enclosing places

-- The nodes that enclose a node, innermost first.
def ancestors (n : Node) : List Node := enclosing n.places

theorem isInside_iff {n : Node} {kinds : List String} :
    n.isInside kinds ↔ ∃ f ∈ n.ancestors, f.kind ∈ kinds := by
  have hplaces (places : List Place) :
      places.any (fun place => kinds.contains place.parent.kind) ↔
        ∃ f ∈ enclosing places, f.kind ∈ kinds := by
    induction places with
    | nil => simp [enclosing]
    | cons place places ih =>
        simp only [List.any_cons, Bool.or_eq_true, ih, enclosing, List.mem_cons,
          exists_eq_or_imp, List.contains_iff_mem]
        rfl
  exact hplaces n.places

def depth (n : Node) : Nat := n.places.length

-- How many siblings follow a node and each of its ancestors, innermost first. Two nodes of one
-- tree have different addresses even where they are labelled alike.
def address (n : Node) : List Nat := n.places.map (·.later.length)

theorem length_address (n : Node) : n.address.length = n.depth := List.length_map _

theorem mem_placed {parent : Tree} {places : List Place} {trees : List Tree} {child : Node}
    (h : child ∈ placed parent places trees) :
    ∃ later, later.length < trees.length ∧ child.places = ⟨parent, later⟩ :: places := by
  induction trees with
  | nil => cases h
  | cons tree later ih =>
      rcases List.mem_cons.mp h with rfl | h
      · exact ⟨later, Nat.lt_succ_self _, rfl⟩
      · obtain ⟨after, hlength, hplaces⟩ := ih h
        exact ⟨after, Nat.lt_succ_of_lt hlength, hplaces⟩

theorem places_child {n child : Node} (h : child ∈ n.children) :
    ∃ later, child.places = ⟨n.tree, later⟩ :: n.places := by
  obtain ⟨later, -, hplaces⟩ := mem_placed h
  exact ⟨later, hplaces⟩

theorem parent?_child {n child : Node} (h : child ∈ n.children) : child.parent? = some n := by
  obtain ⟨later, hplaces⟩ := places_child h
  rw [parent?, hplaces]

theorem placed_eq_append {parent : Tree} {places : List Place} {trees : List Tree} {child : Node}
    (h : child ∈ placed parent places trees) :
    ∃ before, placed parent places trees = before ++ child :: child.laterSiblings := by
  induction trees with
  | nil => cases h
  | cons tree later ih =>
      rcases List.mem_cons.mp h with rfl | h
      · exact ⟨[], rfl⟩
      · obtain ⟨before, hchildren⟩ := ih h
        exact ⟨⟨tree, ⟨parent, later⟩ :: places⟩ :: before, by rw [placed, hchildren]; rfl⟩

-- A node among its siblings.
theorem children_eq_append {n child : Node} (h : child ∈ n.children) :
    ∃ before, n.children = before ++ child :: child.laterSiblings :=
  placed_eq_append h

theorem ancestors_child {n child : Node} (h : child ∈ n.children) :
    child.ancestors = n :: n.ancestors := by
  obtain ⟨later, hplaces⟩ := places_child h
  rw [ancestors, hplaces]
  rfl

theorem depth_child {n child : Node} (h : child ∈ n.children) : child.depth = n.depth + 1 := by
  obtain ⟨later, hplaces⟩ := places_child h
  rw [depth, hplaces, List.length_cons, depth]

theorem address_child {n child : Node} (h : child ∈ n.children) :
    n.address <:+ child.address := by
  obtain ⟨later, hplaces⟩ := places_child h
  rw [address, address, hplaces, List.map_cons]
  exact List.suffix_cons _ _

theorem pairwise_address_placed (parent : Tree) (places : List Place) (trees : List Tree) :
    (placed parent places trees).Pairwise fun a b => a.address ≠ b.address := by
  induction trees with
  | nil => exact .nil
  | cons tree later ih =>
      refine .cons ?_ ih
      intro other hm haddress
      obtain ⟨after, hlength, hplaces⟩ := mem_placed hm
      rw [address, address, hplaces, List.map_cons, List.map_cons] at haddress
      exact Nat.ne_of_gt hlength (List.cons.inj haddress).1

theorem nodup_children (n : Node) : n.children.Nodup := by
  refine (pairwise_address_placed n.tree n.places n.tree.children).imp ?_
  intro a b hne hab
  exact hne (congrArg address hab)

theorem self_mem_preorder (n : Node) : n ∈ n.preorder := by
  rw [preorder_eq]
  exact List.mem_cons_self

theorem mem_preorder_iff {n d : Node} :
    d ∈ n.preorder ↔ d = n ∨ ∃ child ∈ n.children, d ∈ child.preorder := by
  rw [preorder_eq, List.mem_cons, List.mem_flatMap]

theorem mem_preorder_of_child {n child d : Node} (hchild : child ∈ n.children)
    (h : d ∈ child.preorder) : d ∈ n.preorder :=
  mem_preorder_iff.mpr (.inr ⟨child, hchild, h⟩)

-- Below a node every other one is the child of one.
theorem exists_parent {n d : Node} (h : d ∈ n.preorder) (hne : d ≠ n) :
    ∃ parent ∈ n.preorder, d ∈ parent.children := by
  induction n using childInduction with
  | node n ih =>
      rcases mem_preorder_iff.mp h with heq | ⟨child, hchild, h⟩
      · exact absurd heq hne
      · by_cases hself : d = child
        · exact ⟨n, self_mem_preorder n, hself ▸ hchild⟩
        · obtain ⟨parent, hparent, hd⟩ := ih child hchild h hself
          exact ⟨parent, mem_preorder_of_child hchild hparent, hd⟩

theorem address_suffix {n d : Node} (h : d ∈ n.preorder) : n.address <:+ d.address := by
  induction n using childInduction with
  | node n ih =>
      rcases mem_preorder_iff.mp h with rfl | ⟨child, hchild, h⟩
      · exact List.suffix_refl _
      · exact (address_child hchild).trans (ih child hchild h)

theorem depth_le {n d : Node} (h : d ∈ n.preorder) : n.depth ≤ d.depth := by
  rw [← length_address, ← length_address]
  exact (address_suffix h).length_le

theorem ne_of_mem_child {n child d : Node} (hchild : child ∈ n.children)
    (h : d ∈ child.preorder) : d ≠ n := by
  rintro rfl
  have hle := depth_le h
  rw [depth_child hchild] at hle
  omega

-- The nodes below a node are distinct, and those below different siblings are different.
theorem nodup_preorder (n : Node) : n.preorder.Nodup := by
  induction n using childInduction with
  | node n ih =>
      rw [preorder_eq, List.nodup_cons]
      constructor
      · intro hm
        obtain ⟨child, hchild, hm⟩ := List.mem_flatMap.mp hm
        have hdepth := depth_le hm
        rw [depth_child hchild] at hdepth
        omega
      · refine List.pairwise_flatMap.mpr ⟨ih, ?_⟩
        refine (pairwise_address_placed n.tree n.places n.tree.children).imp_of_mem ?_
        intro a b ha hb hne d hda e heb hde
        subst hde
        have hlength : a.address.length = b.address.length := by
          rw [length_address, length_address, depth_child ha, depth_child hb]
        have hsuffix := List.suffix_of_suffix_length_le (address_suffix hda) (address_suffix heb)
          (Nat.le_of_eq hlength)
        exact hne (hsuffix.eq_of_length hlength)

-- The subtrees of siblings have no node in common.
theorem eq_of_mem_siblings {n a b d : Node} (ha : a ∈ n.children) (hb : b ∈ n.children)
    (hda : d ∈ a.preorder) (hdb : d ∈ b.preorder) : a = b := by
  have hnodup := nodup_preorder n
  rw [preorder_eq, List.nodup_cons] at hnodup
  exact eq_of_mem_flatMap hnodup.2 ha hb hda hdb

theorem postorder_perm (n : Node) : n.postorder.Perm n.preorder := by
  induction n using childInduction with
  | node n ih =>
      rw [postorder_eq, preorder_eq]
      exact (List.perm_append_singleton _ _).trans ((List.Perm.flatMap_left _ ih).cons n)

-- The nodes of a subtree stand together in the order of the whole tree.
theorem preorder_infix {n f : Node} (h : f ∈ n.preorder) : f.preorder <:+: n.preorder := by
  induction n using childInduction with
  | node n ih =>
      rcases mem_preorder_iff.mp h with rfl | ⟨child, hchild, h⟩
      · exact List.infix_refl _
      · obtain ⟨before, after, hsiblings⟩ := List.append_of_mem hchild
        refine (ih child hchild h).trans ?_
        rw [preorder_eq n, hsiblings, List.flatMap_append, List.flatMap_cons]
        exact List.infix_cons (List.infix_append' _ _ _)

theorem preorder_sublist {n d : Node} (h : d ∈ n.preorder) : d.preorder.Sublist n.preorder := by
  have hpart := preorder_infix h
  exact hpart.sublist

-- A node that encloses another one of a subtree either is in the subtree itself, or encloses
-- the subtree.
theorem mem_of_mem_ancestors {n d f : Node} (hd : d ∈ n.preorder) (hf : f ∈ d.ancestors) :
    f ∈ n.preorder ∧ d ∈ f.preorder ∨ f ∈ n.ancestors := by
  induction n using childInduction with
  | node n ih =>
      rcases mem_preorder_iff.mp hd with rfl | ⟨child, hchild, hbelow⟩
      · exact .inr hf
      · rcases ih child hchild hbelow with ⟨hm, hdf⟩ | hm
        · exact .inl ⟨mem_preorder_iff.mpr (.inr ⟨child, hchild, hm⟩), hdf⟩
        · rw [ancestors_child hchild] at hm
          rcases List.mem_cons.mp hm with rfl | hm
          · exact .inl ⟨self_mem_preorder f, hd⟩
          · exact .inr hm

-- The way up before a boundary goes through the innermost ancestors, to the last of them that is
-- none.
theorem climb_eq (boundary : String → Bool) (tree : Tree) (places : List Place) :
    climb boundary tree places =
      ((enclosing places).takeWhile (!boundary ·.kind)).getLastD ⟨tree, places⟩ := by
  induction places generalizing tree with
  | nil => rfl
  | cons place places ih =>
      have hkind : (⟨place.parent, places⟩ : Node).kind = place.parent.kind := rfl
      by_cases hboundary : boundary place.parent.kind
      · rw [climb, if_pos hboundary, enclosing, List.takeWhile_cons_of_neg, List.getLastD_nil]
        simp [hkind, hboundary]
      · rw [climb, if_neg hboundary, enclosing, List.takeWhile_cons_of_pos, List.getLastD_cons, ih]
        simp [hkind, hboundary]

theorem depth_lt_of_mem_enclosing {places : List Place} {f : Node} (h : f ∈ enclosing places) :
    f.depth < places.length := by
  induction places with
  | nil => cases h
  | cons place places ih =>
      rcases List.mem_cons.mp h with rfl | h
      · exact Nat.lt_succ_self _
      · exact Nat.lt_succ_of_lt (ih h)

theorem depth_lt_of_mem_ancestors {n f : Node} (h : f ∈ n.ancestors) : f.depth < n.depth :=
  depth_lt_of_mem_enclosing h

-- Above a node that lies below another one the ancestors are the same.
theorem ancestors_below {n d : Node} (h : d ∈ n.preorder) :
    d = n ∨ ∃ between, d.ancestors = between ++ n :: n.ancestors ∧
      ∀ f ∈ between, n.depth < f.depth := by
  induction n using childInduction with
  | node n ih =>
      rcases mem_preorder_iff.mp h with rfl | ⟨child, hchild, h⟩
      · exact .inl rfl
      · refine .inr ?_
        have hchildren := ancestors_child hchild
        have hdepth := depth_child hchild
        rcases ih child hchild h with rfl | ⟨between, hancestors, hbetween⟩
        · exact ⟨[], hchildren, nofun⟩
        · refine ⟨between ++ [child], ?_, ?_⟩
          · rw [hancestors, hchildren, List.append_assoc]
            rfl
          · intro f hf
            rcases List.mem_append.mp hf with hf | hf
            · have hlt := hbetween f hf
              omega
            · rw [List.mem_singleton.mp hf]
              omega

theorem mem_ancestors_of_below {n d : Node} (h : d ∈ n.preorder) (hne : d ≠ n) :
    n ∈ d.ancestors := by
  rcases ancestors_below h with heq | ⟨between, hancestors, -⟩
  · exact absurd heq hne
  · rw [hancestors]
    exact List.mem_append_right _ List.mem_cons_self

end Node

end SwiftAudit
