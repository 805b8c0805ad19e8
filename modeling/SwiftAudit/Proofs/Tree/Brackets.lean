import Mathlib.Logic.Relation
import SwiftAudit.Proofs.Tree.Stack

namespace SwiftAudit

namespace Event

def node : Event → Node
  | enter n => n
  | leave n => n

def entered? : Event → Option Node
  | enter n => some n
  | leave _ => none

def left? : Event → Option Node
  | enter _ => none
  | leave n => some n

def entered (events : List Event) : List Node := events.filterMap entered?

def left (events : List Event) : List Node := events.filterMap left?

theorem entered?_eq_some_iff {event : Event} {n : Node} :
    event.entered? = some n ↔ event = enter n := by
  cases event <;> simp [entered?]

theorem left?_eq_some_iff {event : Event} {n : Node} :
    event.left? = some n ↔ event = leave n := by
  cases event <;> simp [left?]

theorem mem_entered_iff {events : List Event} {n : Node} :
    n ∈ entered events ↔ enter n ∈ events := by
  simp only [entered, List.mem_filterMap, entered?_eq_some_iff, exists_eq_right]

theorem mem_left_iff {events : List Event} {n : Node} : n ∈ left events ↔ leave n ∈ events := by
  simp only [left, List.mem_filterMap, left?_eq_some_iff, exists_eq_right]

-- A node is met where it is entered and where it is left.
theorem map_node_perm (events : List Event) :
    (events.map node).Perm (entered events ++ left events) := by
  induction events with
  | nil => exact .refl _
  | cons event rest ih =>
      cases event with
      | enter n => exact ih.cons n
      | leave n => exact (ih.cons n).trans List.perm_middle.symm

-- Events whose brackets match: each node that is entered is left again, and in between every
-- bracket that is opened is closed.
inductive WellBracketed : List Event → Prop where
  | nil : WellBracketed []
  | node (n : Node) {inner after : List Event} (hinner : WellBracketed inner)
      (hafter : WellBracketed after) : WellBracketed (enter n :: (inner ++ leave n :: after))

theorem WellBracketed.append {a b : List Event} (ha : WellBracketed a) (hb : WellBracketed b) :
    WellBracketed (a ++ b) := by
  induction ha with
  | nil => exact hb
  | node n hinner hafter _ ih =>
      rw [List.cons_append, List.append_assoc, List.cons_append]
      exact .node n hinner ih

theorem WellBracketed.flatMap {α : Type} {f : α → List Event} {items : List α}
    (h : ∀ a ∈ items, WellBracketed (f a)) : WellBracketed (items.flatMap f) := by
  induction items with
  | nil => exact .nil
  | cons a rest ih =>
      obtain ⟨ha, hrest⟩ := List.forall_mem_cons.mp h
      rw [List.flatMap_cons]
      exact ha.append (ih hrest)

end Event

namespace Node

section Bracketed

open Event

theorem wellBracketed_bracketed (n : Node) : WellBracketed n.bracketed := by
  induction n using childInduction with
  | node n ih =>
      rw [bracketed_eq]
      exact .node n (.flatMap ih) .nil

theorem filterMap_bracketed (pick : Event → Option Node) (n : Node) :
    n.bracketed.filterMap pick =
      (pick (.enter n)).toList ++ n.children.flatMap (·.bracketed.filterMap pick) ++
        (pick (.leave n)).toList := by
  rw [bracketed_eq, List.cons_append, List.filterMap_cons, List.filterMap_append,
    List.filterMap_flatMap, List.filterMap_cons, List.filterMap_nil]
  cases pick (.enter n) <;> cases pick (.leave n) <;> rfl

theorem entered_bracketed (n : Node) : entered n.bracketed = n.preorder := by
  induction n using childInduction with
  | node n ih =>
      have hbelow : n.children.flatMap (·.bracketed.filterMap entered?) =
          n.children.flatMap preorder := List.flatMap_congr ih
      rw [entered, filterMap_bracketed, hbelow, preorder_eq]
      exact List.append_nil _

theorem left_bracketed (n : Node) : left n.bracketed = n.postorder := by
  induction n using childInduction with
  | node n ih =>
      have hbelow : n.children.flatMap (·.bracketed.filterMap left?) =
          n.children.flatMap postorder := List.flatMap_congr ih
      rw [left, filterMap_bracketed, hbelow, postorder_eq]
      rfl

theorem mem_bracketed_iff {n : Node} {event : Event} :
    event ∈ n.bracketed ↔ event.node ∈ n.preorder := by
  cases event with
  | enter d => rw [← mem_entered_iff, entered_bracketed, Event.node]
  | leave d => rw [← mem_left_iff, left_bracketed, (postorder_perm n).mem_iff, Event.node]

-- A walk meets every node twice.
theorem map_node_bracketed_perm (n : Node) :
    (n.bracketed.map Event.node).Perm (n.preorder ++ n.preorder) := by
  have hperm := map_node_perm n.bracketed
  rw [entered_bracketed, left_bracketed] at hperm
  exact hperm.trans ((postorder_perm n).append_left n.preorder)

theorem count_bracketed (n d : Node) :
    (n.bracketed.map Event.node).count d = 2 * n.preorder.count d := by
  rw [(map_node_bracketed_perm n).count_eq, List.count_append, Nat.two_mul]

-- The events of a subtree stand together in those of the whole tree.
theorem bracketed_infix {n d : Node} (h : d ∈ n.preorder) : d.bracketed <:+: n.bracketed := by
  induction n using childInduction with
  | node n ih =>
      rcases mem_preorder_iff.mp h with rfl | ⟨child, hchild, h⟩
      · exact List.infix_refl _
      · obtain ⟨before, after, hsiblings⟩ := List.append_of_mem hchild
        refine (ih child hchild h).trans ?_
        rw [bracketed_eq n, hsiblings, List.flatMap_append, List.flatMap_cons]
        exact ⟨.enter n :: before.flatMap bracketed, after.flatMap bracketed ++ [.leave n], by simp⟩

theorem mem_flatMap_preorder_children_iff {n d : Node} :
    d ∈ n.children.flatMap preorder ↔ d ∈ n.preorder ∧ d ≠ n := by
  rw [List.mem_flatMap, mem_preorder_iff]
  constructor
  · rintro ⟨child, hchild, hd⟩
    exact ⟨.inr ⟨child, hchild, hd⟩, ne_of_mem_child hchild hd⟩
  · rintro ⟨heq | hbelow, hne⟩
    · exact absurd heq hne
    · exact hbelow

-- Between the two events of a node stand those of the nodes below it, and no others.
theorem exists_between {n d : Node} (h : d ∈ n.preorder) :
    ∃ before inner after, n.bracketed = before ++ .enter d :: inner ++ .leave d :: after ∧
      ∀ event : Event, event ∈ inner ↔ event.node ∈ d.preorder ∧ event.node ≠ d := by
  obtain ⟨before, after, hsplit⟩ := bracketed_infix h
  refine ⟨before, d.children.flatMap bracketed, after, ?_, ?_⟩
  · rw [← hsplit, bracketed_eq d]
    simp
  · intro event
    rw [← mem_flatMap_preorder_children_iff, List.mem_flatMap, List.mem_flatMap]
    simp only [mem_bracketed_iff]

end Bracketed

section Order

def IsParent (parent child : Node) : Prop := child ∈ parent.children

-- The nodes of a tree are those that its root leads down to.
theorem mem_preorder_iff_reachable {n d : Node} :
    d ∈ n.preorder ↔ Relation.ReflTransGen IsParent n d := by
  constructor
  · intro h
    induction n using childInduction with
    | node n ih =>
        rcases mem_preorder_iff.mp h with rfl | ⟨child, hchild, h⟩
        · exact .refl
        · exact .head hchild (ih child hchild h)
  · intro h
    induction h using Relation.ReflTransGen.head_induction_on with
    | refl => exact self_mem_preorder d
    | head hchild _ ih => exact mem_preorder_of_child hchild ih

theorem sublist_flatMap_preorder (nodes : List Node) : nodes.Sublist (nodes.flatMap preorder) := by
  induction nodes with
  | nil => exact .slnil
  | cons n rest ih =>
      rw [List.flatMap_cons, preorder_eq n]
      exact (ih.trans (List.sublist_append_right _ _)).cons_cons n

-- A node comes before its children, and these in their order.
theorem cons_children_sublist {n parent : Node} (h : parent ∈ n.preorder) :
    (parent :: parent.children).Sublist n.preorder := by
  refine List.Sublist.trans ?_ (preorder_sublist h)
  rw [preorder_eq parent]
  exact (sublist_flatMap_preorder parent.children).cons_cons parent

end Order

theorem iterate_next (n : Node) :
    (Loop.turn Event.next)^[2 * n.tree.size] (Loop.start (.enter n)) = Loop.ended n.bracketed := by
  rw [← length_bracketed]
  exact Loop.iterate_turn_start Event.unfolded_eq (.enter n)

-- Both traversals, which keep a stack of what is due, end after as many turns as they have items
-- to give, and go through a tree as recursion does. The first one gives each node once. The
-- second one meets each node twice, and its events are brackets: what is entered comes in the
-- order of the first, what is left comes behind all that is below it, and between the two events
-- of a node stand those of the nodes below it.
theorem traversals_areRecursive (n : Node) :
    (n.all = n.preorder ∧ n.all.Nodup ∧
      (∀ d, d ∈ n.all ↔ Relation.ReflTransGen IsParent n d) ∧
      ∀ parent ∈ n.all, (parent :: parent.children).Sublist n.all) ∧
    (Event.WellBracketed n.events ∧
      Event.entered n.events = n.preorder ∧ Event.left n.events = n.postorder ∧
      (∀ d, (n.events.map Event.node).count d = 2 * n.all.count d) ∧
      ∀ d ∈ n.all, ∃ before inner after,
        n.events = before ++ .enter d :: inner ++ .leave d :: after ∧
        ∀ event : Event, event ∈ inner ↔ event.node ∈ d.all ∧ event.node ≠ d) ∧
    (Loop.turn children)^[n.tree.size] (Loop.start n) = Loop.ended n.all ∧
    (Loop.turn Event.next)^[2 * n.tree.size] (Loop.start (.enter n)) = Loop.ended n.events := by
  simp only [all_eq_preorder, events_eq_bracketed]
  exact ⟨⟨trivial, nodup_preorder n, fun d => mem_preorder_iff_reachable,
      fun parent hm => cons_children_sublist hm⟩,
    ⟨wellBracketed_bracketed n, entered_bracketed n, left_bracketed n, count_bracketed n,
      fun d hd => exists_between hd⟩,
    iterate_children n, iterate_next n⟩

-- A node with two children, the first of which has a child of its own.
def forked : Node :=
  .root <|
    .node ⟨0, "source_file", 0, 5, true, false, false, []⟩
      [.node ⟨1, "property_declaration", 0, 3, true, false, false, []⟩
        [.node ⟨2, "pattern", 2, 3, true, false, false, []⟩ []],
        .node ⟨3, "simple_identifier", 4, 5, true, false, false, []⟩ []]

theorem traversals_areRecursive_forked :
    forked.all.map (·.label.number) = [0, 1, 2, 3] ∧
    (Event.left forked.events).map (·.label.number) = [2, 1, 3, 0] ∧
    ∃ d ∈ forked.all, d.label.number = 1 ∧ (d :: d.children).Sublist forked.all ∧
      ∃ before inner after, forked.events = before ++ .enter d :: inner ++ .leave d :: after ∧
        ∀ event : Event, event ∈ inner ↔ event.node ∈ d.all ∧ event.node ≠ d := by
  obtain ⟨⟨-, -, -, hparents⟩, ⟨-, -, hleft, -, hbetween⟩, -⟩ := traversals_areRecursive forked
  obtain ⟨d, hd, hnumber⟩ : ∃ d ∈ forked.all, d.label.number = 1 := by decide +kernel
  rw [hleft]
  exact ⟨by decide +kernel, by decide +kernel, d, hd, hnumber, hparents d hd, hbetween d hd⟩

end Node

end SwiftAudit
