import SwiftAudit.Tree.Traversal

namespace SwiftAudit

-- The label of a node whose span lies `k` bytes later.
def Label.shift (k : Nat) (label : Label) : Label :=
  { label with start := label.start + k, stop := label.stop + k }

namespace Tree

-- A tree all of whose spans lie `k` bytes later.
mutual

def shift (k : Nat) : Tree → Tree
  | node label children => node (label.shift k) (shiftAll k children)

def shiftAll (k : Nat) : List Tree → List Tree
  | [] => []
  | tree :: rest => tree.shift k :: shiftAll k rest

end

end Tree

def Place.shift (k : Nat) (place : Place) : Place :=
  ⟨place.parent.shift k, place.later.map (Tree.shift k)⟩

def Node.shift (k : Nat) (n : Node) : Node := ⟨n.tree.shift k, n.places.map (Place.shift k)⟩

def Event.shift (k : Nat) : Event → Event
  | enter n => enter (n.shift k)
  | leave n => leave (n.shift k)

namespace Label

variable (k : Nat) (label : Label)

@[simp] theorem kind_shift : (label.shift k).kind = label.kind := rfl

@[simp] theorem start_shift : (label.shift k).start = label.start + k := rfl

@[simp] theorem stop_shift : (label.shift k).stop = label.stop + k := rfl

@[simp] theorem named_shift : (label.shift k).named = label.named := rfl

@[simp] theorem missing_shift : (label.shift k).missing = label.missing := rfl

@[simp] theorem hasError_shift : (label.shift k).hasError = label.hasError := rfl

@[simp] theorem has_shift (field : Field) : (label.shift k).has field = label.has field := rfl

@[simp] theorem isComment_shift : (label.shift k).isComment = label.isComment := rfl

end Label

namespace Tree

theorem shiftAll_eq_map (k : Nat) (trees : List Tree) : shiftAll k trees = trees.map (shift k) := by
  induction trees with
  | nil => rfl
  | cons tree rest ih =>
      rw [shiftAll, ih, List.map_cons]

@[simp] theorem label_shift (k : Nat) (tree : Tree) : (tree.shift k).label = tree.label.shift k := by
  cases tree
  rfl

@[simp] theorem kind_shift (k : Nat) (tree : Tree) : (tree.shift k).kind = tree.kind := by
  cases tree
  rfl

@[simp] theorem children_shift (k : Nat) (tree : Tree) :
    (tree.shift k).children = tree.children.map (shift k) := by
  cases tree
  exact shiftAll_eq_map k _

mutual

@[simp] theorem size_shift (k : Nat) : ∀ tree : Tree, (tree.shift k).size = tree.size
  | node label children => by
      have h := sizeAll_shift k children
      simp [shift, size, h]

theorem sizeAll_shift (k : Nat) : ∀ trees : List Tree, sizeAll (shiftAll k trees) = sizeAll trees
  | [] => rfl
  | tree :: rest => by
      have h := size_shift k tree
      have hrest := sizeAll_shift k rest
      simp [shiftAll, sizeAll, h, hrest]

end

mutual

-- Spans do not decide which leaf leads a tree.
theorem leadingLeaf?_shift (k : Nat) :
    ∀ tree : Tree, (tree.shift k).leadingLeaf? = tree.leadingLeaf?.map (Label.shift k)
  | node _ [] => rfl
  | node _ (child :: rest) => leadingLeafOf?_shift k (child :: rest)

theorem leadingLeafOf?_shift (k : Nat) : ∀ trees : List Tree,
    leadingLeafOf? (shiftAll k trees) = (leadingLeafOf? trees).map (Label.shift k)
  | [] => rfl
  | tree :: rest => by
      have h := leadingLeaf?_shift k tree
      have hrest := leadingLeafOf?_shift k rest
      by_cases hc : tree.label.isComment <;>
        simp [shiftAll, leadingLeafOf?, hc, h, hrest]

end

end Tree

namespace Node

variable (k : Nat) (n : Node)

@[simp] theorem tree_shift : (n.shift k).tree = n.tree.shift k := rfl

@[simp] theorem places_shift : (n.shift k).places = n.places.map (Place.shift k) := rfl

@[simp] theorem label_shift : (n.shift k).label = n.label.shift k := Tree.label_shift k n.tree

@[simp] theorem kind_shift : (n.shift k).kind = n.kind := by
  rw [kind, label_shift, Label.kind_shift, kind]

@[simp] theorem isComment_shift : (n.shift k).isComment = n.isComment := by
  rw [isComment, label_shift, Label.isComment_shift, isComment]

theorem placed_shift (parent : Tree) (places : List Place) (trees : List Tree) :
    placed (parent.shift k) (places.map (Place.shift k)) (trees.map (Tree.shift k)) =
      (placed parent places trees).map (shift k) := by
  induction trees with
  | nil => rfl
  | cons tree later ih =>
      simp only [List.map_cons, placed, ih]
      rfl

@[simp] theorem children_shift : (n.shift k).children = n.children.map (shift k) := by
  rw [children, tree_shift, places_shift, Tree.children_shift]
  exact placed_shift k n.tree n.places n.tree.children

@[simp] theorem namedChildren_shift :
    (n.shift k).namedChildren = n.namedChildren.map (shift k) := by
  simp [namedChildren, List.filter_map, Function.comp_def]

@[simp] theorem child?_shift (field : Field) :
    (n.shift k).child? field = (n.child? field).map (shift k) := by
  simp [child?, List.find?_map, Function.comp_def]

@[simp] theorem parent?_shift : (n.shift k).parent? = n.parent?.map (shift k) := by
  unfold parent?
  rw [places_shift]
  cases n.places <;> rfl

@[simp] theorem laterSiblings_shift :
    (n.shift k).laterSiblings = n.laterSiblings.map (shift k) := by
  unfold laterSiblings
  rw [places_shift]
  cases n.places with
  | nil => rfl
  | cons place places => exact placed_shift k place.parent places place.later

@[simp] theorem parentKind?_shift : (n.shift k).parentKind? = n.parentKind? := by
  simp [parentKind?, Function.comp_def]

@[simp] theorem isInside_shift (kinds : List String) :
    (n.shift k).isInside kinds = n.isInside kinds := by
  simp [isInside, Place.shift, Function.comp_def]

theorem climb_shift (boundary : String → Bool) (tree : Tree) (places : List Place) :
    climb boundary (tree.shift k) (places.map (Place.shift k)) =
      (climb boundary tree places).shift k := by
  induction places generalizing tree with
  | nil => rfl
  | cons place places ih =>
      simp only [List.map_cons, climb, Place.shift, Tree.kind_shift]
      split
      · rfl
      · exact ih place.parent

theorem visit_shift (fuel : Nat) (due : List Node) :
    visit fuel (due.map (shift k)) = (visit fuel due).map (shift k) := by
  induction fuel generalizing due with
  | zero => rfl
  | succ fuel ih =>
      cases due with
      | nil => rfl
      | cons n due =>
          rw [List.map_cons, visit, children_shift, ← List.map_append, ih, visit, List.map_cons]

@[simp] theorem all_shift : (n.shift k).all = n.all.map (shift k) := by
  rw [all, tree_shift, Tree.size_shift]
  exact visit_shift k n.tree.size [n]

end Node

namespace Event

theorem next_shift (k : Nat) (event : Event) :
    (event.shift k).next = event.next.map (shift k) := by
  cases event with
  | enter n => simp [shift, next, Function.comp_def]
  | leave n => rfl

theorem walk_shift (k fuel : Nat) (due : List Event) :
    walk fuel (due.map (shift k)) = (walk fuel due).map (shift k) := by
  induction fuel generalizing due with
  | zero => rfl
  | succ fuel ih =>
      cases due with
      | nil => rfl
      | cons event due =>
          rw [List.map_cons, walk, next_shift, ← List.map_append, ih, walk, List.map_cons]

end Event

theorem Node.events_shift (k : Nat) (n : Node) :
    (n.shift k).events = n.events.map (Event.shift k) := by
  rw [events, tree_shift, Tree.size_shift]
  exact Event.walk_shift k (2 * n.tree.size) [.enter n]

end SwiftAudit
