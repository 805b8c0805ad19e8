import SwiftAudit.Tree.Basic

namespace SwiftAudit

-- The parent of a node, and the siblings that follow the node in it.
structure Place where
  parent : Tree
  later : List Tree

-- A tree inside the trees that enclose it, innermost first.
structure Node where
  tree : Tree
  places : List Place

namespace Node

def root (tree : Tree) : Node := ⟨tree, []⟩

def label (n : Node) : Label := n.tree.label

def kind (n : Node) : String := n.label.kind

def isComment (n : Node) : Bool := n.label.isComment

def placed (parent : Tree) (places : List Place) : List Tree → List Node
  | [] => []
  | tree :: later => ⟨tree, ⟨parent, later⟩ :: places⟩ :: placed parent places later

def children (n : Node) : List Node := placed n.tree n.places n.tree.children

def namedChildren (n : Node) : List Node := n.children.filter (·.label.named)

def child? (n : Node) (field : Field) : Option Node := n.children.find? (·.label.has field)

def parent? (n : Node) : Option Node :=
  match n.places with
  | [] => none
  | place :: places => some ⟨place.parent, places⟩

def laterSiblings (n : Node) : List Node :=
  match n.places with
  | [] => []
  | place :: places => placed place.parent places place.later

def parentKind? (n : Node) : Option String := n.parent?.map (·.kind)

-- Some node that encloses this one has one of the kinds.
def isInside (n : Node) (kinds : List String) : Bool :=
  n.places.any fun place => kinds.contains place.parent.kind

-- The outermost node on the way up before one of a boundary kind.
def climb (boundary : String → Bool) (tree : Tree) : List Place → Node
  | [] => ⟨tree, []⟩
  | place :: places =>
    if boundary place.parent.kind then ⟨tree, place :: places⟩
    else climb boundary place.parent places

end Node

end SwiftAudit
