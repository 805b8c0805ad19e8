namespace SwiftAudit

-- The roles that a node can have in its parent.
inductive Field where
  | name
  | body
  | captures
  | condition
  | result
  | target
  | suffix
  | op
  | lhs
  | rhs
  | declarationKind
  | returnType
  deriving DecidableEq, Repr

-- What a parser says about one node. A node spans the bytes from `start` up to `stop`.
-- `hasError` marks a node that is or holds an error; `missing` one that the parser inserted.
-- The number tells nodes of one tree apart.
structure Label where
  number : Nat
  kind : String
  start : Nat
  stop : Nat
  named : Bool
  missing : Bool
  hasError : Bool
  fields : List Field
  deriving DecidableEq, Repr

inductive Tree where
  | node (label : Label) (children : List Tree)

namespace Tree

def label : Tree → Label
  | node label _ => label

def children : Tree → List Tree
  | node _ children => children

def kind (tree : Tree) : String := tree.label.kind

-- The tree of a text that nobody has parsed.
def unparsed : Tree := node ⟨0, "source_file", 0, 0, true, false, false, []⟩ []

end Tree

namespace Label

def has (label : Label) (field : Field) : Bool := label.fields.contains field

def isComment (label : Label) : Bool :=
  label.kind == "comment" || label.kind == "multiline_comment"

end Label

namespace Tree

mutual

def size : Tree → Nat
  | node _ children => 1 + sizeAll children

def sizeAll : List Tree → Nat
  | [] => 0
  | tree :: rest => tree.size + sizeAll rest

end

-- The first leaf that is reached from the tree by always taking the first child that is no
-- comment. There is none below a node whose children are all comments.
mutual

def leadingLeaf? : Tree → Option Label
  | node label [] => some label
  | node _ (child :: rest) => leadingLeafOf? (child :: rest)

def leadingLeafOf? : List Tree → Option Label
  | [] => none
  | tree :: rest => if tree.label.isComment then leadingLeafOf? rest else tree.leadingLeaf?

end

end Tree

end SwiftAudit
