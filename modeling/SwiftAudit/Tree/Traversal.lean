import SwiftAudit.Tree.Node

namespace SwiftAudit

namespace Node

-- Visits the nodes that are due, first the first. Its children are then due before the
-- nodes after it. The size of the trees that are due bounds the steps.
def visit : (fuel : Nat) → (due : List Node) → List Node
  | 0, _ => []
  | _ + 1, [] => []
  | fuel + 1, n :: due => n :: visit fuel (n.children ++ due)

-- The node and all nodes below it, parents before children and siblings in order.
def all (n : Node) : List Node := visit n.tree.size [n]

end Node

-- A walk meets every node twice: before its children and after them.
inductive Event where
  | enter (n : Node)
  | leave (n : Node)

namespace Event

-- What follows an event at once: the children of a node that is entered, and its leaving.
def next : Event → List Event
  | enter n => n.children.map enter ++ [leave n]
  | leave _ => []

def walk : (fuel : Nat) → (due : List Event) → List Event
  | 0, _ => []
  | _ + 1, [] => []
  | fuel + 1, event :: due => event :: walk fuel (event.next ++ due)

end Event

def Node.events (n : Node) : List Event := Event.walk (2 * n.tree.size) [.enter n]

end SwiftAudit
