import SwiftAudit.Finding
import SwiftAudit.Settings.Basic
import SwiftAudit.Swift.Kind

namespace SwiftAudit.Rule.OptionalChain

-- How often `?.` occurs.
def chainLinks : List Char → Nat
  | '?' :: '.' :: rest => chainLinks rest + 1
  | _ :: rest => chainLinks rest
  | [] => 0

def isBoundary (kind : String) : Bool := Swift.chainBoundaryKinds.contains kind

-- The whole expression that a node is part of.
def wholeExpression (n : Node) : Node := Node.climb isBoundary n.tree n.places

structure Chain where
  node : Node
  start : Nat
  stop : Nat
  depth : Nat

-- A navigation with an optional link, as part of an expression with more than `limit`.
def chain? (source : Source) (limit : Int) (n : Node) : Option Chain :=
  if n.kind == "navigation_expression" && chainLinks (source.chars n.label) > 0 then
    let whole := wholeExpression n
    let depth := chainLinks (source.chars whole.label)
    if (depth : Int) > limit then some ⟨n, whole.label.start, whole.label.stop, depth⟩ else none
  else none

-- The first chain of each span. `seen` holds the spans of the chains before.
def firstOfSpan (seen : List (Nat × Nat)) : List Chain → List Chain
  | [] => []
  | chain :: rest =>
    if seen.contains (chain.start, chain.stop) then firstOfSpan seen rest
    else chain :: firstOfSpan ((chain.start, chain.stop) :: seen) rest

def finding (source : Source) (chain : Chain) : Finding :=
  .onNode source chain.node Category.optionalChaining
    (s!"Excessive optional chaining depth ({chain.depth}). " ++
      "Consider unwrapping optionals or using guard/if let")

def findings (source : Source) (settings : Settings) : List Finding :=
  let chains := source.nodes.filterMap (chain? source (settings.number .maxOptionalChainDepth))
  let kept := if settings.flag .dedupeOptionalChains then firstOfSpan [] chains else chains
  kept.map (finding source)

end SwiftAudit.Rule.OptionalChain
