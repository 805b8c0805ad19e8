import SwiftAudit.Finding

namespace SwiftAudit.Rule.RetainCycle

-- Some `self` below the trees is reached without passing through a capture list. Nested
-- closures are part of the closure around them.
mutual

def mentionsSelf : Tree → Bool
  | .node label children =>
    if label.kind == "capture_list" then false
    else label.kind == "self_expression" || anyMentionsSelf children

def anyMentionsSelf : List Tree → Bool
  | [] => false
  | tree :: rest => mentionsSelf tree || anyMentionsSelf rest

end

-- The capture list by its role, or else the first one below a child that is neither the
-- body nor another closure.
def captureList? (closure : Node) : Option Node :=
  closure.child? .captures <|>
    (closure.children.filter fun child =>
      child.kind != "statements" && child.kind != "lambda_literal").findSome? fun child =>
        child.all.find? (·.kind == "capture_list")

-- The spellings of a weak or unowned capture of `self` with single blanks. Blanks next to
-- the parentheses are optional.
def weakCaptures : List String :=
  let gaps := ["", " "]
  let unowned := gaps.flatMap fun a => gaps.flatMap fun b => gaps.flatMap fun c =>
    ["safe", "unsafe"].map fun safety => "unowned" ++ a ++ "(" ++ b ++ safety ++ c ++ ") self"
  "weak self" :: "unowned self" :: unowned

def isWeakCapture (source : Source) (item : Node) : Bool :=
  let spelling := [' '].intercalate (Text.words (source.chars item.label))
  item.kind == "capture_list_item" && weakCaptures.contains (String.ofList spelling)

def capturesWeakly (source : Source) (closure : Node) : Bool :=
  (captureList? closure).any fun captures => captures.namedChildren.any (isWeakCapture source)

def isRetaining (source : Source) (n : Node) : Bool :=
  n.kind == "lambda_literal" && !capturesWeakly source n && anyMentionsSelf n.tree.children

def findings (source : Source) : List Finding :=
  (source.nodes.filter (isRetaining source)).map fun n =>
    .onNode source n Category.memoryLeaks
      ("Potential retain cycle: closure uses 'self' strongly. " ++
        "Consider using [weak self] or [unowned self]")

end SwiftAudit.Rule.RetainCycle
