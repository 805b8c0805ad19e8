import SwiftAudit.Finding
import SwiftAudit.Settings.Basic
import SwiftAudit.Swift.Declaration

namespace SwiftAudit.Rule.Complexity

-- A function that the walk is inside of.
structure Frame where
  name : String
  paths : Nat

-- The functions around the walk, innermost first, and the findings so far.
structure Progress where
  frames : List Frame
  findings : List Finding

def finding (source : Source) (threshold : Int) (n : Node) (frame : Frame) : List Finding :=
  if (frame.paths : Int) > threshold then
    [.onNode source (Swift.nameNode n) Category.complexity
      (s!"Function '{frame.name}' has a cyclomatic complexity of {frame.paths}, " ++
        s!"which exceeds the threshold of {threshold}")]
  else []

def isFunction (n : Node) : Bool := Swift.functionKinds.contains n.kind

def isDecision (n : Node) : Bool := Swift.decisionKinds.contains n.kind

-- Only the innermost function pays for a decision.
def payInnermost : List Frame → List Frame
  | [] => []
  | frame :: outer => { frame with paths := frame.paths + 1 } :: outer

def step (source : Source) (threshold : Int) (progress : Progress) : Event → Progress
  | .enter n =>
    if isFunction n then
      { progress with frames := ⟨Swift.declarationName source n, 1⟩ :: progress.frames }
    else if isDecision n then { progress with frames := payInnermost progress.frames }
    else progress
  | .leave n =>
    if isFunction n then
      match progress.frames with
      | [] => progress
      | frame :: outer => ⟨outer, progress.findings ++ finding source threshold n frame⟩
    else progress

def findings (source : Source) (settings : Settings) : List Finding :=
  let threshold := settings.number .complexityThreshold
  (source.root.events.foldl (step source threshold) ⟨[], []⟩).findings

end SwiftAudit.Rule.Complexity
