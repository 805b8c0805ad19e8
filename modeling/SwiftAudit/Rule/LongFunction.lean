import SwiftAudit.Finding
import SwiftAudit.Settings.Basic
import SwiftAudit.Swift.Declaration

namespace SwiftAudit.Rule.LongFunction

-- From the line of the first significant byte of the body to the line of its last byte.
def lineCount (source : Source) (body : Node) : Int :=
  ((source.endPosition body).line : Int) - (source.position body).line + 1

def finding? (source : Source) (threshold : Int) (n : Node) : Option Finding := do
  let body ← n.child? .body
  let count := lineCount source body
  if count > threshold then
    return .onNode source (Swift.nameNode n) Category.complexity
      (s!"Function '{Swift.declarationName source n}' is {count} lines long, " ++
        s!"which exceeds the recommended maximum of {threshold} lines")
  else none

def findings (source : Source) (settings : Settings) : List Finding :=
  let threshold := settings.number .longFunctionThreshold
  (source.nodes.filter fun n => Swift.functionKinds.contains n.kind).filterMap
    (finding? source threshold)

end SwiftAudit.Rule.LongFunction
