import SwiftAudit.Finding
import SwiftAudit.Rule.FunctionBody
import SwiftAudit.Rule.Similarity
import SwiftAudit.Settings.Basic
import SwiftAudit.Transcript

namespace SwiftAudit.Rule.DuplicateFunction

-- Functions with as many statements, in groups by the first function of each count. Empty
-- bodies carry no logic worth comparing.
def groups (functions : List FunctionBody) : List (Nat × List FunctionBody) :=
  (functions.filter (!·.statements.isEmpty)).foldl
    (fun groups function => Assoc.push function.statements.length function groups) []

-- The first `bound` elements; a negative bound leaves out as many at the end.
def keep {α : Type} (bound : Int) (items : List α) : List α :=
  if 0 ≤ bound then items.take bound.toNat else items.take (items.length - bound.natAbs)

def isTruncated (bound : Int) (functions : List FunctionBody) : Bool :=
  (functions.length : Int) > bound

def compared (bound : Int) (functions : List FunctionBody) : List FunctionBody :=
  if isTruncated bound functions then keep bound functions else functions

def warning (source : Source) (bound : Int) (group : Nat × List FunctionBody) : List LogEntry :=
  if isTruncated bound group.2 then
    [⟨.warning, s!"{source.path}: {group.2.length} functions with {group.1} statements, " ++
      s!"comparing only the first {bound}"⟩]
  else []

def finding? (source : Source) (threshold : Double) (first second : FunctionBody) :
    Option Finding :=
  if first.name == second.name then none
  else
    let ratio := Similarity.similarity (source.chars first.body.label)
      (source.chars second.body.label)
    if threshold.le ratio then
      some (.onNode source second.node Category.refactoring
        (s!"Function '{second.name}' is very similar to '{first.name}' " ++
          s!"({Similarity.percent ratio}% similar) - consider refactoring"))
    else none

-- Every function is compared with those after it.
def pairFindings (source : Source) (threshold : Double) : List FunctionBody → List Finding
  | [] => []
  | first :: rest =>
    rest.filterMap (finding? source threshold first) ++ pairFindings source threshold rest

def findings (source : Source) (settings : Settings) : List LogEntry × List Finding :=
  let bound := settings.number .maxDuplicateBucket
  let groups := groups (FunctionBody.allIn source)
  (groups.flatMap (warning source bound),
    groups.flatMap fun group =>
      pairFindings source settings.similarityThreshold (compared bound group.2))

end SwiftAudit.Rule.DuplicateFunction
