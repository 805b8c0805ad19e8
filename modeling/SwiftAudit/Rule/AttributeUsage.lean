import SwiftAudit.Rule.Attribute
import SwiftAudit.Rule.Directive

namespace SwiftAudit.Rule.AttributeUsage

-- Goes through the nodes in order. A recovered directive can be both an error and a child
-- of it, so of the findings on directives only the first at each position is kept. `seen`
-- holds the positions of those before.
def scan (source : Source) (settings : Settings) (seen : List Position) :
    List Node → List Finding
  | [] => []
  | n :: rest =>
    if n.kind == "attribute" then
      Attribute.findingsAt source (settings.set .standardAttributes) n ++
        scan source settings seen rest
    else if Directive.isCandidate source n && !seen.contains (source.position n) then
      match Directive.finding? source (settings.set .standardMacros) n with
      | some finding => finding :: scan source settings (source.position n :: seen) rest
      | none => scan source settings seen rest
    else scan source settings seen rest

def findings (source : Source) (settings : Settings) : List Finding :=
  scan source settings [] source.nodes

end SwiftAudit.Rule.AttributeUsage
