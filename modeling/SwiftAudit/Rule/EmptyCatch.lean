import SwiftAudit.Finding
import SwiftAudit.Swift.Statement

namespace SwiftAudit.Rule.EmptyCatch

def isEmptyCatch (n : Node) : Bool := n.kind == "catch_block" && (Swift.statements n).isEmpty

def findings (source : Source) : List Finding :=
  (source.nodes.filter isEmptyCatch).map fun n =>
    .onNode source n Category.exceptionHandling
      "Empty catch block. Errors should be handled or logged"

end SwiftAudit.Rule.EmptyCatch
