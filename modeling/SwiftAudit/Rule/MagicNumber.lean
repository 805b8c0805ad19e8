import SwiftAudit.Failure
import SwiftAudit.Finding
import SwiftAudit.Settings.Basic
import SwiftAudit.Text.Numeral

namespace SwiftAudit.Rule.MagicNumber

def integerBase? (kind : String) : Option Nat :=
  if kind == "integer_literal" then some 10
  else if kind == "hex_literal" then some 16
  else if kind == "oct_literal" then some 8
  else if kind == "bin_literal" then some 2
  else none

def isNumber (n : Node) : Bool := (integerBase? n.kind).isSome || n.kind == "real_literal"

-- The minus in front of a literal.
def negation? (source : Source) (n : Node) : Option Node :=
  n.parent?.filter fun parent =>
    parent.kind == "prefix_expression" &&
      parent.children.head?.any fun first => source.textOf first == "-"

-- An integer as it is shown, or none if it is exempt or the literal has no value.
def shownInteger? (exempt : ScalarSet) (negative : Bool) (base : Nat) (text : List Char) :
    Except Breakdown (Option String) :=
  match Text.literalValue? base text with
  | none => .ok none
  | some magnitude =>
    let value := if negative then -magnitude else magnitude
    if exempt.hasInt value then .ok none
    else match Text.decimalText? value with
      | some shown => .ok (some shown)
      | none => .error .overlongNumeral

-- How a number literal is shown if it is to be reported.
def shown? (source : Source) (exempt : ScalarSet) (n : Node) (negative : Bool) :
    Except Breakdown (Option String) :=
  match integerBase? n.kind with
  | some base => shownInteger? exempt negative base (source.chars n.label)
  | none => .ok (some ((if negative then "-" else "") ++ source.textOf n))

def finding (source : Source) (target : Node) (shown : String) : Finding :=
  .onNode source target Category.magicNumbers
    s!"Magic number '{shown}' found. Consider extracting this as a named constant"

-- A literal in a property declaration has a name.
def findingsAt (source : Source) (exempt : ScalarSet) (n : Node) :
    Except Breakdown (List Finding) :=
  if isNumber n && !n.isInside ["property_declaration"] then do
    let negation := negation? source n
    let shown ← shown? source exempt n negation.isSome
    return shown.toList.map (finding source (negation.getD n))
  else .ok []

def findings (source : Source) (settings : Settings) : Except Breakdown (List Finding) :=
  source.nodes.flatMapM (findingsAt source (settings.set .magicNumberExemptions))

end SwiftAudit.Rule.MagicNumber
