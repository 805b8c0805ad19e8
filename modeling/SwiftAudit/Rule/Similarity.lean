import SwiftAudit.Number.Double

namespace SwiftAudit.Rule.Similarity

-- The size of the intersection of two texts as multisets of characters.
def common (a b : List Char) : Nat :=
  (a.eraseDups.map fun c => min (a.count c) (b.count c)).foldr (· + ·) 0

-- Shared characters by the longer length. A text more than twice as long as the other is
-- not worth comparing; its share would stay below a half.
def similarity (a b : List Char) : Double :=
  let longest := max a.length b.length
  let shortest := min a.length b.length
  if longest = 0 then .nearest false 1 1
  else if longest > 2 * shortest then .zero
  else .nearest false (common a b) longest

-- A ratio in per cent, cut to an integer. The product is rounded to a double before.
def percent (ratio : Double) : Nat :=
  match ratio with
  | .finite _ mantissa exponent =>
    let (num, den) := Double.scaled (mantissa * 100) 1 (-exponent)
    match Double.nearest false num den with
    | .finite _ m e =>
      let (n, d) := Double.scaled m 1 (-e)
      n / d
    | _ => 0
  | _ => 0

end SwiftAudit.Rule.Similarity
