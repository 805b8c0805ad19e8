namespace SwiftAudit.Text

-- The code points `first`, `first + step`, … up to `last`. Letters of two cases
-- often alternate, so a step of two halves the tables of cased letters.
structure Run where
  first : Nat
  last : Nat
  step : Nat
  deriving DecidableEq, Repr

def Run.contains (r : Run) (n : Nat) : Bool :=
  r.first ≤ n && n ≤ r.last && (n - r.first) % r.step == 0

-- A property of characters given by the runs of code points that have it.
def inRuns (runs : List Run) (c : Char) : Bool :=
  runs.any (·.contains c.toNat)

end SwiftAudit.Text
