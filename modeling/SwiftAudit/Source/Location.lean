namespace SwiftAudit

-- Lines and columns count from one; columns count bytes.
structure Position where
  line : Nat
  column : Nat
  deriving DecidableEq, Repr

def lineFeed : UInt8 := 0x0A

-- The offsets just after the line feeds of bytes that start at `offset`.
def lineStartsAfter : (offset : Nat) → List UInt8 → List Nat
  | _, [] => []
  | offset, byte :: rest =>
    if byte = lineFeed then (offset + 1) :: lineStartsAfter (offset + 1) rest
    else lineStartsAfter (offset + 1) rest

-- The offsets at which the lines start, ascending.
structure LineTable where
  size : Nat
  laterStarts : List Nat
  deriving DecidableEq, Repr

namespace LineTable

def ofBytes (bytes : List UInt8) : LineTable := ⟨bytes.length, lineStartsAfter 0 bytes⟩

-- Offsets outside the bytes count as their nearer end.
def clamp (table : LineTable) (offset : Int) : Nat := min offset.toNat table.size

-- The lines that start after the first one and not after the offset decide both numbers.
def position (table : LineTable) (offset : Int) : Position :=
  let offset := table.clamp offset
  let passed := table.laterStarts.takeWhile (· ≤ offset)
  ⟨passed.length + 1, offset - passed.getLastD 0 + 1⟩

end LineTable

end SwiftAudit
