import SwiftAudit.Text.Numeral

namespace SwiftAudit.Text.Utf8

inductive Defect where
  | invalidStart
  | invalidContinuation
  | unexpectedEnd
  deriving DecidableEq, Repr

-- What stands at the head of a byte string: a character, or the longest start of one that
-- the next byte, or the end, breaks off. A byte that starts no character is a defect alone.
inductive Piece where
  | character (c : Char) (size : Nat)
  | defect (why : Defect) (size : Nat)
  deriving DecidableEq, Repr

def Piece.size : Piece → Nat
  | .character _ size => size
  | .defect _ size => size

-- How many bytes follow a first byte that is not ASCII. The bytes that could only start an
-- overlong form or a code point above the last start nothing.
def tailSize? (lead : UInt8) : Option Nat :=
  if 0xC2 ≤ lead && lead ≤ 0xDF then some 1
  else if 0xE0 ≤ lead && lead ≤ 0xEF then some 2
  else if 0xF0 ≤ lead && lead ≤ 0xF4 then some 3
  else none

-- The second byte excludes the remaining overlong forms, the surrogates and the code points
-- above the last.
def secondRange (lead : UInt8) : UInt8 × UInt8 :=
  if lead = 0xE0 then (0xA0, 0xBF)
  else if lead = 0xED then (0x80, 0x9F)
  else if lead = 0xF0 then (0x90, 0xBF)
  else if lead = 0xF4 then (0x80, 0x8F)
  else (0x80, 0xBF)

def leadBits (owed : Nat) (lead : UInt8) : Nat :=
  lead.toNat % Nat.pow 2 (6 - owed)

-- Reads the `owed` remaining bytes of a character of which `size` bytes are read.
def continued (code size : Nat) : (owed : Nat) → UInt8 × UInt8 → List UInt8 → Piece
  | 0, _, _ => .character (Char.ofNat code) size
  | _ + 1, _, [] => .defect .unexpectedEnd size
  | owed + 1, (low, high), byte :: rest =>
    if low ≤ byte && byte ≤ high then
      continued (code * 64 + byte.toNat % 64) (size + 1) owed (0x80, 0xBF) rest
    else .defect .invalidContinuation size

def firstPiece (lead : UInt8) (rest : List UInt8) : Piece :=
  if lead < 0x80 then .character (Char.ofNat lead.toNat) 1
  else match tailSize? lead with
    | none => .defect .invalidStart 1
    | some owed => continued (leadBits owed lead) 1 owed (secondRange lead) rest

-- The pieces of a byte string, of which the first `skip` bytes belong to the piece before.
def piecesAfter : (skip : Nat) → List UInt8 → List Piece
  | _, [] => []
  | skip + 1, _ :: rest => piecesAfter skip rest
  | 0, lead :: rest =>
    let piece := firstPiece lead rest
    piece :: piecesAfter (piece.size - 1) rest

def pieces (bytes : List UInt8) : List Piece := piecesAfter 0 bytes

def encode (text : List Char) : List UInt8 := text.flatMap String.utf8EncodeChar

-- Every defect becomes one replacement character.
def decodeLossy (bytes : List UInt8) : List Char :=
  (pieces bytes).map fun
    | .character c _ => c
    | .defect _ _ => '\uFFFD'

-- The first defect of a byte string: the bytes from `position` on, `size` of them.
structure Fault where
  why : Defect
  position : Nat
  size : Nat
  lead : UInt8
  deriving DecidableEq, Repr

def decodePieces (bytes : List UInt8) : (position : Nat) → List Piece → Except Fault (List Char)
  | _, [] => .ok []
  | position, .character c size :: rest =>
    match decodePieces bytes (position + size) rest with
    | .ok text => .ok (c :: text)
    | .error fault => .error fault
  | position, .defect why size :: _ =>
    .error ⟨why, position, size, (bytes.drop position).headD 0⟩

def decode (bytes : List UInt8) : Except Fault (List Char) :=
  decodePieces bytes 0 (pieces bytes)

def Defect.message : Defect → String
  | .invalidStart => "invalid start byte"
  | .invalidContinuation => "invalid continuation byte"
  | .unexpectedEnd => "unexpected end of data"

def Fault.message (fault : Fault) : String :=
  let subject :=
    if fault.size = 1 then
      s!"byte 0x{String.ofList (hexText 2 fault.lead.toNat)} in position {fault.position}"
    else s!"bytes in position {fault.position}-{fault.position + fault.size - 1}"
  s!"'utf-8' codec can't decode {subject}: {fault.why.message}"

end SwiftAudit.Text.Utf8
