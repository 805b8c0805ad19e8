import SwiftAudit.Source.Location
import SwiftAudit.Text.Line
import SwiftAudit.Text.Utf8
import SwiftAudit.Tree.Traversal

namespace SwiftAudit

-- A Swift text with the tree that a parser gave for its bytes. The bytes and their lines
-- are kept, as every rule asks for them.
structure Source where
  path : String
  text : String
  tree : Tree
  bytes : List UInt8
  lineTable : LineTable
  bytes_eq : bytes = Text.Utf8.encode text.toList
  lineTable_eq : lineTable = LineTable.ofBytes bytes

namespace Source

def ofText (path text : String) (tree : Tree) : Source :=
  ⟨path, text, tree, Text.Utf8.encode text.toList, LineTable.ofBytes (Text.Utf8.encode text.toList),
    rfl, rfl⟩

def root (source : Source) : Node := .root source.tree

def nodes (source : Source) : List Node := source.root.all

def lines (source : Source) : List (List Char) := Text.lines source.text.toList

-- The bytes of a node as text. A span may cut a character, which then is no text.
def chars (source : Source) (label : Label) : List Char :=
  Text.Utf8.decodeLossy ((source.bytes.drop label.start).take (label.stop - label.start))

def textOf (source : Source) (n : Node) : String := String.ofList (source.chars n.label)

-- A node that is not there has no text.
def textOf? (source : Source) : Option Node → String
  | some n => source.textOf n
  | none => ""

def isSkipped (byte : UInt8) : Bool :=
  byte = 0x20 || byte = 0x09 || byte = 0x0D || byte = 0x0A

-- Comments and blanks may lead a node's span. Its text proper starts at its leading leaf.
def significantStart (source : Source) (tree : Tree) : Nat :=
  match tree.leadingLeaf? with
  | some leaf => leaf.start + ((source.bytes.drop leaf.start).takeWhile isSkipped).length
  | none => tree.label.start

def position (source : Source) (n : Node) : Position :=
  source.lineTable.position (source.significantStart n.tree)

-- The position of the last byte that a node covers.
def endPosition (source : Source) (n : Node) : Position :=
  source.lineTable.position (max (n.label.start : Int) ((n.label.stop : Int) - 1))

-- The number of line feeds before a node.
def row (source : Source) (label : Label) : Nat :=
  (source.bytes.take label.start).count lineFeed

end Source

end SwiftAudit
