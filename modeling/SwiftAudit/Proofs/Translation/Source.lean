import SwiftAudit.Proofs.Position.Encoding
import SwiftAudit.Proofs.Position.LineTable
import SwiftAudit.Proofs.Translation.Tree
import SwiftAudit.Source.Basic

namespace SwiftAudit.Source

-- One source is the other with whole lines put above its text, and the same tree below them.
structure MovedBy (above : List UInt8) (source moved : Source) : Prop where
  path_eq : moved.path = source.path
  tree_eq : moved.tree = source.tree.shift above.length
  bytes_eq : moved.bytes = above ++ source.bytes
  whole : EndsLine above

theorem movedBy_ofText (path above text : String) (tree : Tree)
    (h : above = "" ∨ above.toList.getLast? = some '\n') :
    MovedBy (Text.Utf8.encode above.toList) (ofText path text tree)
      (ofText path (above ++ text) (tree.shift (Text.Utf8.encode above.toList).length)) where
  path_eq := rfl
  tree_eq := rfl
  bytes_eq := by
    simp only [ofText, String.toList_append, Text.Utf8.encode_append]
  whole := by
    rcases h with rfl | h
    · exact .inl rfl
    · obtain ⟨before, hb⟩ := List.getLast?_eq_some_iff.mp h
      refine .inr ?_
      rw [hb, Text.Utf8.encode_append, Text.Utf8.encode_cons, Text.Utf8.encode_lineFeed]
      simp

namespace MovedBy

variable {above : List UInt8} {source moved : Source}

theorem root_eq (h : MovedBy above source moved) :
    moved.root = source.root.shift above.length := by
  rw [root, h.tree_eq]
  rfl

theorem nodes_eq (h : MovedBy above source moved) :
    moved.nodes = source.nodes.map (Node.shift above.length) := by
  rw [nodes, h.root_eq, Node.all_shift, nodes]

theorem events_eq (h : MovedBy above source moved) :
    moved.root.events = source.root.events.map (Event.shift above.length) := by
  rw [h.root_eq, Node.events_shift]

theorem chars_eq (h : MovedBy above source moved) (label : Label) :
    moved.chars (label.shift above.length) = source.chars label := by
  have hstart : label.start + above.length = above.length + label.start := by omega
  have hsize : above.length + label.start + label.stop - (label.start + above.length) =
      label.stop := by omega
  unfold chars
  rw [h.bytes_eq, Label.start_shift, Label.stop_shift, Nat.add_sub_add_right, hstart,
    List.drop_length_add_append]

theorem textOf_eq (h : MovedBy above source moved) (n : Node) :
    moved.textOf (n.shift above.length) = source.textOf n := by
  rw [textOf, Node.label_shift, h.chars_eq, textOf]

theorem textOf?_eq (h : MovedBy above source moved) (n : Option Node) :
    moved.textOf? (n.map (Node.shift above.length)) = source.textOf? n := by
  cases n with
  | none => rfl
  | some n => exact h.textOf_eq n

theorem significantStart_eq (h : MovedBy above source moved) (tree : Tree) :
    moved.significantStart (tree.shift above.length) =
      source.significantStart tree + above.length := by
  unfold significantStart
  rw [Tree.leadingLeaf?_shift]
  cases tree.leadingLeaf? with
  | none => simp
  | some leaf =>
      have hstart : leaf.start + above.length = above.length + leaf.start := by omega
      simp only [Option.map_some, Label.start_shift, h.bytes_eq]
      rw [hstart, List.drop_length_add_append]
      omega

theorem position_bytes (h : MovedBy above source moved) (offset : Nat) :
    moved.lineTable.position ↑(offset + above.length) =
      (source.lineTable.position ↑offset).down (above.count lineFeed) := by
  rw [moved.lineTable_eq, source.lineTable_eq, h.bytes_eq]
  exact LineTable.position_append above source.bytes h.whole offset

theorem position_eq (h : MovedBy above source moved) (n : Node) :
    moved.position (n.shift above.length) =
      (source.position n).down (above.count lineFeed) := by
  rw [position, Node.tree_shift, h.significantStart_eq, h.position_bytes, position]

theorem endPosition_eq (h : MovedBy above source moved) (n : Node) :
    moved.endPosition (n.shift above.length) =
      (source.endPosition n).down (above.count lineFeed) := by
  -- the offset is never negative, as a node does not start before the bytes
  have hmoved : max ((n.label.start + above.length : Nat) : Int)
      ((n.label.stop + above.length : Nat) - 1) =
        ((max n.label.start (n.label.stop - 1) + above.length : Nat) : Int) := by omega
  have hsource : max (n.label.start : Int) ((n.label.stop : Int) - 1) =
      ((max n.label.start (n.label.stop - 1) : Nat) : Int) := by omega
  rw [endPosition, Node.label_shift, Label.start_shift, Label.stop_shift, hmoved,
    h.position_bytes, endPosition, hsource]

theorem row_eq (h : MovedBy above source moved) (label : Label) :
    moved.row (label.shift above.length) = source.row label + above.count lineFeed := by
  have hstart : label.start + above.length = above.length + label.start := by omega
  unfold row
  rw [h.bytes_eq, Label.start_shift, hstart, List.take_length_add_append, List.count_append]
  omega

end MovedBy

end SwiftAudit.Source
