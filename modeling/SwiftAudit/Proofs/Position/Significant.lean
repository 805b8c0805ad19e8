import SwiftAudit.Proofs.Position.Counting
import SwiftAudit.Proofs.Tree.Leading

namespace SwiftAudit

-- The first byte from a start on that is no blank, or the end of the bytes.
structure IsSignificantFrom (bytes : List UInt8) (start offset : Nat) : Prop where
  skipped : ∀ i byte, start ≤ i → i < offset → bytes[i]? = some byte → Source.isSkipped byte
  stops : (start ≤ offset ∧ ∃ byte, bytes[offset]? = some byte ∧ ¬Source.isSkipped byte) ∨
    offset = bytes.length

namespace Source

-- Blanks are skipped up to a byte that is none, or else up to the end, where a position stays
-- also when the start is behind it.
theorem exists_isSignificantFrom (bytes : List UInt8) (start : Nat) :
    ∃ offset, IsSignificantFrom bytes start offset ∧
      (LineTable.ofBytes bytes).clamp
        ↑(start + ((bytes.drop start).takeWhile isSkipped).length) = offset := by
  have hblanks : ((bytes.drop start).takeWhile isSkipped).length =
      (bytes.drop start).findIdx (!isSkipped ·) := by
    have hle : (bytes.drop start).findIdx (!isSkipped ·) ≤ (bytes.drop start).length :=
      List.findIdx_le_length
    rw [List.takeWhile_eq_take_findIdx_not, List.length_take, Nat.min_eq_left hle]
  have hskipped (i : Nat) (byte : UInt8) (hstart : start ≤ i)
      (hi : i < start + (bytes.drop start).findIdx (!isSkipped ·))
      (hbyte : bytes[i]? = some byte) : isSkipped byte := by
    have hindex : start + (i - start) = i := by omega
    have hlt : i - start < (bytes.drop start).findIdx (!isSkipped ·) := by omega
    have hfound := List.not_of_lt_findIdx hlt
    obtain ⟨hlength, hbyte⟩ := List.getElem?_eq_some_iff.mp hbyte
    simp only [List.getElem_drop, hindex, hbyte] at hfound
    simpa using hfound
  rw [hblanks]
  by_cases hfound : (bytes.drop start).findIdx (!isSkipped ·) < (bytes.drop start).length
  · have hbyte := List.findIdx_getElem (w := hfound)
    rw [List.getElem_drop] at hbyte
    have hlength : start + (bytes.drop start).findIdx (!isSkipped ·) < bytes.length := by
      rw [List.length_drop] at hfound
      omega
    refine ⟨start + (bytes.drop start).findIdx (!isSkipped ·), ⟨hskipped, .inl ⟨?_, ?_⟩⟩,
      LineTable.clamp_of_le bytes (Nat.le_of_lt hlength)⟩
    · exact Nat.le_add_right _ _
    · exact ⟨_, List.getElem?_eq_getElem hlength, by simpa using hbyte⟩
  · have hend : bytes.length ≤ start + (bytes.drop start).findIdx (!isSkipped ·) := by
      rw [List.length_drop] at hfound
      omega
    refine ⟨bytes.length, ⟨?_, .inr rfl⟩, Nat.min_eq_right hend⟩
    intro i byte hstart hi hbyte
    exact hskipped i byte hstart (by omega) hbyte

variable (source : Source) (n : Node)

theorem position_of_leaf {leaf : Label} (h : n.tree.leadingLeaf? = some leaf) :
    ∃ offset, IsSignificantFrom source.bytes leaf.start offset ∧
      source.position n = source.lineTable.position offset := by
  obtain ⟨offset, hoffset, hclamp⟩ := exists_isSignificantFrom source.bytes leaf.start
  refine ⟨offset, hoffset, ?_⟩
  rw [← hclamp, source.lineTable_eq, LineTable.position_clamp, ← source.lineTable_eq, position,
    significantStart, h]

theorem position_of_none (h : n.tree.leadingLeaf? = none) :
    source.position n = source.lineTable.position n.label.start := by
  rw [position, significantStart, h]
  rfl

-- A token that starts with a byte that is no blank is where it starts.
theorem position_of_unblank {leaf : Label} {byte : UInt8} (h : n.tree.leadingLeaf? = some leaf)
    (hbyte : source.bytes[leaf.start]? = some byte) (hunblank : ¬isSkipped byte) :
    source.position n = source.lineTable.position leaf.start := by
  obtain ⟨offset, hoffset, hposition⟩ := source.position_of_leaf n h
  have hlength := (List.getElem?_eq_some_iff.mp hbyte).1
  have hstart : offset = leaf.start := by
    have hle : ¬leaf.start < offset := fun hlt =>
      hunblank (hoffset.skipped leaf.start byte (Nat.le_refl _) hlt hbyte)
    rcases hoffset.stops with ⟨hge, -⟩ | hend
    · omega
    · omega
  rw [hposition, hstart]

-- A byte of a node that is no blank stops the way to the significant start, if it does not stand
-- before the leading leaf.
theorem significantStart_le {i : Nat} {byte : UInt8} (hstart : n.label.start ≤ i)
    (hleaf : ∀ leaf, n.tree.leadingLeaf? = some leaf → leaf.start ≤ i)
    (hbyte : source.bytes[i]? = some byte) (hunblank : ¬isSkipped byte) :
    source.significantStart n.tree ≤ i := by
  cases hlead : n.tree.leadingLeaf? with
  | none =>
      rw [significantStart, hlead]
      exact hstart
  | some leaf =>
      obtain ⟨offset, hoffset, hclamp⟩ := exists_isSignificantFrom source.bytes leaf.start
      have hlength := (List.getElem?_eq_some_iff.mp hbyte).1
      have hle : offset ≤ i := by
        by_contra hlt
        exact hunblank (hoffset.skipped i byte (hleaf leaf hlead) (by omega) hbyte)
      rw [significantStart, hlead]
      simp only [LineTable.clamp, LineTable.ofBytes, Int.toNat_natCast] at hclamp
      dsimp only
      omega

theorem isSignificantFrom_significantStart {leaf : Label} (h : n.tree.leadingLeaf? = some leaf)
    (hlength : source.significantStart n.tree ≤ source.bytes.length) :
    IsSignificantFrom source.bytes leaf.start (source.significantStart n.tree) := by
  obtain ⟨offset, hoffset, hclamp⟩ := exists_isSignificantFrom source.bytes leaf.start
  rw [significantStart, h] at hlength ⊢
  rw [LineTable.clamp_of_le _ hlength] at hclamp
  rwa [hclamp]

theorem not_before_of_le {a b : Nat} (h : a ≤ b) :
    ¬(source.lineTable.position b).Before (source.lineTable.position a) := by
  rw [source.lineTable_eq, LineTable.position_before_iff]
  simp only [LineTable.clamp]
  omega

theorem endPosition_eq_nat :
    source.endPosition n =
      source.lineTable.position ↑(max n.label.start (n.label.stop - 1)) := by
  have hoffset : max (n.label.start : Int) ((n.label.stop : Int) - 1) =
      ↑(max n.label.start (n.label.stop - 1)) := by omega
  rw [endPosition, hoffset]

-- A node is where its first token is, comments left out: at the first byte from there on that is
-- no blank. A node with nothing but comments is at its own first byte. The way down to the token
-- ends for every tree, and decides between the two. Where spans are nested and the token has a
-- text that starts without a blank, the position is the one of the token, inside the node.
theorem position_isLeading :
    (∀ token, n.LedBy token →
      (∃ offset, IsSignificantFrom source.bytes token.label.start offset ∧
        source.position n = source.lineTable.position offset) ∧
      (n.NestsSpans → token.label.start < token.label.stop →
        (∃ byte, source.bytes[token.label.start]? = some byte ∧ ¬isSkipped byte) →
        source.position n = source.lineTable.position token.label.start ∧
          n.label.start ≤ token.label.start ∧ token.label.start < n.label.stop ∧
          ¬(source.position n).Before (source.lineTable.position n.label.start) ∧
          ¬(source.endPosition n).Before (source.position n))) ∧
      (n.children ≠ [] → (∀ child ∈ n.children, child.isComment) →
        source.position n = source.lineTable.position n.label.start) ∧
      ∃ last, Relation.ReflTransGen (fun a b => a.lead? = some b) n last ∧ last.lead? = none ∧
        if last.children = [] then
          ∃ offset, IsSignificantFrom source.bytes last.label.start offset ∧
            source.position n = source.lineTable.position offset
        else source.position n = source.lineTable.position n.label.start := by
  refine ⟨fun token hled => ⟨source.position_of_leaf n hled.leadingLeaf?, ?_⟩, ?_, ?_⟩
  · rintro hnested hne ⟨byte, hbyte, hunblank⟩
    have hposition := source.position_of_unblank n hled.leadingLeaf? hbyte hunblank
    have hspan := hnested.within (Node.mem_of_firstToken? hled.first)
    have hlast : token.label.start ≤ max n.label.start (n.label.stop - 1) := by omega
    rw [endPosition_eq_nat, hposition]
    exact ⟨rfl, hspan.1, by omega, source.not_before_of_le hspan.1, source.not_before_of_le hlast⟩
  · intro hinner hcomments
    apply position_of_none
    have hlead : n.lead? = none := List.find?_eq_none.mpr (by simpa using hcomments)
    rw [Node.leadingLeaf?_of_inner hinner, hlead, Option.bind_none]
  · obtain ⟨last, hway, hlast, hleaf⟩ := n.exists_end_of_descent
    refine ⟨last, hway, hlast, ?_⟩
    split
    · rename_i hchildren
      rw [if_pos hchildren] at hleaf
      exact source.position_of_leaf n hleaf
    · rename_i hchildren
      rw [if_neg hchildren] at hleaf
      exact source.position_of_none n hleaf

-- A name between two comments, in a node that starts with the blank before the name. The node
-- around the second comment has nothing else.
def commentedName : Source :=
  .ofText "f.swift" "/*c*/ f/*d*/" <|
    .node ⟨0, "source_file", 0, 12, true, false, false, []⟩
      [.node ⟨1, "multiline_comment", 0, 5, true, false, false, []⟩ [],
        .node ⟨2, "postfix_expression", 5, 7, true, false, false, []⟩
          [.node ⟨3, "simple_identifier", 6, 7, true, false, false, []⟩ []],
        .node ⟨4, "class_body", 7, 12, true, false, false, []⟩
          [.node ⟨5, "multiline_comment", 7, 12, true, false, false, []⟩ []]]

theorem position_isLeading_commentedName :
    (∃ token, commentedName.root.LedBy token ∧ token.label.number = 3 ∧
      commentedName.position commentedName.root = ⟨1, 7⟩) ∧
      ∃ body ∈ commentedName.root.children, body.label.number = 4 ∧
        commentedName.position body = ⟨1, 8⟩ := by
  constructor
  · obtain ⟨token, htoken⟩ : ∃ token, commentedName.root.firstToken? = some token :=
      Option.isSome_iff_exists.mp (by decide +kernel)
    have hlabel : ∀ token ∈ commentedName.root.firstToken?,
        token.label = ⟨3, "simple_identifier", 6, 7, true, false, false, []⟩ := by
      decide +kernel
    have hhidden : ∀ token ∈ commentedName.root.firstToken?, ∀ m ∈ commentedName.root.preorder,
        m ≠ commentedName.root → ¬m.isComment →
          [m, token].Sublist commentedName.root.preorder → m.firstToken?.isSome := by
      decide +kernel
    have hled : commentedName.root.LedBy token := by
      refine ⟨htoken, fun m hne hm hsub => ?_⟩
      exact hhidden token htoken m (hsub.subset List.mem_cons_self) hne hm hsub
    obtain ⟨hleading, -⟩ := position_isLeading commentedName commentedName.root
    obtain ⟨-, hstart⟩ := hleading token hled
    rw [hlabel token htoken] at hstart
    obtain ⟨hposition, -⟩ :=
      hstart (by unfold Node.NestsSpans; decide +kernel) (by decide) ⟨0x66, by decide +kernel⟩
    refine ⟨token, hled, by rw [hlabel token htoken], ?_⟩
    rw [hposition]
    decide +kernel
  · obtain ⟨body, hbody, hnumber, hstart, hinner, hcomments⟩ :
        ∃ body ∈ commentedName.root.children, body.label.number = 4 ∧ body.label.start = 7 ∧
          body.children ≠ [] ∧ ∀ child ∈ body.children, child.isComment := by
      decide +kernel
    obtain ⟨-, honly, -⟩ := position_isLeading commentedName body
    refine ⟨body, hbody, hnumber, ?_⟩
    rw [honly hinner hcomments, hstart]
    decide +kernel

end Source

end SwiftAudit
