import SwiftAudit.Proofs.Position.Significant
import SwiftAudit.Rule.LongFunction

namespace SwiftAudit

namespace Source

-- Some byte that a node covers is no blank, and does not stand before the offset.
def HasTextFrom (source : Source) (n : Node) (offset : Nat) : Prop :=
  ∃ i byte, offset ≤ i ∧ n.label.start ≤ i ∧ i < n.label.stop ∧
    source.bytes[i]? = some byte ∧ ¬isSkipped byte

variable {source : Source} {n token : Node}

-- A leading leaf is the first token. Where a node has a token, but no leading leaf, it is at its
-- own first byte.
theorem significantStart_lt_stop (htoken : n.firstToken? = some token)
    (htext : source.HasTextFrom n token.label.start) :
    source.significantStart n.tree < n.label.stop ∧
      source.significantStart n.tree < source.bytes.length := by
  obtain ⟨i, byte, htokenStart, hstart, hstop, hbyte, hunblank⟩ := htext
  have hleaf : ∀ leaf, n.tree.leadingLeaf? = some leaf → leaf.start ≤ i := by
    intro leaf hleaf
    obtain ⟨first, hfirst, rfl⟩ := Node.firstToken?_of_leadingLeaf? hleaf
    rw [htoken] at hfirst
    cases hfirst
    exact htokenStart
  have hle := source.significantStart_le n hstart hleaf hbyte hunblank
  have hlength := (List.getElem?_eq_some_iff.mp hbyte).1
  omega

theorem start_le_significantStart (hnested : n.NestsSpans) :
    n.label.start ≤ source.significantStart n.tree := by
  cases hleaf : n.tree.leadingLeaf? with
  | none =>
      rw [significantStart, hleaf]
      exact Nat.le_refl _
  | some leaf =>
      obtain ⟨first, hfirst, rfl⟩ := Node.firstToken?_of_leadingLeaf? hleaf
      have hspan := hnested.within (Node.mem_of_firstToken? hfirst)
      rw [significantStart, hleaf]
      dsimp only
      omega

end Source

namespace Rule.LongFunction

-- The lines of a body by what stands before its two ends. Neither end needs to lie inside the
-- bytes or before the other one.
theorem lineCount_eq (source : Source) (body : Node) :
    lineCount source body =
      (source.bytes.take (max body.label.start (body.label.stop - 1))).count lineFeed -
        (source.bytes.take (source.significantStart body.tree)).count lineFeed + 1 := by
  rw [lineCount, source.endPosition_eq_nat, Source.position, source.lineTable_eq,
    LineTable.line_position, LineTable.line_position]
  omega

-- From the first significant byte on to the last byte the line feeds between them count.
theorem lineCount_of_lt {source : Source} {body : Node}
    (hstart : body.label.start < body.label.stop)
    (hfirst : source.significantStart body.tree < body.label.stop) :
    lineCount source body =
      1 + ((source.bytes.take (body.label.stop - 1)).drop
        (source.significantStart body.tree)).count lineFeed := by
  have hlast : max body.label.start (body.label.stop - 1) = body.label.stop - 1 := by omega
  have hle : source.significantStart body.tree ≤ body.label.stop - 1 := by omega
  have hcount := count_lineFeed_take source.bytes hle
  rw [lineCount_eq, hlast]
  omega

-- How many lines the body of a function has, if there is a body.
def bodyLines (source : Source) (f : Node) : Int :=
  ((f.child? .body).map (lineCount source)).getD 0

theorem bodyLines_eq {source : Source} {f body : Node} (h : f.child? .body = some body) :
    bodyLines source f = lineCount source body := by
  rw [bodyLines, h]
  rfl

def isLong (source : Source) (threshold : Int) (f : Node) : Bool :=
  Swift.functionKinds.contains f.kind && (f.child? .body).isSome &&
    decide (threshold < bodyLines source f)

def report (source : Source) (threshold : Int) (f : Node) : Finding :=
  .onNode source ((f.child? .name).getD f) Category.complexity
    (s!"Function '{Swift.declarationName source f}' is {bodyLines source f} lines long, " ++
      s!"which exceeds the recommended maximum of {threshold} lines")

theorem finding?_eq (source : Source) (threshold : Int) (f : Node) :
    (if Swift.functionKinds.contains f.kind then finding? source threshold f else none) =
      if isLong source threshold f then some (report source threshold f) else none := by
  cases hf : Swift.functionKinds.contains f.kind with
  | false =>
      have hshort : isLong source threshold f = false := by
        rw [isLong, hf, Bool.false_and, Bool.false_and]
      rw [hshort]
      rfl
  | true =>
      rw [isLong, hf, Bool.true_and, finding?]
      cases hbody : f.child? .body with
      | none => rfl
      | some body =>
          rw [report, bodyLines_eq hbody]
          simp only [Option.isSome_some, Bool.true_and, gt_iff_lt, decide_eq_true_eq]
          rfl

-- Of the functions with a body those are reported, at their names, whose bodies have too many
-- lines. A body has one line more than there are line feeds from its first significant byte to
-- its last byte, and so at least one line, if some text is left from its first token on. The
-- significant start does not pass the last byte then, nor lie before the body.
theorem findings_eq_long (source : Source) (settings : Settings) :
    let threshold := settings.number .longFunctionThreshold
    findings source settings =
        (source.root.preorder.filter (isLong source threshold)).map (report source threshold) ∧
      ∀ f body token, f.child? .body = some body → body.firstToken? = some token →
        source.HasTextFrom body token.label.start →
        let first := source.significantStart body.tree
        let last := body.label.stop - 1
        bodyLines source f = 1 + ((source.bytes.take last).drop first).count lineFeed ∧
          1 ≤ bodyLines source f ∧ first ≤ last ∧
          (body.LedBy token → IsSignificantFrom source.bytes token.label.start first) ∧
          (body.NestsSpans → body.label.start ≤ first) := by
  intro threshold
  constructor
  · rw [findings, Source.nodes, Node.all_eq_preorder, List.filterMap_filter,
      funext (finding?_eq source threshold), ← List.filterMap_eq_map, List.filterMap_filter]
    rfl
  · intro f body token hbody htoken htext first last
    have hstart : body.label.start < body.label.stop := by
      obtain ⟨i, -, -, hstart, hstop, -⟩ := htext
      omega
    obtain ⟨hfirst, hlength⟩ := Source.significantStart_lt_stop htoken htext
    have hlines := (bodyLines_eq hbody).trans (lineCount_of_lt hstart hfirst)
    refine ⟨hlines, by omega, by omega, ?_, Source.start_le_significantStart⟩
    intro hled
    exact source.isSignificantFrom_significantStart body hled.leadingLeaf? (Nat.le_of_lt hlength)

-- A function whose body starts in the first of two lines of a comment, before the brace.
def commentedBody : Source :=
  .ofText "f.swift" "func f() /*\n*/ \x7b\n\n\x7d\n" <|
    .node ⟨0, "source_file", 0, 20, true, false, false, []⟩
      [.node ⟨1, "function_declaration", 0, 19, true, false, false, []⟩
        [.node ⟨2, "simple_identifier", 5, 6, true, false, false, [.name]⟩ [],
          .node ⟨3, "function_body", 9, 19, true, false, false, [.body]⟩
            [.node ⟨4, "multiline_comment", 9, 14, true, false, false, []⟩ [],
              .node ⟨5, "\x7b", 15, 16, false, false, false, []⟩ [],
              .node ⟨6, "\x7d", 18, 19, false, false, false, []⟩ []]]]

theorem findings_eq_long_commentedBody :
    ∃ f ∈ commentedBody.root.children, ∃ body ∈ f.child? .body, ∃ token ∈ body.firstToken?,
      token.label.start = 15 ∧ commentedBody.HasTextFrom body token.label.start ∧
        body.LedBy token ∧ body.NestsSpans ∧ bodyLines commentedBody f = 3 ∧
        body.label.start ≤ commentedBody.significantStart body.tree ∧
        IsSignificantFrom commentedBody.bytes 15 (commentedBody.significantStart body.tree) := by
  obtain ⟨f, hf, body, hbody, token, htoken, hstart, hspan, hled, hnested, hcount⟩ :
      ∃ f ∈ commentedBody.root.children, ∃ body ∈ f.child? .body, ∃ token ∈ body.firstToken?,
        token.label.start = 15 ∧ (body.label.start = 9 ∧ body.label.stop = 19) ∧
          body.LedBy token ∧ body.NestsSpans ∧
          ((commentedBody.bytes.take (body.label.stop - 1)).drop
            (commentedBody.significantStart body.tree)).count lineFeed = 2 := by
    decide +kernel
  have htext : commentedBody.HasTextFrom body token.label.start := by
    refine ⟨15, 0x7B, ?_, ?_, ?_, by decide +kernel⟩
    · omega
    · omega
    · omega
  obtain ⟨-, hbodies⟩ := findings_eq_long commentedBody .default
  obtain ⟨hlines, -, -, hsignificant, hwithin⟩ := hbodies f body token hbody htoken htext
  refine ⟨f, hf, body, hbody, token, htoken, hstart, htext, hled, hnested, ?_, hwithin hnested, ?_⟩
  · rw [hlines, hcount]
    rfl
  · rw [← hstart]
    exact hsignificant hled

end Rule.LongFunction

end SwiftAudit
