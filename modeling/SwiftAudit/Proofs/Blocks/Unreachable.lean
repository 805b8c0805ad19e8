import SwiftAudit.Proofs.Swift.Statements
import SwiftAudit.Rule.UnreachableCode

namespace SwiftAudit.Rule.UnreachableCode

-- What stands behind a `return` so that it is never run: its value, if that starts on a later row,
-- or else the next statement of the list that the `return` is in. Comments are no statements.
inductive CutsOff (source : Source) (r : Node) : Node → Prop where
  | value {value : Node} (hvalue : r.child? .result = some value)
      (hrow : source.row r.label < source.row value.label) : CutsOff source r value
  | next {block next : Node}
      (hvalue : ∀ value, r.child? .result = some value →
        ¬source.row r.label < source.row value.label)
      (hblock : r.parent? = some block) (hkind : block.kind = "statements")
      (hnext : [r, next] <:+: Swift.statementsIn block) : CutsOff source r next

def report (source : Source) (n : Node) : Finding :=
  .onNode source n Category.unreachableCode "Unreachable code detected after return statement"

def reported (source : Source) : List Node := source.root.preorder.filterMap (unreachable? source)

theorem findings_eq (source : Source) : findings source = (reported source).map (report source) := by
  rw [findings, Source.nodes, Node.all_eq_preorder]
  rfl

theorem detachedResult?_eq_some_iff {source : Source} {r value : Node} :
    detachedResult? source r = some value ↔
      r.child? .result = some value ∧ source.row r.label < source.row value.label := by
  rw [detachedResult?, Option.filter_eq_some_iff, decide_eq_true_eq]

theorem detachedResult?_eq_none_iff {source : Source} {r : Node} :
    detachedResult? source r = none ↔
      ∀ value, r.child? .result = some value → ¬source.row r.label < source.row value.label := by
  rw [Option.eq_none_iff_forall_ne_some]
  simp only [ne_eq, detachedResult?_eq_some_iff, not_and]

theorem successor?_eq (r : Node) :
    successor? r =
      if r.parentKind? == some "statements" && r.label.named then
        (r.laterSiblings.filter Swift.isStatement).head?
      else none := rfl

theorem successor?_eq_some_iff {source : Source} {r next : Node} (hr : r ∈ source.root.preorder)
    (hcomment : ¬r.isComment) :
    successor? r = some next ↔ ∃ block, r.parent? = some block ∧ block.kind = "statements" ∧
      [r, next] <:+: Swift.statementsIn block := by
  by_cases hroot : r = source.root
  · have hparent : r.parent? = none := by
      rw [hroot]
      rfl
    simp [successor?, Node.parentKind?, hparent]
  · obtain ⟨block, -, hchild⟩ := Node.exists_parent hr hroot
    have hstatement : Swift.isStatement r ↔ r.label.named := by
      simp [Swift.isStatement, hcomment]
    rw [successor?_eq, Node.parentKind?, Node.parent?_child hchild, Option.map_some,
      Option.ite_none_right_eq_some, Bool.and_eq_true, beq_iff_eq, Option.some.injEq,
      ← hstatement, and_assoc]
    constructor
    · rintro ⟨hkind, hnext⟩
      exact ⟨block, rfl, hkind, (Swift.pair_infix_statementsIn_iff hchild).mpr hnext⟩
    · rintro ⟨list, hlist, hkind, hnext⟩
      cases hlist
      exact ⟨hkind, (Swift.pair_infix_statementsIn_iff hchild).mp hnext⟩

-- Each `return` is followed in one way at most.
theorem unreachable?_eq_some_iff {source : Source} {r d : Node} (hr : r ∈ source.root.preorder) :
    unreachable? source r = some d ↔ Swift.isReturn source r ∧ CutsOff source r d := by
  rw [unreachable?, Option.ite_none_right_eq_some]
  apply and_congr_right
  intro hreturn
  cases hvalue : detachedResult? source r with
  | some value =>
      have hfound := detachedResult?_eq_some_iff.mp hvalue
      simp only [Option.some.injEq]
      constructor
      · rintro rfl
        exact .value hfound.1 hfound.2
      · rintro (⟨hd, -⟩ | ⟨hnone, -⟩)
        · rw [hfound.1] at hd
          exact Option.some.inj hd
        · exact absurd hfound.2 (hnone value hfound.1)
  | none =>
      have hnone := detachedResult?_eq_none_iff.mp hvalue
      simp only [successor?_eq_some_iff hr (Swift.not_isComment_of_isReturn hreturn)]
      constructor
      · rintro ⟨block, hblock, hkind, hnext⟩
        exact .next hnone hblock hkind hnext
      · rintro (⟨hd, hrow⟩ | ⟨-, hblock, hkind, hnext⟩)
        · exact absurd hrow (hnone d hd)
        · exact ⟨_, hblock, hkind, hnext⟩

-- A value is a child of its `return`, and a statement is one of its list. No `return` is a list.
theorem CutsOff.parent? {source : Source} {r d : Node} (h : CutsOff source r d) :
    d.parent? = some r ∨ ∃ block, d.parent? = some block ∧ block.kind = "statements" ∧
      [r, d] <:+: Swift.statementsIn block := by
  cases h with
  | value hvalue hrow => exact .inl (Node.parent?_child (List.mem_of_find?_eq_some hvalue))
  | next hvalue hblock hkind hnext =>
      have hd : d ∈ Swift.statementsIn _ := hnext.subset (List.mem_cons_of_mem _ List.mem_cons_self)
      exact .inr ⟨_, Swift.parent?_of_mem_statementsIn hd, hkind, hnext⟩

theorem CutsOff.pair_infix {source : Source} {r block d : Node} (h : CutsOff source r d)
    (hr : Swift.isReturn source r) (hkind : block.kind = "statements")
    (hblock : d.parent? = some block) : [r, d] <:+: Swift.statementsIn block := by
  rcases h.parent? with hparent | ⟨list, hparent, -, hnext⟩
  · rw [hparent] at hblock
    cases hblock
    have hreturn := Swift.kind_of_isReturn hr
    rw [hkind] at hreturn
    exact absurd hreturn (by decide)
  · rw [hparent] at hblock
    cases hblock
    exact hnext

-- No two of them have the same node behind them.
theorem eq_of_cutsOff {source : Source} {r r' d : Node} (hr : Swift.isReturn source r)
    (hr' : Swift.isReturn source r') (h : CutsOff source r d) (h' : CutsOff source r' d) :
    r = r' := by
  rcases h.parent? with hparent | ⟨block, hparent, hkind, hnext⟩
  · rcases h'.parent? with hparent' | ⟨block', hparent', hkind', -⟩
    · exact Option.some.inj (hparent.symm.trans hparent')
    · have hinfix := h.pair_infix hr hkind' hparent'
      have hinfix' := h'.pair_infix hr' hkind' hparent'
      exact eq_of_pair_infix (Swift.nodup_statementsIn block') hinfix hinfix'
  · have hinfix' := h'.pair_infix hr' hkind hparent
    exact eq_of_pair_infix (Swift.nodup_statementsIn block) hnext hinfix'

-- Each `return` has one node at most behind it that is reported: its value if that starts on a
-- later row, and else the statement next to it in its list, comments left out. They are reported
-- in the order of the `return`s, none of them twice, and a statement of a list only where the one
-- before it is a `return`.
theorem findings_eq_cutOff (source : Source) :
    let reported := source.root.preorder.filterMap (unreachable? source)
    findings source = reported.map (report source) ∧
      (∀ r ∈ source.root.preorder, ∀ d,
        unreachable? source r = some d ↔ Swift.isReturn source r ∧ CutsOff source r d) ∧
      reported.Nodup ∧
      ∀ block, block.kind = "statements" → ∀ d ∈ Swift.statementsIn block, d ∈ reported →
        ∃ r, [r, d] <:+: Swift.statementsIn block ∧ Swift.isReturn source r := by
  intro reported
  refine ⟨findings_eq source, fun r hr d => unreachable?_eq_some_iff hr, ?_, ?_⟩
  · refine List.pairwise_filterMap.mpr ((Node.nodup_preorder source.root).imp_of_mem ?_)
    rintro r r' hm hm' hne d hd _ hd' rfl
    obtain ⟨hr, hcut⟩ := (unreachable?_eq_some_iff hm).mp hd
    obtain ⟨hr', hcut'⟩ := (unreachable?_eq_some_iff hm').mp hd'
    exact hne (eq_of_cutsOff hr hr' hcut hcut')
  · intro block hkind d hd hreported
    obtain ⟨r, hm, hr⟩ := List.mem_filterMap.mp hreported
    obtain ⟨hreturn, hcut⟩ := (unreachable?_eq_some_iff hm).mp hr
    exact ⟨r, hcut.pair_infix hreturn hkind (Swift.parent?_of_mem_statementsIn hd), hreturn⟩

-- A `return` with its value on the next row, and one with a call behind a comment.
def twoReturns : Source :=
  .ofText "f.swift" "return\n1\nreturn\n//c\ng()\n" <|
    .node ⟨0, "source_file", 0, 24, true, false, false, []⟩
      [.node ⟨1, "statements", 0, 23, true, false, false, []⟩
        [.node ⟨2, "control_transfer_statement", 0, 8, true, false, false, []⟩
          [.node ⟨3, "return", 0, 6, false, false, false, []⟩ [],
            .node ⟨4, "integer_literal", 7, 8, true, false, false, [.result]⟩ []],
          .node ⟨5, "control_transfer_statement", 9, 15, true, false, false, []⟩
            [.node ⟨6, "return", 9, 15, false, false, false, []⟩ []],
          .node ⟨7, "comment", 16, 19, true, false, false, []⟩ [],
          .node ⟨8, "call_expression", 20, 23, true, false, false, []⟩ []]]

theorem findings_eq_cutOff_twoReturns :
    (findings twoReturns).length = 2 ∧ ∃ block ∈ twoReturns.root.children,
      block.kind = "statements" ∧ ∃ d ∈ Swift.statementsIn block, d.label.number = 8 ∧
        d ∈ twoReturns.root.preorder.filterMap (unreachable? twoReturns) ∧
        ∃ r, [r, d] <:+: Swift.statementsIn block ∧ Swift.isReturn twoReturns r ∧
          CutsOff twoReturns r d := by
  obtain ⟨block, hblock, hkind, d, hd, hnumber, hreported⟩ :
      ∃ block ∈ twoReturns.root.children, block.kind = "statements" ∧
        ∃ d ∈ Swift.statementsIn block, d.label.number = 8 ∧
          d ∈ twoReturns.root.preorder.filterMap (unreachable? twoReturns) := by
    decide +kernel
  obtain ⟨hfindings, hcut, -, hlist⟩ := findings_eq_cutOff twoReturns
  obtain ⟨r, hnext, hreturn⟩ := hlist block hkind d hd hreported
  obtain ⟨r', hr', hfound⟩ := List.mem_filterMap.mp hreported
  obtain ⟨hreturn', hcutOff⟩ := (hcut r' hr' d).mp hfound
  have hsame : r' = r := by
    have hnext' := hcutOff.pair_infix hreturn' hkind (Swift.parent?_of_mem_statementsIn hd)
    exact eq_of_pair_infix (Swift.nodup_statementsIn block) hnext' hnext
  refine ⟨?_, block, hblock, hkind, d, hd, hnumber, hreported, r, hnext, hreturn, hsame ▸ hcutOff⟩
  rw [hfindings, List.length_map]
  decide +kernel

end SwiftAudit.Rule.UnreachableCode
