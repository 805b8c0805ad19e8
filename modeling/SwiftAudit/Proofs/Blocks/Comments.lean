import Mathlib.Data.List.Find
import SwiftAudit.Proofs.Blocks.Unreachable
import SwiftAudit.Proofs.Swift.Comments
import SwiftAudit.Rule.EmptyCatch
import SwiftAudit.Rule.GuardCandidate

namespace SwiftAudit

namespace Rule

variable (chosen : Node → Bool) (source : Source)

namespace UnreachableCode

theorem detachedResult?_pruned {n : Node} (h : n.kind ∉ blockKinds) :
    detachedResult? (source.without chosen) (n.pruned (stays chosen)) =
      (detachedResult? source n).map (Node.pruned (stays chosen)) := by
  have hvalue : (n.pruned (stays chosen)).child? .result =
      (n.child? .result).map (Node.pruned (stays chosen)) := by
    rw [Node.child?, children_pruned_of_notMem h, List.find?_map]
    rfl
  rw [detachedResult?, hvalue, detachedResult?]
  cases n.child? .result with
  | none => rfl
  | some value =>
      rw [Option.map_some, Option.filter_some, Option.filter_some, apply_ite (Option.map _)]
      rfl

theorem successor?_pruned (n : Node) :
    successor? (n.pruned (stays chosen)) = (successor? n).map (Node.pruned (stays chosen)) := by
  have hsame : Swift.isStatement ∘ Node.pruned (stays chosen) = Swift.isStatement := rfl
  rw [successor?_eq, Node.parentKind?_pruned, Node.label_pruned, Node.laterSiblings_pruned,
    List.filter_map, hsame, filter_stays fun _ => Swift.not_isComment_of_isStatement,
    List.head?_map, successor?_eq]
  split <;> rfl

theorem unreachable?_pruned (n : Node) :
    unreachable? (source.without chosen) (n.pruned (stays chosen)) =
      (unreachable? source n).map (Node.pruned (stays chosen)) := by
  rw [unreachable?, Swift.isReturn_pruned, unreachable?]
  by_cases hreturn : Swift.isReturn source n
  · have hblock : n.kind ∉ blockKinds := by
      rw [Swift.kind_of_isReturn hreturn]
      decide
    rw [if_pos hreturn, if_pos hreturn, detachedResult?_pruned chosen source hblock,
      successor?_pruned]
    cases detachedResult? source n <;> rfl
  · rw [if_neg hreturn, if_neg hreturn]
    rfl

variable {chosen source}

theorem reported_without (chosen : Node → Bool) (h : source.root.HasPlainComments) :
    reported (source.without chosen) = (reported source).map (Node.pruned (stays chosen)) := by
  rw [reported, preorder_without chosen h, List.filterMap_map, List.filterMap_filter, reported,
    List.map_filterMap]
  congr 1
  funext n
  rw [Function.comp_apply, unreachable?_pruned]
  by_cases hn : stays chosen n
  · rw [if_pos hn]
  · have hreturn : ¬Swift.isReturn source n := fun hreturn =>
      Swift.not_isComment_of_isReturn hreturn (isComment_of_not_stays hn)
    rw [if_neg hn, unreachable?, if_neg hreturn]
    rfl

theorem stays_of_reported {n : Node} (h : n ∈ reported source) : stays chosen n := by
  obtain ⟨r, hr, hfound⟩ := List.mem_filterMap.mp h
  obtain ⟨hreturn, hcut⟩ := (unreachable?_eq_some_iff hr).mp hfound
  cases hcut with
  | value hvalue hrow =>
      have hblock : r.kind ∉ blockKinds := by
        rw [Swift.kind_of_isReturn hreturn]
        decide
      exact stays_child hblock (List.mem_of_find?_eq_some hvalue)
  | next hvalue hblock hkind hnext =>
      have hn : n ∈ Swift.statementsIn _ := hnext.subset (List.mem_cons_of_mem _ List.mem_cons_self)
      have hstatement := (Swift.mem_statementsIn_iff.mp hn).2
      exact stays_of_not_isComment (Swift.not_isComment_of_isStatement hstatement)

theorem unreachable?_of_comments {r : Node}
    (hvalue : ∀ value, r.child? .result = some value →
      ¬source.row r.label < source.row value.label)
    (hlater : ∀ s ∈ r.laterSiblings, s.label.named → s.isComment) :
    unreachable? source r = none := by
  have hnext : successor? r = none := by
    rw [successor?_eq, List.filter_eq_nil_iff.mpr, List.head?_nil, ite_self]
    intro s hs hstatement
    rw [Swift.isStatement, Bool.and_eq_true] at hstatement
    simp [hlater s hs hstatement.1] at hstatement
  rw [unreachable?, detachedResult?_eq_none_iff.mpr hvalue, hnext, ite_self]

end UnreachableCode

namespace GuardCandidate

def report (n : Node) : Finding :=
  .onNode source n Category.controlFlow
    "Consider using guard statement for early return instead of nested if-let"

def reported : List Node := source.root.preorder.filter (isCandidate source)

theorem findings_eq : findings source = (reported source).map (report source) := by
  rw [findings, Source.nodes, Node.all_eq_preorder]
  rfl

-- A comment without a role is no condition.
theorem firstCondition?_pruned {n : Node}
    (h : ∀ child ∈ n.children, child.isComment → child.label.fields = []) :
    firstCondition? (n.pruned (stays chosen)) =
      (firstCondition? n).map (Node.pruned (stays chosen)) := by
  have hfirst (m : Node) : m.namedChildren.find? (!·.isComment) = (Swift.statementsIn m).head? := by
    rw [Swift.statementsIn, List.head?_filter]
  have hrole : (n.children.filter (stays chosen)).find? (·.label.has .condition) =
      n.children.find? (·.label.has .condition) := by
    rw [List.find?_filter]
    apply List.find?_congr
    intro child hchild
    by_cases hcomment : child.isComment
    · simp [Label.has, h child hchild hcomment]
    · simp [stays_of_not_isComment hcomment]
  rw [firstCondition?, hfirst, Swift.statementsIn_pruned, List.head?_map, Node.children_pruned,
    List.find?_map, firstCondition?, hfirst]
  have hsame : (fun m : Node => m.label.has .condition) ∘ Node.pruned (stays chosen) =
      (·.label.has .condition) := rfl
  rw [hsame, hrole]
  cases n.children.find? (·.label.has .condition) <;> rfl

theorem bindsOptional_pruned {n : Node}
    (h : ∀ child ∈ n.children, child.isComment → child.label.fields = []) :
    bindsOptional (source.without chosen) (n.pruned (stays chosen)) = bindsOptional source n := by
  rw [bindsOptional, firstCondition?_pruned chosen h, bindsOptional]
  cases firstCondition? n <;> rfl

theorem endsWithReturn_pruned (n : Node) :
    endsWithReturn (source.without chosen) (n.pruned (stays chosen)) = endsWithReturn source n := by
  rw [endsWithReturn, Swift.statements_pruned, List.getLast?_map, endsWithReturn]
  cases (Swift.statements n).getLast? with
  | none => rfl
  | some last => exact Swift.isReturn_pruned chosen source last

theorem any_else_pruned (n : Node) :
    (n.pruned (stays chosen)).children.any (·.kind == "else") =
      n.children.any (·.kind == "else") := by
  have helse : ∀ m : Node, m.kind == "else" → ¬m.isComment := fun m hkind =>
    Swift.not_isComment_of_kind (beq_iff_eq.mp hkind) (by decide)
  have hsame : (fun m : Node => m.kind == "else") ∘ Node.pruned (stays chosen) =
      (·.kind == "else") := rfl
  rw [Node.children_pruned, List.any_map, hsame, List.any_filter]
  congr 1
  funext m
  by_cases hkind : m.kind == "else"
  · rw [hkind, stays_of_not_isComment (helse m hkind)]
    rfl
  · simp [hkind]

theorem isCandidate_pruned {n : Node}
    (h : ∀ child ∈ n.children, child.isComment → child.label.fields = []) :
    isCandidate (source.without chosen) (n.pruned (stays chosen)) = isCandidate source n := by
  rw [isCandidate, Node.kind_pruned, bindsOptional_pruned chosen source h, any_else_pruned,
    endsWithReturn_pruned, isCandidate]

theorem not_isComment_of_isCandidate {n : Node} (h : isCandidate source n) : ¬n.isComment := by
  simp only [isCandidate, Bool.and_eq_true, beq_iff_eq] at h
  exact Swift.not_isComment_of_kind h.1.1.1 (by decide)

variable {chosen source}

theorem reported_without (chosen : Node → Bool) (h : source.root.HasPlainComments) :
    reported (source.without chosen) = (reported source).map (Node.pruned (stays chosen)) := by
  apply filter_without chosen h
  · exact fun _ => not_isComment_of_isCandidate source
  · intro n hn
    apply isCandidate_pruned
    intro child hchild hcomment
    have hm := Node.mem_preorder_of_child hchild (Node.self_mem_preorder child)
    exact (h child ((Node.preorder_sublist hn).subset hm) hcomment).2

theorem endsWithReturn_of_comments {n block r : Node} {before after : List Node}
    (hblock : Swift.block? n = some block) (hstatements : block.namedChildren = before ++ r :: after)
    (hreturn : Swift.isReturn source r) (hafter : ∀ c ∈ after, c.isComment) :
    endsWithReturn source n := by
  have hnone : after.filter (!·.isComment) = [] := by
    apply List.filter_eq_nil_iff.mpr
    intro c hc
    simpa using hafter c hc
  have hlast : Swift.statements n = before.filter (!·.isComment) ++ [r] := by
    have hcomment := Swift.not_isComment_of_isReturn hreturn
    rw [Swift.statements, hblock]
    dsimp only
    rw [Swift.statementsIn, hstatements, List.filter_append,
      List.filter_cons_of_pos (by simpa using hcomment), hnone]
  rw [endsWithReturn, hlast, List.getLast?_concat]
  exact hreturn

end GuardCandidate

namespace EmptyCatch

def report (n : Node) : Finding :=
  .onNode source n Category.exceptionHandling
    "Empty catch block. Errors should be handled or logged"

def reported : List Node := source.root.preorder.filter isEmptyCatch

theorem findings_eq : findings source = (reported source).map (report source) := by
  rw [findings, Source.nodes, Node.all_eq_preorder]
  rfl

theorem isEmptyCatch_pruned (n : Node) :
    isEmptyCatch (n.pruned (stays chosen)) = isEmptyCatch n := by
  rw [isEmptyCatch, Node.kind_pruned, Swift.statements_pruned, List.isEmpty_map, isEmptyCatch]

theorem not_isComment_of_isEmptyCatch {n : Node} (h : isEmptyCatch n) : ¬n.isComment := by
  simp only [isEmptyCatch, Bool.and_eq_true, beq_iff_eq] at h
  exact Swift.not_isComment_of_kind h.1 (by decide)

variable {chosen source}

theorem reported_without (chosen : Node → Bool) (h : source.root.HasPlainComments) :
    reported (source.without chosen) = (reported source).map (Node.pruned (stays chosen)) := by
  apply filter_without chosen h
  · exact fun _ => not_isComment_of_isEmptyCatch
  · intro n _
    exact isEmptyCatch_pruned chosen n

end EmptyCatch

end Rule

-- What a rule reports are nodes that all stay when the chosen comments go, and it reports the
-- same ones once they are gone.
structure ReportsAlike (source : Source) (chosen : Node → Bool)
    (findings : Source → List Finding) (report : Source → Node → Finding)
    (reported : Source → List Node) : Prop where
  findings_eq : ∀ source, findings source = (reported source).map (report source)
  stays_of_reported : ∀ n ∈ reported source, stays chosen n
  reported_without :
    reported (source.without chosen) = (reported source).map (Node.pruned (stays chosen))

-- Comments at the end of a block change nothing for the three rules.
structure IgnoresComments (source : Source) : Prop where
  afterReturn : ∀ r, (∀ value, r.child? .result = some value →
      ¬source.row r.label < source.row value.label) →
    (∀ s ∈ r.laterSiblings, s.label.named → s.isComment) →
    Rule.UnreachableCode.unreachable? source r = none
  afterGuard : ∀ n ∈ source.root.preorder, n.kind = "if_statement" →
    Rule.GuardCandidate.bindsOptional source n → (∀ child ∈ n.children, child.kind ≠ "else") →
    ∀ block before r after, Swift.block? n = some block →
      block.namedChildren = before ++ r :: after → Swift.isReturn source r →
      (∀ c ∈ after, c.isComment) → n ∈ Rule.GuardCandidate.reported source
  inCatch : ∀ n ∈ source.root.preorder, n.kind = "catch_block" →
    (∀ block, Swift.block? n = some block → ∀ c ∈ block.namedChildren, c.isComment) →
    n ∈ Rule.EmptyCatch.reported source

theorem ignoresComments (source : Source) : IgnoresComments source where
  afterReturn _ hvalue hlater := Rule.UnreachableCode.unreachable?_of_comments hvalue hlater
  afterGuard n hn hkind hbinds helse block before r after hblock hstatements hreturn hafter := by
    have hends := Rule.GuardCandidate.endsWithReturn_of_comments hblock hstatements hreturn hafter
    have hany : n.children.any (·.kind == "else") = false := by
      simpa using helse
    refine List.mem_filter.mpr ⟨hn, ?_⟩
    simp [Rule.GuardCandidate.isCandidate, hkind, hbinds, hany, hends]
  inCatch n hn hkind hcomments := by
    have hempty : Swift.statements n = [] := by
      rw [Swift.statements]
      cases hblock : Swift.block? n with
      | none => rfl
      | some block => exact Swift.statementsIn_eq_nil (hcomments block hblock)
    refine List.mem_filter.mpr ⟨hn, ?_⟩
    simp [Rule.EmptyCatch.isEmptyCatch, hkind, hempty]

-- Which nodes the three rules report does not depend on the comments between statements: any of
-- these may go, and all other nodes stay, in their order and none of them mixed up.
theorem reports_without_comments (source : Source) (chosen : Node → Bool)
    (h : source.root.HasPlainComments) :
    let after := Node.pruned (stays chosen)
    (source.without chosen).root.preorder =
        (source.root.preorder.filter (stays chosen)).map after ∧
      (∀ n ∈ source.root.preorder, ∀ m ∈ source.root.preorder, stays chosen n → stays chosen m →
        after n = after m → n = m) ∧
      ReportsAlike source chosen Rule.UnreachableCode.findings Rule.UnreachableCode.report
        Rule.UnreachableCode.reported ∧
      ReportsAlike source chosen Rule.GuardCandidate.findings Rule.GuardCandidate.report
        Rule.GuardCandidate.reported ∧
      ReportsAlike source chosen Rule.EmptyCatch.findings Rule.EmptyCatch.report
        Rule.EmptyCatch.reported ∧
      IgnoresComments source := by
  intro after
  refine ⟨preorder_without chosen h, fun n hn m hm => pruned_injOn h hn hm, ?_, ?_, ?_,
    ignoresComments source⟩
  · exact {
      findings_eq := Rule.UnreachableCode.findings_eq
      stays_of_reported := fun _ => Rule.UnreachableCode.stays_of_reported
      reported_without := Rule.UnreachableCode.reported_without chosen h }
  · refine ⟨Rule.GuardCandidate.findings_eq, ?_, Rule.GuardCandidate.reported_without chosen h⟩
    intro n hn
    have hcandidate := (List.mem_filter.mp hn).2
    exact stays_of_not_isComment (Rule.GuardCandidate.not_isComment_of_isCandidate source hcandidate)
  · refine ⟨Rule.EmptyCatch.findings_eq, ?_, Rule.EmptyCatch.reported_without chosen h⟩
    intro n hn
    have hempty := (List.mem_filter.mp hn).2
    exact stays_of_not_isComment (Rule.EmptyCatch.not_isComment_of_isEmptyCatch hempty)

-- An `if` whose `return` has a comment behind it, and a `catch` with nothing but a comment.
def trailingComments : Source :=
  .ofText "f.swift" "if let a \x7b\nreturn\n//c\n\x7d\ncatch \x7b\n//e\n\x7d\n" <|
    .node ⟨0, "source_file", 0, 38, true, false, false, []⟩
      [.node ⟨1, "if_statement", 0, 23, true, false, false, []⟩
        [.node ⟨2, "if", 0, 2, false, false, false, []⟩ [],
          .node ⟨3, "value_binding_pattern", 3, 8, true, false, false, [.condition]⟩ [],
          .node ⟨4, "\x7b", 9, 10, false, false, false, []⟩ [],
          .node ⟨5, "statements", 11, 21, true, false, false, []⟩
            [.node ⟨6, "control_transfer_statement", 11, 17, true, false, false, []⟩
              [.node ⟨7, "return", 11, 17, false, false, false, []⟩ []],
              .node ⟨8, "comment", 18, 21, true, false, false, []⟩ []],
          .node ⟨9, "\x7d", 22, 23, false, false, false, []⟩ []],
        .node ⟨10, "catch_block", 24, 37, true, false, false, []⟩
          [.node ⟨11, "catch", 24, 29, false, false, false, []⟩ [],
            .node ⟨12, "\x7b", 30, 31, false, false, false, []⟩ [],
            .node ⟨13, "comment", 32, 35, true, false, false, []⟩ [],
            .node ⟨14, "\x7d", 36, 37, false, false, false, []⟩ []]]

theorem reports_without_comments_trailingComments :
    trailingComments.root.HasPlainComments ∧
      (trailingComments.without fun _ => true).root.preorder.length = 13 ∧
      Rule.UnreachableCode.findings (trailingComments.without fun _ => true) = [] ∧
      (Rule.GuardCandidate.findings (trailingComments.without fun _ => true)).length = 1 ∧
      (Rule.EmptyCatch.findings (trailingComments.without fun _ => true)).length = 1 ∧
      (∃ n ∈ Rule.GuardCandidate.reported trailingComments, n.label.number = 1) ∧
      ∃ n ∈ Rule.EmptyCatch.reported trailingComments, n.label.number = 10 := by
  have h : trailingComments.root.HasPlainComments := by decide +kernel
  obtain ⟨hpreorder, -, hunreachable, hguard, hcatch, hignores⟩ :=
    reports_without_comments trailingComments (fun _ => true) h
  refine ⟨h, ?_, ?_, ?_, ?_, ?_, ?_⟩
  · rw [hpreorder, List.length_map]
    decide +kernel
  · have hnone : Rule.UnreachableCode.reported trailingComments = [] := by decide +kernel
    rw [hunreachable.findings_eq, hunreachable.reported_without, hnone]
    rfl
  · rw [hguard.findings_eq, hguard.reported_without, List.length_map, List.length_map]
    decide +kernel
  · rw [hcatch.findings_eq, hcatch.reported_without, List.length_map, List.length_map]
    decide +kernel
  · obtain ⟨n, hn, hnumber, hkind, hbinds, helse, block, -, r, -, c, -, hblock, hlist, hr, hc⟩ :
        ∃ n ∈ trailingComments.root.preorder, n.label.number = 1 ∧ n.kind = "if_statement" ∧
          Rule.GuardCandidate.bindsOptional trailingComments n ∧
          (∀ child ∈ n.children, child.kind ≠ "else") ∧
          ∃ block ∈ n.children, ∃ r ∈ block.children, ∃ c ∈ block.children,
            Swift.block? n = some block ∧ block.namedChildren = [] ++ r :: [c] ∧
              Swift.isReturn trailingComments r ∧ ∀ d : Node, d ∈ [c] → d.isComment := by
      decide +kernel
    exact ⟨n, hignores.afterGuard n hn hkind hbinds helse block [] r [c] hblock hlist hr hc,
      hnumber⟩
  · obtain ⟨n, hn, hnumber, hkind, hblock⟩ : ∃ n ∈ trailingComments.root.preorder,
        n.label.number = 10 ∧ n.kind = "catch_block" ∧ Swift.block? n = none := by
      decide +kernel
    refine ⟨n, hignores.inCatch n hn hkind ?_, hnumber⟩
    intro block hsome
    rw [hblock] at hsome
    cases hsome

end SwiftAudit
