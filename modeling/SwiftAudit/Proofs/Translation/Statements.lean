import SwiftAudit.Check
import SwiftAudit.Proofs.Translation.Finding
import SwiftAudit.Proofs.Translation.Swift

-- The rules that look at every node for itself.
namespace SwiftAudit.Rule

variable {above : List UInt8} {source moved : Source}

namespace ParseFault

mutual

theorem faults_shift (k : Nat) (places : List Place) : ∀ tree : Tree,
    faults (places.map (Place.shift k)) (tree.shift k) =
      (faults places tree).map (Node.shift k)
  | .node label children => by
      have h := faultsAmong_shift k (.node label children) places children
      have hfault : isFault (label.shift k) = isFault label := rfl
      rw [Tree.shift, faults, hfault, Label.hasError_shift, faults]
      by_cases hf : isFault label
      · rw [if_pos hf, if_pos hf]
        rfl
      · rw [if_neg hf, if_neg hf]
        by_cases he : label.hasError
        · rw [if_pos he, if_pos he]
          exact h
        · rw [if_neg he, if_neg he]
          rfl

theorem faultsAmong_shift (k : Nat) (parent : Tree) (places : List Place) :
    ∀ trees : List Tree,
      faultsAmong (parent.shift k) (places.map (Place.shift k)) (Tree.shiftAll k trees) =
        (faultsAmong parent places trees).map (Node.shift k)
  | [] => rfl
  | tree :: later => by
      have h := faults_shift k (⟨parent, later⟩ :: places) tree
      have hlater := faultsAmong_shift k parent places later
      rw [List.map_cons] at h
      rw [Tree.shiftAll, faultsAmong, hlater, faultsAmong, List.map_append, ← h, Place.shift,
        Tree.shiftAll_eq_map]

end

theorem faultNodes_shift (k : Nat) (tree : Tree) :
    faultNodes (tree.shift k) = (faultNodes tree).map (Node.shift k) := by
  have h := faults_shift k [] tree
  simp only [faultNodes, Tree.label_shift, Label.hasError_shift]
  split
  · exact h
  · rfl

theorem describe_moved (h : source.MovedBy above moved) (n : Node) :
    describe moved (n.shift above.length) = describe source n := by
  simp [describe, h.chars_eq]

theorem head_describe (source : Source) (n : Node) :
    (describe source n).toList.head? ≠ some 'R' := by
  unfold describe
  split <;> simp [toString_text]

theorem findings_moved (h : source.MovedBy above moved) :
    findings moved = (findings source).map (Finding.movedDown (above.count lineFeed)) := by
  rw [findings, h.tree_eq, faultNodes_shift, findings, List.map_map, List.map_map]
  apply List.map_congr_left
  intro n _
  rw [Function.comp_apply, describe_moved h]
  exact h.onNode_eq n _ _ _ (head_describe source n)

end ParseFault

namespace UnusedVariable

theorem declared_moved (h : source.MovedBy above moved) :
    declared moved = (declared source).map (Prod.map id (Node.shift above.length)) := by
  simp only [declared, h.nodes_eq, List.filter_map, List.flatMap_map, List.map_flatMap,
    Function.comp_def, Node.kind_shift, Swift.bindings_moved h]

theorem used_moved (h : source.MovedBy above moved) : used moved = used source := by
  simp only [used, h.nodes_eq, List.filterMap_map, Function.comp_def, Swift.usedName?_moved h]

theorem findings_moved (h : source.MovedBy above moved) :
    findings moved = (findings source).map (Finding.movedDown (above.count lineFeed)) := by
  simp only [findings, used_moved h, declared_moved h, List.filter_map, List.map_map,
    Function.comp_def, Prod.map_fst, id_eq]
  apply List.map_congr_left
  intro binding _
  exact h.onNode_eq binding.2 _ _ _ (by simp [toString_text])

end UnusedVariable

namespace UnreachableCode

theorem successor?_shift (k : Nat) (n : Node) :
    successor? (n.shift k) = (successor? n).map (Node.shift k) := by
  simp only [successor?, Node.parentKind?_shift, Node.label_shift, Label.named_shift,
    Node.laterSiblings_shift, List.filter_map, Function.comp_def, Node.isComment_shift,
    List.head?_map]
  split <;> rfl

theorem detachedResult?_moved (h : source.MovedBy above moved) (n : Node) :
    detachedResult? moved (n.shift above.length) =
      (detachedResult? source n).map (Node.shift above.length) := by
  unfold detachedResult?
  rw [Node.child?_shift]
  cases n.child? .result with
  | none => rfl
  | some result =>
      simp only [Option.map_some, Node.label_shift, h.row_eq, gt_iff_lt, Nat.add_lt_add_iff_right,
        Option.filter_some]
      split <;> rfl

theorem unreachable?_moved (h : source.MovedBy above moved) (n : Node) :
    unreachable? moved (n.shift above.length) =
      (unreachable? source n).map (Node.shift above.length) := by
  simp only [unreachable?, Swift.isReturn_moved h, detachedResult?_moved h, successor?_shift]
  split
  · cases detachedResult? source n <;> rfl
  · rfl

theorem findings_moved (h : source.MovedBy above moved) :
    findings moved = (findings source).map (Finding.movedDown (above.count lineFeed)) := by
  simp only [findings, h.nodes_eq, List.filterMap_map, Function.comp_def,
    unreachable?_moved h, ← List.map_filterMap, List.map_map]
  exact h.map_onNode_eq _ _ _ _ (by decide)

end UnreachableCode

namespace ForceUnwrap

theorem description?_moved (h : source.MovedBy above moved) (n : Node) :
    description? moved (n.shift above.length) = description? source n := by
  simp [description?, List.any_map, Function.comp_def, h.textOf_eq]

theorem head_of_mem_description? (source : Source) (n : Node) (description : String)
    (hd : description? source n = some description) : description.toList.head? ≠ some 'R' := by
  unfold description? at hd
  split at hd
  · cases hd
    decide
  · split at hd
    · cases hd
      decide
    · cases hd

theorem findings_moved (h : source.MovedBy above moved) :
    findings moved = (findings source).map (Finding.movedDown (above.count lineFeed)) := by
  simp only [findings, h.nodes_eq, List.filterMap_map, List.map_filterMap, Function.comp_def,
    description?_moved h]
  congr 1
  funext n
  cases hd : description? source n with
  | none => rfl
  | some description =>
      simp only [Option.map_some,
        h.onNode_eq n _ description _ (head_of_mem_description? source n description hd)]

end ForceUnwrap

namespace LongFunction

theorem lineCount_moved (h : source.MovedBy above moved) (body : Node) :
    lineCount moved (body.shift above.length) = lineCount source body := by
  simp only [lineCount, h.endPosition_eq, h.position_eq, Position.down]
  omega

theorem finding?_moved (h : source.MovedBy above moved) (threshold : Int) (n : Node) :
    finding? moved threshold (n.shift above.length) =
      (finding? source threshold n).map (Finding.movedDown (above.count lineFeed)) := by
  unfold finding?
  rw [Node.child?_shift]
  cases n.child? .body with
  | none => rfl
  | some body =>
      simp only [Option.map_some, Option.bind_eq_bind, Option.bind_some, lineCount_moved h,
        Swift.nameNode_shift, Swift.declarationName_moved h]
      split
      · exact congrArg some (h.onNode_eq (Swift.nameNode n) _ _ _ (by simp [toString_text]))
      · rfl

theorem findings_moved (h : source.MovedBy above moved) (settings : Settings) :
    findings moved settings =
      (findings source settings).map (Finding.movedDown (above.count lineFeed)) := by
  simp only [findings, h.nodes_eq, List.filter_map, List.filterMap_map, List.map_filterMap,
    Function.comp_def, Node.kind_shift, finding?_moved h]

end LongFunction

namespace GuardCandidate

theorem firstCondition?_shift (k : Nat) (n : Node) :
    firstCondition? (n.shift k) = (firstCondition? n).map (Node.shift k) := by
  simp only [firstCondition?, Node.children_shift, Node.namedChildren_shift, List.find?_map,
    Function.comp_def, Node.label_shift, Label.has_shift, Node.isComment_shift]
  cases n.children.find? (·.label.has .condition) <;> rfl

theorem bindsOptional_moved (h : source.MovedBy above moved) (n : Node) :
    bindsOptional moved (n.shift above.length) = bindsOptional source n := by
  unfold bindsOptional
  rw [firstCondition?_shift]
  cases firstCondition? n with
  | none => rfl
  | some first => simp [h.chars_eq]

theorem endsWithReturn_moved (h : source.MovedBy above moved) (n : Node) :
    endsWithReturn moved (n.shift above.length) = endsWithReturn source n := by
  rw [endsWithReturn, Swift.statements_shift, List.getLast?_map, endsWithReturn]
  cases (Swift.statements n).getLast? with
  | none => rfl
  | some last => exact Swift.isReturn_moved h last

theorem isCandidate_moved (h : source.MovedBy above moved) (n : Node) :
    isCandidate moved (n.shift above.length) = isCandidate source n := by
  simp [isCandidate, bindsOptional_moved h, endsWithReturn_moved h, List.any_map,
    Function.comp_def]

theorem findings_moved (h : source.MovedBy above moved) :
    findings moved = (findings source).map (Finding.movedDown (above.count lineFeed)) := by
  simp only [findings, h.nodes_eq, List.filter_map, List.map_map, Function.comp_def,
    isCandidate_moved h]
  exact h.map_onNode_eq _ _ _ _ (by decide)

end GuardCandidate

namespace EmptyCatch

theorem findings_moved (h : source.MovedBy above moved) :
    findings moved = (findings source).map (Finding.movedDown (above.count lineFeed)) := by
  simp only [findings, isEmptyCatch, h.nodes_eq, List.filter_map, List.map_map,
    Function.comp_def, Node.kind_shift, Swift.statements_shift, List.isEmpty_map]
  exact h.map_onNode_eq _ _ _ _ (by decide)

end EmptyCatch

end SwiftAudit.Rule
