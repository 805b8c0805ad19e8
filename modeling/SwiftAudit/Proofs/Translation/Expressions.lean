import SwiftAudit.Check
import SwiftAudit.Proofs.Except
import SwiftAudit.Proofs.Translation.Finding
import SwiftAudit.Proofs.Translation.Swift

-- The rules on expressions and names.
namespace SwiftAudit.Rule

variable {above : List UInt8} {source moved : Source}

namespace EmptyCollection

theorem comparesCountWithZero_moved (h : source.MovedBy above moved) (n : Node) :
    comparesCountWithZero moved (n.shift above.length) = comparesCountWithZero source n := by
  unfold comparesCountWithZero
  rw [Swift.operands_shift]
  generalize Swift.operands n = operands
  match operands with
  | [] => rfl
  | [_] => rfl
  | [left, right] => simp [Swift.memberName?_moved h, h.textOf_eq]
  | _ :: _ :: _ :: _ => rfl

theorem finding?_moved (h : source.MovedBy above moved) (n : Node) :
    finding? moved (n.shift above.length) =
      (finding? source n).map (Finding.movedDown (above.count lineFeed)) := by
  unfold finding?
  rw [comparesCountWithZero_moved h, Swift.binaryOperator_moved h]
  split
  · rfl
  · cases suggestion? (Swift.binaryOperator source n) with
    | none => rfl
    | some suggestion => exact congrArg some (h.onNode_eq n _ _ _ (by simp [toString_text]))

theorem isComparison_shift (k : Nat) (n : Node) : isComparison (n.shift k) = isComparison n := by
  rw [isComparison, Node.kind_shift, isComparison]

theorem findings_moved (h : source.MovedBy above moved) :
    findings moved = (findings source).map (Finding.movedDown (above.count lineFeed)) := by
  simp only [findings, h.nodes_eq, List.filter_map, List.filterMap_map, List.map_filterMap,
    Function.comp_def, isComparison_shift, finding?_moved h]

end EmptyCollection

namespace OperatorPrecedence

mutual

theorem ofTree_moved (h : source.MovedBy above moved) : ∀ tree : Tree,
    Operation.ofTree moved (tree.shift above.length) = Operation.ofTree source tree
  | .node label children => by
      have hchildren := ofChildren_moved h children
      have hlabels : (Tree.shiftAll above.length children).map (·.label) =
          (children.map (·.label)).map (Label.shift above.length) := by
        simp [Tree.shiftAll_eq_map, Function.comp_def]
      have hoperands := Swift.operandsAmong_shift above.length (·.1) (·.1)
        (Prod.map (Label.shift above.length) id) (fun _ => rfl)
        (Operation.ofChildren source children)
      rw [Tree.shift, Operation.ofTree, Label.kind_shift, hlabels, Swift.operatorText_moved h,
        hchildren, hoperands, List.map_map, Operation.ofTree]
      rfl

theorem ofChildren_moved (h : source.MovedBy above moved) : ∀ trees : List Tree,
    Operation.ofChildren moved (Tree.shiftAll above.length trees) =
      (Operation.ofChildren source trees).map (Prod.map (Label.shift above.length) id)
  | [] => rfl
  | tree :: rest => by
      have htree := ofTree_moved h tree
      have hrest := ofChildren_moved h rest
      rw [Tree.shiftAll, Operation.ofChildren, htree, hrest, Tree.label_shift,
        Operation.ofChildren, List.map_cons]
      rfl

end

theorem findingsAt_moved (h : source.MovedBy above moved) (n : Node) :
    findingsAt moved (n.shift above.length) =
      (findingsAt source n).map (Finding.movedDown (above.count lineFeed)) := by
  have hnested := h.onNode_eq n Category.operatorPrecedence
    "Consider adding explicit parentheses to clarify operator precedence" .warning (by decide)
  have hmixed := h.onNode_eq n Category.operatorPrecedence
    ("Mixed logical and arithmetic operators - " ++ "use parentheses to clarify precedence")
    .warning (by simp)
  simp only [findingsAt, Node.tree_shift, ofTree_moved h, hnested, hmixed]
  split
  · rfl
  · rw [List.map_append]
    congr 1 <;> split <;> rfl

theorem isMaximal_shift (k : Nat) (n : Node) : isMaximal (n.shift k) = isMaximal n := by
  rw [isMaximal, Node.kind_shift, Node.parentKind?_shift, isMaximal]

theorem findings_moved (h : source.MovedBy above moved) :
    findings moved = (findings source).map (Finding.movedDown (above.count lineFeed)) := by
  simp only [findings, h.nodes_eq, List.filter_map, List.flatMap_map, List.map_flatMap,
    Function.comp_def, isMaximal_shift, findingsAt_moved h]

end OperatorPrecedence

namespace MagicNumber

theorem negation?_moved (h : source.MovedBy above moved) (n : Node) :
    negation? moved (n.shift above.length) =
      (negation? source n).map (Node.shift above.length) := by
  unfold negation?
  rw [Node.parent?_shift]
  cases n.parent? with
  | none => rfl
  | some parent =>
      have hfirst : ((parent.shift above.length).children.head?.any
          fun first => moved.textOf first == "-") =
            parent.children.head?.any fun first => source.textOf first == "-" := by
        rw [Node.children_shift]
        cases parent.children with
        | nil => rfl
        | cons first rest => simp [h.textOf_eq]
      simp only [Option.map_some, Option.filter_some, Node.kind_shift, hfirst]
      split <;> rfl

theorem isNumber_shift (k : Nat) (n : Node) : isNumber (n.shift k) = isNumber n := by
  rw [isNumber, Node.kind_shift, isNumber]

theorem shown?_moved (h : source.MovedBy above moved) (exempt : ScalarSet) (n : Node)
    (negative : Bool) :
    shown? moved exempt (n.shift above.length) negative = shown? source exempt n negative := by
  simp only [shown?, Node.kind_shift, Node.label_shift, h.chars_eq, h.textOf_eq]

theorem finding_moved (h : source.MovedBy above moved) (target : Node) (shown : String) :
    finding moved (target.shift above.length) shown =
      (finding source target shown).movedDown (above.count lineFeed) :=
  h.onNode_eq target _ _ _ (by simp [toString_text])

theorem findingsAt_moved (h : source.MovedBy above moved) (exempt : ScalarSet) (n : Node) :
    findingsAt moved exempt (n.shift above.length) =
      (findingsAt source exempt n).map
        (List.map (Finding.movedDown (above.count lineFeed))) := by
  have htarget : ((negation? source n).map (Node.shift above.length)).getD
      (n.shift above.length) = ((negation? source n).getD n).shift above.length := by
    cases negation? source n <;> rfl
  simp only [findingsAt, isNumber_shift, Node.isInside_shift, negation?_moved h,
    Option.isSome_map, shown?_moved h, htarget]
  by_cases hn : isNumber n && !n.isInside ["property_declaration"]
  · rw [if_pos hn, if_pos hn]
    cases shown? source exempt n (negation? source n).isSome with
    | error e => rfl
    | ok shown =>
        cases shown with
        | none => rfl
        | some shown => simp [finding_moved h]
  · rw [if_neg hn, if_neg hn]
    rfl

theorem findings_moved (h : source.MovedBy above moved) (settings : Settings) :
    findings moved settings =
      (findings source settings).map (List.map (Finding.movedDown (above.count lineFeed))) := by
  rw [findings, h.nodes_eq]
  exact flatMapM_map_of _ _ _ _ source.nodes fun n _ => findingsAt_moved h _ n

end MagicNumber

namespace DeprecatedApi

theorem movedDescription_replaced (lines : Nat) (name : String) (shown : CodeText) :
    let description := s!"'{name}' is deprecated. Use '" ++ shown ++ "' instead"
    Finding.movedDescription lines description = description := by
  cases shown with
  | plain s =>
      exact congrArg CodeText.plain (Finding.movedText_of_head lines _ (by simp [toString_text]))
  | broken before half after => rfl

theorem findingsAt_moved (h : source.MovedBy above moved) (table : List (CodeText × Json))
    (n : Node) :
    findingsAt moved table (n.shift above.length) =
      (findingsAt source table n).map
        (List.map (Finding.movedDown (above.count lineFeed))) := by
  unfold findingsAt
  rw [Swift.usedName?_moved h]
  cases Swift.usedName? source n with
  | none => rfl
  | some name =>
      dsimp only
      cases replacement? table name with
      | none => rfl
      | some replacement =>
          dsimp only
          cases replacement.displayed? with
          | none => rfl
          | some shown =>
              have hmoved := h.onNodeWith_movedDescription n Category.deprecatedApis
                (s!"'{name}' is deprecated. Use '" ++ shown ++ "' instead") .warning
              rw [movedDescription_replaced] at hmoved
              exact congrArg (fun finding => Except.ok [finding]) hmoved

theorem findings_moved (h : source.MovedBy above moved) (settings : Settings) :
    findings moved settings =
      (findings source settings).map (List.map (Finding.movedDown (above.count lineFeed))) := by
  rw [findings, h.nodes_eq]
  exact flatMapM_map_of _ _ _ _ source.nodes fun n _ => findingsAt_moved h _ n

end DeprecatedApi

namespace Localization

theorem finding?_moved (h : source.MovedBy above moved) (minLength : Int) (n : Node) :
    finding? moved minLength (n.shift above.length) =
      (finding? source minLength n).map (Finding.movedDown (above.count lineFeed)) := by
  unfold finding?
  rw [Node.label_shift, h.chars_eq]
  dsimp only
  split
  · exact congrArg some (h.onNode_eq n _ _ _ (by simp [toString_text]))
  · rfl

theorem findings_moved (h : source.MovedBy above moved) (settings : Settings) :
    findings moved settings =
      (findings source settings).map (Finding.movedDown (above.count lineFeed)) := by
  simp only [findings, isFixed, h.nodes_eq, List.filter_map, List.filterMap_map,
    List.map_filterMap, Function.comp_def, Node.kind_shift, Node.isInside_shift,
    finding?_moved h]

end Localization

namespace Naming

theorem typeFindings_moved (h : source.MovedBy above moved) (n : Node) :
    typeFindings moved (n.shift above.length) =
      (typeFindings source n).map (Finding.movedDown (above.count lineFeed)) := by
  simp only [typeFindings, Node.child?_shift, h.textOf?_eq, Swift.isExtension_moved h]
  split
  · exact congrArg ([·]) (h.onNode_eq n _ _ _ (by simp [toString_text]))
  · rfl

theorem functionFindings_moved (h : source.MovedBy above moved) (n : Node) :
    functionFindings moved (n.shift above.length) =
      (functionFindings source n).map (Finding.movedDown (above.count lineFeed)) := by
  unfold functionFindings
  rw [Node.child?_shift]
  cases n.child? .name with
  | none => rfl
  | some name =>
      simp only [Option.map_some, h.textOf_eq]
      split
      · exact congrArg ([·]) (h.onNode_eq name _ _ _ (by simp [toString_text]))
      · rfl

theorem bindingFindings_moved (h : source.MovedBy above moved) (hidden : Bool) (name : String)
    (pattern : Node) :
    bindingFindings moved hidden name (pattern.shift above.length) =
      (bindingFindings source hidden name pattern).map
        (Finding.movedDown (above.count lineFeed)) := by
  rw [bindingFindings, bindingFindings, List.map_append]
  congr 1
  · split
    · exact congrArg ([·]) (h.onNode_eq pattern _ _ _ (by simp [toString_text]))
    · rfl
  · split
    · exact congrArg ([·]) (h.onNode_eq pattern _ _ _ (by simp [toString_text]))
    · rfl

theorem propertyFindings_moved (h : source.MovedBy above moved) (n : Node) :
    propertyFindings moved (n.shift above.length) =
      (propertyFindings source n).map (Finding.movedDown (above.count lineFeed)) := by
  simp only [propertyFindings, Swift.bindings_moved h, Swift.hasModifier_moved h,
    List.flatMap_map, List.map_flatMap, Prod.map_fst, Prod.map_snd, id_eq,
    bindingFindings_moved h]

theorem findingsAt_moved (h : source.MovedBy above moved) (n : Node) :
    findingsAt moved (n.shift above.length) =
      (findingsAt source n).map (Finding.movedDown (above.count lineFeed)) := by
  rw [findingsAt, Node.kind_shift, typeFindings_moved h, functionFindings_moved h,
    propertyFindings_moved h, findingsAt]
  split
  · rfl
  · split
    · rfl
    · split <;> rfl

theorem findings_moved (h : source.MovedBy above moved) :
    findings moved = (findings source).map (Finding.movedDown (above.count lineFeed)) := by
  simp only [findings, h.nodes_eq, List.flatMap_map, List.map_flatMap, findingsAt_moved h]

end Naming

namespace RetainCycle

mutual

theorem mentionsSelf_shift (k : Nat) :
    ∀ tree : Tree, mentionsSelf (tree.shift k) = mentionsSelf tree
  | .node label children => by
      have h := anyMentionsSelf_shift k children
      rw [Tree.shift, mentionsSelf, h, Label.kind_shift, mentionsSelf]

theorem anyMentionsSelf_shift (k : Nat) :
    ∀ trees : List Tree, anyMentionsSelf (Tree.shiftAll k trees) = anyMentionsSelf trees
  | [] => rfl
  | tree :: rest => by
      have h := mentionsSelf_shift k tree
      have hrest := anyMentionsSelf_shift k rest
      rw [Tree.shiftAll, anyMentionsSelf, h, hrest, anyMentionsSelf]

end

theorem captureList?_shift (k : Nat) (closure : Node) :
    captureList? (closure.shift k) = (captureList? closure).map (Node.shift k) := by
  unfold captureList?
  rw [Node.child?_shift]
  cases closure.child? .captures with
  | some captures => rfl
  | none =>
      simp [List.filter_map, List.findSome?_map, List.find?_map, List.map_findSome?,
        Function.comp_def]

theorem isWeakCapture_moved (h : source.MovedBy above moved) (item : Node) :
    isWeakCapture moved (item.shift above.length) = isWeakCapture source item := by
  simp [isWeakCapture, h.chars_eq]

theorem capturesWeakly_moved (h : source.MovedBy above moved) (closure : Node) :
    capturesWeakly moved (closure.shift above.length) = capturesWeakly source closure := by
  unfold capturesWeakly
  rw [captureList?_shift]
  cases captureList? closure with
  | none => rfl
  | some captures => simp [List.any_map, Function.comp_def, isWeakCapture_moved h]

theorem isRetaining_moved (h : source.MovedBy above moved) (n : Node) :
    isRetaining moved (n.shift above.length) = isRetaining source n := by
  rw [isRetaining, Node.kind_shift, capturesWeakly_moved h, Node.tree_shift,
    Tree.children_shift, ← Tree.shiftAll_eq_map, anyMentionsSelf_shift, isRetaining]

theorem findings_moved (h : source.MovedBy above moved) :
    findings moved = (findings source).map (Finding.movedDown (above.count lineFeed)) := by
  simp only [findings, h.nodes_eq, List.filter_map, List.map_map, Function.comp_def,
    isRetaining_moved h]
  exact h.map_onNode_eq _ _ _ _ (by simp)

end RetainCycle

end SwiftAudit.Rule
