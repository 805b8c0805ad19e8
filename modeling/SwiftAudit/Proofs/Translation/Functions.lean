import SwiftAudit.Check
import SwiftAudit.Proofs.Assoc
import SwiftAudit.Proofs.Except
import SwiftAudit.Proofs.Translation.Finding
import SwiftAudit.Proofs.Translation.Swift

-- The rules that compare functions and their statements.
namespace SwiftAudit.Rule

variable {above : List UInt8} {source moved : Source}

namespace FunctionBody

def shift (k : Nat) (function : FunctionBody) : FunctionBody :=
  ⟨function.name, function.node.shift k, function.body.shift k,
    function.statements.map (Node.shift k)⟩

theorem ofNode?_moved (h : source.MovedBy above moved) (n : Node) :
    ofNode? moved (n.shift above.length) = (ofNode? source n).map (shift above.length) := by
  simp only [ofNode?, Node.kind_shift, Node.child?_shift]
  split
  · rfl
  · cases n.child? .body with
    | none => rfl
    | some body =>
        cases n.child? .name with
        | none => rfl
        | some name => simp [shift, h.textOf_eq]

theorem allIn_moved (h : source.MovedBy above moved) :
    allIn moved = (allIn source).map (shift above.length) := by
  simp only [allIn, h.nodes_eq, List.filterMap_map, List.map_filterMap, Function.comp_def,
    ofNode?_moved h]

end FunctionBody

namespace DuplicateFunction

def shiftGroup (k : Nat) : Nat × List FunctionBody → Nat × List FunctionBody :=
  Prod.map id (List.map (FunctionBody.shift k))

theorem foldl_push_shift (k : Nat) (functions : List FunctionBody)
    (groups : List (Nat × List FunctionBody)) :
    (functions.map (FunctionBody.shift k)).foldl
        (fun groups function => Assoc.push function.statements.length function groups)
        (groups.map (shiftGroup k)) =
      (functions.foldl
        (fun groups function => Assoc.push function.statements.length function groups)
        groups).map (shiftGroup k) := by
  induction functions generalizing groups with
  | nil => rfl
  | cons function rest ih =>
      have hlength : (function.shift k).statements.length = function.statements.length :=
        List.length_map _
      rw [List.map_cons, List.foldl_cons, hlength, shiftGroup, Assoc.push_map, List.foldl_cons]
      exact ih _

theorem groups_shift (k : Nat) (functions : List FunctionBody) :
    groups (functions.map (FunctionBody.shift k)) = (groups functions).map (shiftGroup k) := by
  have hfilter : (functions.map (FunctionBody.shift k)).filter (!·.statements.isEmpty) =
      (functions.filter (!·.statements.isEmpty)).map (FunctionBody.shift k) := by
    simp [List.filter_map, Function.comp_def, FunctionBody.shift]
  rw [groups, hfilter]
  exact foldl_push_shift k _ []

theorem isTruncated_map (k : Nat) (bound : Int) (functions : List FunctionBody) :
    isTruncated bound (functions.map (FunctionBody.shift k)) = isTruncated bound functions := by
  rw [isTruncated, List.length_map, isTruncated]

theorem keep_map {α β : Type} (f : α → β) (bound : Int) (items : List α) :
    keep bound (items.map f) = (keep bound items).map f := by
  unfold keep
  rw [List.length_map]
  split <;> rw [List.map_take]

theorem compared_shift (k : Nat) (bound : Int) (functions : List FunctionBody) :
    compared bound (functions.map (FunctionBody.shift k)) =
      (compared bound functions).map (FunctionBody.shift k) := by
  rw [compared, isTruncated_map, keep_map, compared]
  split <;> rfl

theorem warning_moved (h : source.MovedBy above moved) (bound : Int)
    (group : Nat × List FunctionBody) :
    warning moved bound (shiftGroup above.length group) = warning source bound group := by
  simp only [warning, shiftGroup, Prod.map_fst, Prod.map_snd, isTruncated_map, List.length_map,
    h.path_eq, id_eq]

theorem finding?_moved (h : source.MovedBy above moved) (threshold : Double)
    (first second : FunctionBody) :
    finding? moved threshold (first.shift above.length) (second.shift above.length) =
      (finding? source threshold first second).map
        (Finding.movedDown (above.count lineFeed)) := by
  simp only [finding?, FunctionBody.shift, Node.label_shift, h.chars_eq]
  split
  · rfl
  · split
    · exact congrArg some (h.onNode_eq second.node _ _ _ (by simp [toString_text]))
    · rfl

theorem pairFindings_moved (h : source.MovedBy above moved) (threshold : Double)
    (functions : List FunctionBody) :
    pairFindings moved threshold (functions.map (FunctionBody.shift above.length)) =
      (pairFindings source threshold functions).map
        (Finding.movedDown (above.count lineFeed)) := by
  induction functions with
  | nil => rfl
  | cons first rest ih =>
      rw [List.map_cons, pairFindings, ih, pairFindings, List.map_append, List.filterMap_map,
        List.map_filterMap]
      simp only [Function.comp_def, finding?_moved h]

theorem findings_moved (h : source.MovedBy above moved) (settings : Settings) :
    (findings moved settings).1 = (findings source settings).1 ∧
      (findings moved settings).2 =
        (findings source settings).2.map (Finding.movedDown (above.count lineFeed)) := by
  constructor
  · simp only [findings, FunctionBody.allIn_moved h, groups_shift, List.flatMap_map,
      warning_moved h]
  · simp only [findings, FunctionBody.allIn_moved h, groups_shift, List.flatMap_map,
      List.map_flatMap, shiftGroup, Prod.map_snd, compared_shift, pairFindings_moved h]

end DuplicateFunction

namespace Refactoring

def Seen.movedDown (lines : Nat) (seen : Seen) : Seen := { seen with line := seen.line + lines }

theorem largeFunction_moved (h : source.MovedBy above moved) (limit : Int)
    (function : FunctionBody) :
    largeFunction moved limit (function.shift above.length) =
      (largeFunction source limit function).map (Finding.movedDown (above.count lineFeed)) := by
  simp only [largeFunction, FunctionBody.shift, List.length_map]
  split
  · exact congrArg ([·]) (h.onNode_eq function.node _ _ _ (by simp [toString_text]))
  · rfl

theorem repetition_moved (h : source.MovedBy above moved) (name : String) (statement : Node)
    (firstLine : Nat) :
    repetition moved name (statement.shift above.length)
        (firstLine + above.count lineFeed) =
      (repetition source name statement firstLine).movedDown (above.count lineFeed) := by
  rw [repetition, repetition, ← h.onNode_movedText,
    Finding.movedText_repetition]

-- The lines that are remembered move with the statements, so the ones that are named do too.
theorem repetitions_moved (h : source.MovedBy above moved) (minLength : Int) (name : String)
    (statements : List Node) (seen : List Seen) :
    repetitions moved minLength name (seen.map (Seen.movedDown (above.count lineFeed)))
        (statements.map (Node.shift above.length)) =
      (repetitions source minLength name seen statements).map
        (Finding.movedDown (above.count lineFeed)) := by
  induction statements generalizing seen with
  | nil => rfl
  | cons statement rest ih =>
      have hfind (text : List Char) :
          (seen.map (Seen.movedDown (above.count lineFeed))).find? (·.text == text) =
            (seen.find? (·.text == text)).map (Seen.movedDown (above.count lineFeed)) := by
        simp [List.find?_map, Function.comp_def, Seen.movedDown]
      simp only [List.map_cons, repetitions, Node.label_shift, h.chars_eq, hfind]
      split
      · exact ih seen
      · cases seen.find? (·.text == Text.trim (source.chars statement.label)) with
        | none =>
            rw [Option.map_none]
            simp only [h.position_eq]
            exact ih (⟨_, (source.position statement).line, false⟩ :: seen)
        | some before =>
            have hrest := ih ({ before with reported := true } :: seen)
            rw [Option.map_some]
            simp only [List.map_append]
            rw [← hrest]
            congr 1
            by_cases hr : before.reported
            · simp [Seen.movedDown, hr]
            · simp [Seen.movedDown, hr, repetition_moved h]

theorem functionFindings_moved (h : source.MovedBy above moved) (settings : Settings)
    (function : FunctionBody) :
    functionFindings moved settings (function.shift above.length) =
      (functionFindings source settings function).map
        (Finding.movedDown (above.count lineFeed)) := by
  have hrepetitions := repetitions_moved h (settings.number .repeatedStatementMinLength)
    function.name function.statements []
  rw [functionFindings, largeFunction_moved h, functionFindings, List.map_append]
  congr 1

theorem largeClass_moved (h : source.MovedBy above moved) (limit : Int) (n : Node) :
    largeClass moved limit (n.shift above.length) =
      (largeClass source limit n).map (Finding.movedDown (above.count lineFeed)) := by
  unfold largeClass
  rw [Swift.typeWord_moved h, Node.child?_shift, Node.child?_shift, h.textOf?_eq]
  split
  · cases n.child? .body with
    | none => rfl
    | some body =>
        have hmembers : ((body.shift above.length).namedChildren.filter (!·.isComment)).length =
            (body.namedChildren.filter (!·.isComment)).length := by
          simp [List.filter_map, Function.comp_def]
        simp only [Option.map_some, hmembers]
        split
        · exact congrArg ([·]) (h.onNode_eq n _ _ _ (by simp [toString_text]))
        · rfl
  · rfl

theorem manySupertypes_moved (h : source.MovedBy above moved) (limit : Int) (n : Node) :
    manySupertypes moved limit (n.shift above.length) =
      (manySupertypes source limit n).map
        (List.map (Finding.movedDown (above.count lineFeed))) := by
  have hsupertypes :
      (n.shift above.length).namedChildren.filter (·.kind == "inheritance_specifier") =
        (n.namedChildren.filter (·.kind == "inheritance_specifier")).map
          (Node.shift above.length) := by
    simp [List.filter_map, Function.comp_def]
  unfold manySupertypes
  rw [hsupertypes]
  cases n.namedChildren.filter (·.kind == "inheritance_specifier") with
  | nil =>
      simp only [List.map_nil, List.length_nil]
      split <;> rfl
  | cons first rest =>
      simp only [List.map_cons, List.length_cons, List.length_map]
      split
      · exact congrArg (fun finding => Except.ok [finding])
          (h.onNode_eq first _ _ _ (by simp [toString_text]))
      · rfl

theorem typeFindings_moved (h : source.MovedBy above moved) (settings : Settings) (n : Node) :
    typeFindings moved settings (n.shift above.length) =
      (typeFindings source settings n).map
        (List.map (Finding.movedDown (above.count lineFeed))) := by
  rw [typeFindings, manySupertypes_moved h, largeClass_moved h, typeFindings]
  cases manySupertypes source (settings.number .maxInheritedTypes) n <;> simp

theorem findings_moved (h : source.MovedBy above moved) (settings : Settings) :
    findings moved settings =
      (findings source settings).map
        (List.map (Finding.movedDown (above.count lineFeed))) := by
  have htypes : (moved.nodes.filter fun n => Swift.typeKinds.contains n.kind) =
      (source.nodes.filter fun n => Swift.typeKinds.contains n.kind).map
        (Node.shift above.length) := by
    simp [h.nodes_eq, List.filter_map, Function.comp_def]
  have hfunctions : (FunctionBody.allIn moved).flatMap (functionFindings moved settings) =
      ((FunctionBody.allIn source).flatMap (functionFindings source settings)).map
        (Finding.movedDown (above.count lineFeed)) := by
    simp only [FunctionBody.allIn_moved h, List.flatMap_map, List.map_flatMap,
      functionFindings_moved h]
  rw [findings, htypes, hfunctions, findings,
    flatMapM_map_of _ _ _ _ _ fun n _ => typeFindings_moved h settings n]
  cases (source.nodes.filter fun n => Swift.typeKinds.contains n.kind).flatMapM
    (typeFindings source settings) <;> simp

end Refactoring

end SwiftAudit.Rule
