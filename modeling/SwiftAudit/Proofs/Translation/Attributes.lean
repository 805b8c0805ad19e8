import SwiftAudit.Check
import SwiftAudit.Proofs.Translation.Finding
import SwiftAudit.Proofs.Translation.Swift

-- The rules on attributes, directives and macros.
namespace SwiftAudit.Rule

variable {above : List UInt8} {source moved : Source}

namespace Attribute

theorem finding_moved (h : source.MovedBy above moved) (n : Node) (severity : Severity)
    (description : String) (hd : description.toList.head? ≠ some 'R') :
    finding moved (n.shift above.length) severity description =
      (finding source n severity description).movedDown (above.count lineFeed) :=
  h.onNode_eq n _ _ _ hd

theorem available_moved (h : source.MovedBy above moved) (n : Node)
    (arguments : Option (List Char)) :
    available moved (n.shift above.length) arguments =
      (available source n arguments).map (Finding.movedDown (above.count lineFeed)) := by
  unfold available
  split
  · exact congrArg ([·]) (finding_moved h n _ _ (by decide))
  · split
    · exact congrArg ([·]) (finding_moved h n _ _ (by decide))
    · rfl

theorem objc_moved (h : source.MovedBy above moved) (n : Node)
    (arguments : Option (List Char)) :
    objc moved (n.shift above.length) arguments =
      (objc source n arguments).map (Finding.movedDown (above.count lineFeed)) := by
  unfold objc
  split
  · exact congrArg ([·]) (finding_moved h n _ _ (by decide))
  · rfl

theorem decorated?_shift (k : Nat) (n : Node) :
    decorated? (n.shift k) = (decorated? n).map (Node.shift k) := by
  unfold decorated?
  rw [Node.parent?_shift]
  cases n.parent? with
  | none => rfl
  | some parent =>
      simp only [Option.map_some, Option.bind_eq_bind, Option.bind_some, Node.kind_shift,
        Node.parent?_shift]
      split <;> rfl

theorem hasReturnType_shift (k : Nat) (n : Node) : hasReturnType (n.shift k) = hasReturnType n := by
  simp [hasReturnType, List.any_map, Function.comp_def]

theorem actor_moved (h : source.MovedBy above moved) (n : Node) :
    actor moved (n.shift above.length) =
      (actor source n).map (Finding.movedDown (above.count lineFeed)) := by
  have htarget : ((decorated? (n.shift above.length)).any
      fun target => !actorTargets.contains target.kind) =
        (decorated? n).any fun target => !actorTargets.contains target.kind := by
    rw [decorated?_shift]
    cases decorated? n <;> simp
  unfold actor
  rw [htarget]
  split
  · exact congrArg ([·]) (finding_moved h n _ _ (by decide))
  · rfl

theorem discardableResult_moved (h : source.MovedBy above moved) (n : Node) :
    discardableResult moved (n.shift above.length) =
      (discardableResult source n).map (Finding.movedDown (above.count lineFeed)) := by
  have htarget : ((decorated? (n.shift above.length)).any fun target =>
      target.kind == "function_declaration" && !hasReturnType target) =
        (decorated? n).any fun target =>
          target.kind == "function_declaration" && !hasReturnType target := by
    rw [decorated?_shift]
    cases decorated? n <;> simp [hasReturnType_shift]
  unfold discardableResult
  rw [htarget]
  split
  · exact congrArg ([·]) (finding_moved h n _ _ (by decide))
  · rfl

theorem custom_moved (h : source.MovedBy above moved) (standard : ScalarSet) (n : Node)
    (name : String) (arguments : Option (List Char)) :
    custom moved standard (n.shift above.length) name arguments =
      (custom source standard n name arguments).map
        (Finding.movedDown (above.count lineFeed)) := by
  unfold custom
  split
  · exact congrArg ([·]) (finding_moved h n _ _ (by simp [toString_text]))
  · rfl

theorem findingsAt_moved (h : source.MovedBy above moved) (standard : ScalarSet) (n : Node) :
    findingsAt moved standard (n.shift above.length) =
      (findingsAt source standard n).map (Finding.movedDown (above.count lineFeed)) := by
  unfold findingsAt
  rw [Node.label_shift, h.chars_eq]
  simp only [available_moved h, objc_moved h, actor_moved h, discardableResult_moved h,
    custom_moved h]
  split <;> rfl

end Attribute

namespace Directive

theorem isCandidate_moved (h : source.MovedBy above moved) (n : Node) :
    isCandidate moved (n.shift above.length) = isCandidate source n := by
  simp [isCandidate, h.chars_eq]

theorem hasArguments_shift (k : Nat) (n : Node) : hasArguments (n.shift k) = hasArguments n := by
  simp [hasArguments, List.any_map, Function.comp_def]

theorem fault?_shift (k : Nat) (standard : ScalarSet) (n : Node) (name : String)
    (rest : List Char) : fault? standard (n.shift k) name rest = fault? standard n name rest := by
  simp only [fault?, invocationFault?, Node.kind_shift, hasArguments_shift]

theorem head_of_invocationFault? (standard : ScalarSet) (n : Node) (name : String)
    (severity : Severity) (description : String)
    (hf : invocationFault? standard n name = some (severity, description)) :
    description.toList.head? ≠ some 'R' := by
  unfold invocationFault? at hf
  split at hf
  · cases hf
    decide
  · split at hf
    · cases hf
      simp [toString_text]
    · cases hf

theorem head_of_fault? (standard : ScalarSet) (n : Node) (name : String) (rest : List Char)
    (severity : Severity) (description : String)
    (hf : fault? standard n name rest = some (severity, description)) :
    description.toList.head? ≠ some 'R' := by
  unfold fault? at hf
  split at hf
  · split at hf
    · cases hf
      simp [toString_text]
    · cases hf
  · split at hf
    · split at hf
      · cases hf
        decide
      · cases hf
    · split at hf
      · exact head_of_invocationFault? standard n name severity description hf
      · cases hf

theorem finding?_moved (h : source.MovedBy above moved) (standard : ScalarSet) (n : Node) :
    finding? moved standard (n.shift above.length) =
      (finding? source standard n).map (Finding.movedDown (above.count lineFeed)) := by
  unfold finding?
  rw [Node.label_shift, h.chars_eq]
  dsimp only
  cases Swift.splitDirective? (Text.trim ((source.chars n.label).takeWhile (· != '\n'))) with
  | none => rfl
  | some directive =>
      obtain ⟨name, rest⟩ := directive
      simp only [Option.bind_eq_bind, Option.bind_some, fault?_shift]
      cases hf : fault? standard n (String.ofList name) rest with
      | none => rfl
      | some fault =>
          obtain ⟨severity, description⟩ := fault
          exact congrArg some
            (h.onNode_eq n _ _ _ (head_of_fault? standard n _ rest severity description hf))

end Directive

namespace AttributeUsage

-- Positions that are told apart before they move down are told apart after it.
theorem contains_map_down (lines : Nat) (seen : List Position) (position : Position) :
    (seen.map (Position.down lines)).contains (position.down lines) = seen.contains position := by
  rw [Bool.eq_iff_iff, List.contains_iff_mem, List.contains_iff_mem, List.mem_map]
  constructor
  · rintro ⟨other, hm, heq⟩
    exact (Position.down_inj lines other position).mp heq ▸ hm
  · intro hm
    exact ⟨position, hm, rfl⟩

theorem scan_moved (h : source.MovedBy above moved) (settings : Settings) (nodes : List Node)
    (seen : List Position) :
    scan moved settings (seen.map (Position.down (above.count lineFeed)))
        (nodes.map (Node.shift above.length)) =
      (scan source settings seen nodes).map (Finding.movedDown (above.count lineFeed)) := by
  induction nodes generalizing seen with
  | nil => rfl
  | cons n rest ih =>
      have hnext := ih (source.position n :: seen)
      rw [List.map_cons] at hnext
      simp only [List.map_cons, scan, Node.kind_shift, Directive.isCandidate_moved h,
        h.position_eq, contains_map_down, Attribute.findingsAt_moved h,
        Directive.finding?_moved h, ih, hnext]
      split
      · rw [List.map_append]
      · split
        · cases Directive.finding? source (settings.set .standardMacros) n <;> rfl
        · rfl

theorem findings_moved (h : source.MovedBy above moved) (settings : Settings) :
    findings moved settings =
      (findings source settings).map (Finding.movedDown (above.count lineFeed)) := by
  rw [findings, h.nodes_eq]
  exact scan_moved h settings source.nodes []

end AttributeUsage

end SwiftAudit.Rule
