import SwiftAudit.Check
import SwiftAudit.Proofs.Assoc
import SwiftAudit.Proofs.Except
import SwiftAudit.Proofs.Translation.Finding
import SwiftAudit.Proofs.Translation.Swift

-- The rules that carry something from node to node. What they carry is moved along.
namespace SwiftAudit.Rule

variable {above : List UInt8} {source moved : Source}

namespace Complexity

def Progress.movedDown (lines : Nat) (progress : Progress) : Progress :=
  { progress with findings := progress.findings.map (Finding.movedDown lines) }

theorem finding_moved (h : source.MovedBy above moved) (threshold : Int) (n : Node)
    (frame : Frame) :
    finding moved threshold (n.shift above.length) frame =
      (finding source threshold n frame).map (Finding.movedDown (above.count lineFeed)) := by
  unfold finding
  rw [Swift.nameNode_shift]
  split
  · exact congrArg ([·]) (h.onNode_eq (Swift.nameNode n) _ _ _ (by simp [toString_text]))
  · rfl

theorem isFunction_shift (k : Nat) (n : Node) : isFunction (n.shift k) = isFunction n := by
  rw [isFunction, Node.kind_shift, isFunction]

theorem isDecision_shift (k : Nat) (n : Node) : isDecision (n.shift k) = isDecision n := by
  rw [isDecision, Node.kind_shift, isDecision]

theorem step_moved (h : source.MovedBy above moved) (threshold : Int) (progress : Progress)
    (event : Event) :
    step moved threshold (progress.movedDown (above.count lineFeed))
        (event.shift above.length) =
      (step source threshold progress event).movedDown (above.count lineFeed) := by
  cases event with
  | enter n =>
      simp only [Event.shift, step, isFunction_shift, isDecision_shift,
        Swift.declarationName_moved h]
      split
      · rfl
      · split <;> rfl
  | leave n =>
      obtain ⟨frames, found⟩ := progress
      simp only [Event.shift, step, isFunction_shift]
      split
      · cases frames with
        | nil => rfl
        | cons frame outer => simp [Progress.movedDown, finding_moved h]
      · rfl

theorem foldl_step_moved (h : source.MovedBy above moved) (threshold : Int)
    (events : List Event) (progress : Progress) :
    (events.map (Event.shift above.length)).foldl (step moved threshold)
        (progress.movedDown (above.count lineFeed)) =
      (events.foldl (step source threshold) progress).movedDown (above.count lineFeed) := by
  induction events generalizing progress with
  | nil => rfl
  | cons event rest ih =>
      rw [List.map_cons, List.foldl_cons, step_moved h, ih, List.foldl_cons]

theorem findings_moved (h : source.MovedBy above moved) (settings : Settings) :
    findings moved settings =
      (findings source settings).map (Finding.movedDown (above.count lineFeed)) := by
  have hfold := foldl_step_moved h (settings.number .complexityThreshold) source.root.events
    ⟨[], []⟩
  rw [findings, h.events_eq]
  exact congrArg Progress.findings hfold

end Complexity

namespace ConstantAssignment

def Progress.movedDown (lines : Nat) (progress : Progress) : Progress :=
  { progress with findings := progress.findings.map (Finding.movedDown lines) }

theorem bareTarget?_shift (k : Nat) (target : Node) :
    bareTarget? (target.shift k) = (bareTarget? target).map (Node.shift k) := by
  unfold bareTarget?
  rw [Node.kind_shift, Node.namedChildren_shift]
  split
  · generalize target.namedChildren = named
    match named with
    | [] => rfl
    | [_] => rfl
    | _ :: _ :: _ => rfl
  · rfl

theorem assignedName?_moved (h : source.MovedBy above moved) (n : Node) :
    assignedName? moved (n.shift above.length) = assignedName? source n := by
  have htarget : ((n.shift above.length).child? .target <|>
      (n.shift above.length).namedChildren.head?) =
        (n.child? .target <|> n.namedChildren.head?).map (Node.shift above.length) := by
    rw [Node.child?_shift, Node.namedChildren_shift, List.head?_map]
    cases n.child? .target <;> rfl
  unfold assignedName?
  rw [htarget]
  cases (n.child? .target <|> n.namedChildren.head?) with
  | none => rfl
  | some target =>
      simp only [Option.map_some, Option.bind_eq_bind, Option.bind_some, bareTarget?_shift]
      cases bareTarget? target with
      | none => rfl
      | some bare =>
          simp only [Option.map_some, Option.bind_some, Node.kind_shift, h.textOf_eq]

theorem finding_moved (h : source.MovedBy above moved) (n : Node) (name : String) :
    finding moved (n.shift above.length) name =
      (finding source n name).movedDown (above.count lineFeed) :=
  h.onNode_eq n _ _ _ (by simp [toString_text])

theorem step_moved (h : source.MovedBy above moved) (progress : Progress) (n : Node) :
    step moved (progress.movedDown (above.count lineFeed)) (n.shift above.length) =
      (step source progress n).map (Progress.movedDown (above.count lineFeed)) := by
  have hnames : (Swift.bindings moved (n.shift above.length)).map (·.1) =
      (Swift.bindings source n).map (·.1) := by
    simp [Swift.bindings_moved h, Function.comp_def]
  unfold step
  rw [Node.kind_shift, Swift.mutability_moved h, assignedName?_moved h, hnames]
  split
  · cases Swift.mutability source n with
    | error e => rfl
    | ok word =>
        simp only [ok_bind]
        split <;> rfl
  · split
    · cases assignedName? source n with
      | none => rfl
      | some name =>
          simp only [Progress.movedDown, finding_moved h]
          split
          · simp [Progress.movedDown]
          · rfl
    · rfl

theorem foldlM_step_moved (h : source.MovedBy above moved) (nodes : List Node)
    (progress : Progress) :
    (nodes.map (Node.shift above.length)).foldlM (step moved)
        (progress.movedDown (above.count lineFeed)) =
      (nodes.foldlM (step source) progress).map
        (Progress.movedDown (above.count lineFeed)) := by
  induction nodes generalizing progress with
  | nil => rfl
  | cons n rest ih =>
      rw [List.map_cons, List.foldlM_cons, step_moved h, List.foldlM_cons]
      cases step source progress n with
      | error e => rfl
      | ok next => exact ih next

theorem findings_moved (h : source.MovedBy above moved) :
    findings moved =
      (findings source).map (List.map (Finding.movedDown (above.count lineFeed))) := by
  have hfold := foldlM_step_moved h source.nodes ⟨[], []⟩
  rw [findings, h.nodes_eq, findings]
  exact (congrArg (Except.map Progress.findings) hfold).trans (by
    cases source.nodes.foldlM (step source) ⟨[], []⟩ <;> rfl)

end ConstantAssignment

namespace OptionalChain

def Chain.shift (k : Nat) (chain : Chain) : Chain :=
  { chain with
    node := chain.node.shift k
    start := chain.start + k
    stop := chain.stop + k }

theorem wholeExpression_shift (k : Nat) (n : Node) :
    wholeExpression (n.shift k) = (wholeExpression n).shift k :=
  Node.climb_shift k isBoundary n.tree n.places

theorem chain?_moved (h : source.MovedBy above moved) (limit : Int) (n : Node) :
    chain? moved limit (n.shift above.length) =
      (chain? source limit n).map (Chain.shift above.length) := by
  simp only [chain?, Node.kind_shift, Node.label_shift, h.chars_eq, wholeExpression_shift,
    Label.start_shift, Label.stop_shift]
  split
  · split <;> rfl
  · rfl

-- Spans that are told apart before they are shifted are told apart after it.
theorem firstOfSpan_shift (k : Nat) (chains : List Chain) (seen : List (Nat × Nat)) :
    firstOfSpan (seen.map (Prod.map (· + k) (· + k))) (chains.map (Chain.shift k)) =
      (firstOfSpan seen chains).map (Chain.shift k) := by
  induction chains generalizing seen with
  | nil => rfl
  | cons chain rest ih =>
      have hseen : (seen.map (Prod.map (· + k) (· + k))).contains
          (chain.start + k, chain.stop + k) = seen.contains (chain.start, chain.stop) := by
        rw [Bool.eq_iff_iff, List.contains_iff_mem, List.contains_iff_mem, List.mem_map]
        constructor
        · rintro ⟨span, hm, heq⟩
          obtain ⟨hstart, hstop⟩ := Prod.mk.inj heq
          have hspan : span = (chain.start, chain.stop) :=
            Prod.ext (Nat.add_right_cancel hstart) (Nat.add_right_cancel hstop)
          exact hspan ▸ hm
        · intro hm
          exact ⟨_, hm, rfl⟩
      have hnext := ih ((chain.start, chain.stop) :: seen)
      rw [List.map_cons, firstOfSpan, Chain.shift, hseen, firstOfSpan]
      split
      · exact ih seen
      · rw [List.map_cons, ← hnext]
        rfl

theorem finding_moved (h : source.MovedBy above moved) (chain : Chain) :
    finding moved (chain.shift above.length) =
      (finding source chain).movedDown (above.count lineFeed) :=
  h.onNode_eq chain.node _ _ _ (by simp [toString_text])

theorem findings_moved (h : source.MovedBy above moved) (settings : Settings) :
    findings moved settings =
      (findings source settings).map (Finding.movedDown (above.count lineFeed)) := by
  have hchains : moved.nodes.filterMap
      (chain? moved (settings.number .maxOptionalChainDepth)) =
        (source.nodes.filterMap (chain? source (settings.number .maxOptionalChainDepth))).map
          (Chain.shift above.length) := by
    simp only [h.nodes_eq, List.filterMap_map, List.map_filterMap, Function.comp_def,
      chain?_moved h]
  have hfirst := firstOfSpan_shift above.length
    (source.nodes.filterMap (chain? source (settings.number .maxOptionalChainDepth))) []
  rw [List.map_nil] at hfirst
  simp only [findings, hchains, hfirst]
  split <;> simp [finding_moved h]

end OptionalChain

namespace SymbolUsage

def Declaration.shift (k : Nat) (declaration : Declaration) : Declaration :=
  { declaration with node := declaration.node.shift k }

theorem isNamedDeclaration_moved (h : source.MovedBy above moved) (n : Node) :
    isNamedDeclaration moved (n.shift above.length) = isNamedDeclaration source n := by
  rw [isNamedDeclaration, Node.kind_shift, Swift.isExtension_moved h, isNamedDeclaration]

theorem declarationsAt_moved (h : source.MovedBy above moved) (n : Node) :
    declarationsAt moved (n.shift above.length) =
      (declarationsAt source n).map (Prod.map id (Declaration.shift above.length)) := by
  simp only [declarationsAt, isNamedDeclaration_moved h, Node.kind_shift,
    Swift.hasModifier_moved h, Swift.bindings_moved h, Node.child?_shift, h.textOf?_eq]
  split
  · simp [Function.comp_def, Declaration.shift]
  · split
    · split <;> rfl
    · rfl

theorem declarations_moved (h : source.MovedBy above moved) :
    declarations moved =
      (declarations source).map (Prod.map id (Declaration.shift above.length)) := by
  have hlist : moved.nodes.flatMap (declarationsAt moved) =
      (source.nodes.flatMap (declarationsAt source)).map
        (Prod.map id (Declaration.shift above.length)) := by
    simp only [h.nodes_eq, List.flatMap_map, List.map_flatMap, declarationsAt_moved h]
  rw [declarations, hlist, Assoc.ofList_map, declarations]

theorem references_moved (h : source.MovedBy above moved) :
    references moved = references source := by
  simp only [references, h.nodes_eq, List.filterMap_map, Function.comp_def,
    Swift.usedName?_moved h]

-- A test that does not look at the node of a declaration, and a finding on that node.
theorem report_moved (p : String → Declaration → Bool)
    (finding finding' : String → Declaration → Finding) (k lines : Nat)
    (hp : ∀ name declaration, p name (declaration.shift k) = p name declaration)
    (hfinding : ∀ name declaration,
      finding' name (declaration.shift k) = (finding name declaration).movedDown lines)
    (declarations : List (String × Declaration)) :
    report p finding' (declarations.map (Prod.map id (Declaration.shift k))) =
      (report p finding declarations).map (Finding.movedDown lines) := by
  simp [report, List.filter_map, Function.comp_def, hp, hfinding]

theorem findings_moved (h : source.MovedBy above moved) (settings : Settings) :
    findings moved settings =
      (findings source settings).map (Finding.movedDown (above.count lineFeed)) := by
  have hunused (name : String) (declaration : Declaration) :
      unused moved name (declaration.shift above.length) =
        (unused source name declaration).movedDown (above.count lineFeed) :=
    h.onNode_eq declaration.node _ _ _ (by simp [toString_text])
  have hshort (name : String) (declaration : Declaration) :
      short moved name (declaration.shift above.length) =
        (short source name declaration).movedDown (above.count lineFeed) :=
    h.onNode_eq declaration.node _ _ _ (by simp [toString_text])
  have honce (name : String) (declaration : Declaration) :
      usedOnce moved name (declaration.shift above.length) =
        (usedOnce source name declaration).movedDown (above.count lineFeed) :=
    h.onNode_eq declaration.node _ _ _ (by simp [toString_text])
  simp only [findings, references_moved h, declarations_moved h, List.map_append]
  rw [report_moved _ _ _ _ _ (fun _ _ => rfl) hunused,
    report_moved _ _ _ _ _ (fun _ _ => rfl) hshort,
    report_moved _ _ _ _ _ (fun _ _ => rfl) honce]

end SymbolUsage

end SwiftAudit.Rule
