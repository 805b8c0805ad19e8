import Mathlib.Algebra.BigOperators.Group.List.Basic
import Mathlib.Algebra.GroupWithZero.Nat
import SwiftAudit.Proofs.Complexity.Owner
import SwiftAudit.Proofs.Failure.Frames

namespace SwiftAudit.Rule.Complexity

-- The innermost function pays for several decisions.
def pay (count : Nat) : List Frame → List Frame
  | [] => []
  | frame :: outer => { frame with paths := frame.paths + count } :: outer

@[simp] theorem pay_zero (frames : List Frame) : pay 0 frames = frames := by
  cases frames <;> rfl

theorem pay_pay (a b : Nat) (frames : List Frame) : pay b (pay a frames) = pay (a + b) frames := by
  cases frames with
  | nil => rfl
  | cons frame outer => simp [pay, Nat.add_assoc]

theorem payInnermost_eq (frames : List Frame) : payInnermost frames = pay 1 frames := by
  cases frames <;> rfl

section Walk

variable (source : Source) (threshold : Int)

-- What is found where a function is left.
def foundAt (n : Node) : List Finding :=
  if isFunction n then
    finding source threshold n
      ⟨Swift.declarationName source n, 1 + decisionsOf (some n) n.preorder⟩
  else []

-- What the walk through some trees does to the progress that it is started with: the decisions
-- that no function among them owns are paid for by the frame on top.
def Runs (owner : Option Node) (nodes : List Node) : Prop :=
  ∀ progress : Progress,
    (nodes.flatMap Node.bracketed).foldl (step source threshold) progress =
      ⟨pay (decisionsOf owner (nodes.flatMap Node.preorder)) progress.frames,
        progress.findings ++ (nodes.flatMap Node.postorder).flatMap (foundAt source threshold)⟩

variable {source threshold}

theorem Runs.nil (owner : Option Node) : Runs source threshold owner [] := by
  intro progress
  simp [decisionsOf]

theorem Runs.cons {owner : Option Node} {n : Node} {nodes : List Node}
    (hn : Runs source threshold owner [n]) (hnodes : Runs source threshold owner nodes) :
    Runs source threshold owner (n :: nodes) := by
  intro progress
  have hn := hn progress
  simp only [List.flatMap_singleton] at hn
  rw [List.flatMap_cons, List.foldl_append, hn, hnodes, pay_pay, List.flatMap_cons,
    decisionsOf_append, List.flatMap_cons, List.flatMap_append, List.append_assoc]

theorem runs_of_forall {owner : Option Node} {nodes : List Node}
    (h : ∀ n ∈ nodes, Runs source threshold owner [n]) : Runs source threshold owner nodes := by
  induction nodes with
  | nil => exact .nil owner
  | cons n rest ih =>
      obtain ⟨hn, hrest⟩ := List.forall_mem_cons.mp h
      exact hn.cons (ih hrest)

-- A function takes a frame of its own, which is gone again when the function is left.
theorem runs_function {n : Node} (hn : isFunction n)
    (hbelow : Runs source threshold (some n) n.children) :
    Runs source threshold (owner? n) [n] := by
  intro progress
  simp only [List.flatMap_singleton, Node.bracketed_eq, List.cons_append, List.foldl_cons,
    List.foldl_append, List.foldl_nil]
  rw [step, if_pos hn, hbelow, decisionsOf_function hn, pay_zero, Node.postorder_eq,
    List.flatMap_append, List.flatMap_singleton, foundAt, if_pos hn, decisionsOf_self hn]
  simp [step, hn, pay]

-- Any other node leaves the frames as they are, but for what its decisions cost.
theorem runs_other {n : Node} (hn : ¬isFunction n)
    (hbelow : Runs source threshold (owner? n) n.children) :
    Runs source threshold (owner? n) [n] := by
  intro progress
  have henter : step source threshold progress (.enter n) =
      ⟨pay (if isDecision n then 1 else 0) progress.frames, progress.findings⟩ := by
    by_cases hd : isDecision n
    · simp [step, hn, hd, payInnermost_eq]
    · simp [step, hn, hd]
  have hself : isDecisionOf (owner? n) n = isDecision n := by simp [isDecisionOf]
  simp only [List.flatMap_singleton, Node.bracketed_eq, List.cons_append, List.foldl_cons,
    List.foldl_append, List.foldl_nil]
  rw [henter, hbelow, pay_pay, Node.preorder_eq, decisionsOf_cons, hself, Node.postorder_eq,
    List.flatMap_append, List.flatMap_singleton, foundAt, if_neg hn, List.append_nil, step,
    if_neg hn, Nat.add_comm]

theorem runs (n : Node) : Runs source threshold (owner? n) [n] := by
  induction n using Node.childInduction with
  | node n ih =>
      by_cases hn : isFunction n
      · refine runs_function hn (runs_of_forall ?_)
        intro child hchild
        have hrun := ih child hchild
        rwa [owner?_child hchild, if_pos hn] at hrun
      · refine runs_other hn (runs_of_forall ?_)
        intro child hchild
        have hrun := ih child hchild
        rwa [owner?_child hchild, if_neg hn] at hrun

end Walk

-- A walk through a whole tree ends without a frame.
theorem foldl_events (source : Source) (threshold : Int) :
    source.root.events.foldl (step source threshold) ⟨[], []⟩ =
      ⟨[], source.root.postorder.flatMap (foundAt source threshold)⟩ := by
  have hruns : Runs source threshold (owner? source.root) [source.root] := runs source.root
  have hrun := hruns ⟨[], []⟩
  simp only [List.flatMap_singleton] at hrun
  rw [Node.events_eq_bracketed, hrun, pay, List.nil_append]

-- One path through a function, and one more for each decision of the file that it owns.
def pathsThrough (source : Source) (f : Node) : Nat :=
  1 + decisionsOf (some f) source.root.preorder

def excess (source : Source) (threshold : Int) (f : Node) : Finding :=
  let name := Swift.declarationName source f
  let paths := pathsThrough source f
  .onNode source (Swift.nameNode f) Category.complexity
    (s!"Function '{name}' has a cyclomatic complexity of {paths}, " ++
      s!"which exceeds the threshold of {threshold}")

theorem foundAt_eq {source : Source} {f : Node} (threshold : Int)
    (h : f ∈ source.root.preorder) :
    foundAt source threshold f =
      if isFunction f && decide (threshold < pathsThrough source f) then
        [excess source threshold f]
      else [] := by
  have hpaths : pathsThrough source f = 1 + decisionsOf (some f) f.preorder :=
    congrArg (1 + ·) (decisionsOf_root h)
  by_cases hf : isFunction f
  · simp only [foundAt, hf, if_true, Bool.true_and, decide_eq_true_eq]
    rw [finding, ← hpaths]
    rfl
  · simp [foundAt, hf]

-- Each decision has one owner, so that the decisions of the functions add up.
theorem sum_decisionsOf {functions : List Node} (hnodup : functions.Nodup) (nodes : List Node) :
    (functions.map fun f => decisionsOf (some f) nodes).sum =
      nodes.countP fun d => isDecision d && functions.any fun f => decide (owner? d = some f) := by
  induction functions with
  | nil => simp
  | cons f rest ih =>
      obtain ⟨hnew, hrest⟩ := List.nodup_cons.mp hnodup
      rw [List.map_cons, List.sum_cons, ih hrest, decisionsOf, countP_add_countP]
      · simp [isDecisionOf, Bool.and_or_distrib_left]
      · rintro d ⟨hone, hother⟩
        simp only [isDecisionOf, Bool.and_eq_true, decide_eq_true_eq, List.any_eq_true] at hone hother
        obtain ⟨-, g, hg, howner⟩ := hother
        rw [hone.2] at howner
        cases howner
        exact hnew hg

-- The walk with its stack of frames counts what the tree says: a function has one path, and one
-- more for each decision whose nearest enclosing function it is. The functions with too many
-- paths are reported once each, those inside of others first. No frame is missed where a
-- function is left, none stays behind, and each decision inside of functions counts once.
theorem findings_eq_counted (source : Source) (settings : Settings) :
    let threshold := settings.number .complexityThreshold
    let functions := source.root.postorder.filter isFunction
    findings source settings =
        (functions.filter fun f => decide (threshold < pathsThrough source f)).map
          (excess source threshold) ∧
      (functions.Nodup ∧ ∀ f, f ∈ functions ↔ f ∈ source.root.preorder ∧ isFunction f) ∧
      source.root.events.foldlM (strictStep source threshold) ⟨[], []⟩ =
        some ⟨[], findings source settings⟩ ∧
      (functions.map fun f => pathsThrough source f - 1).sum =
        source.root.preorder.countP fun d => isDecision d && (owner? d).isSome := by
  intro threshold functions
  have hperm := Node.postorder_perm source.root
  have hnodup : functions.Nodup :=
    (hperm.nodup_iff.mpr (Node.nodup_preorder _)).sublist List.filter_sublist
  have hmem (f : Node) : f ∈ functions ↔ f ∈ source.root.preorder ∧ isFunction f := by
    rw [List.mem_filter, hperm.mem_iff]
  have hwalk := foldl_events source threshold
  have hfindings : findings source settings =
      source.root.postorder.flatMap (foundAt source threshold) :=
    congrArg Progress.findings hwalk
  refine ⟨?_, ⟨hnodup, hmem⟩, ?_, ?_⟩
  · rw [hfindings, List.filter_filter, ← flatMap_ite_singleton]
    apply List.flatMap_congr
    intro f hf
    rw [foundAt_eq threshold (hperm.mem_iff.mp hf), Bool.and_comm]
  · rw [strictWalk_root, hwalk, ← hfindings]
  · have hpaths : (functions.map fun f => pathsThrough source f - 1) =
        functions.map fun f => decisionsOf (some f) source.root.preorder := by
      apply List.map_congr_left
      intro f _
      rw [pathsThrough, Nat.add_sub_cancel_left]
    rw [hpaths, sum_decisionsOf hnodup]
    apply List.countP_congr
    intro d hd
    cases howner : owner? d with
    | none => simp
    | some f =>
        have hf : f ∈ functions :=
          (hmem f).mpr ⟨(mem_of_owner? hd howner).1, isFunction_of_owner? howner⟩
        simpa using fun _ => hf

end SwiftAudit.Rule.Complexity
