import SwiftAudit.Rule.Complexity

namespace SwiftAudit.Rule.Complexity

-- The step of the walk, but without an answer where the walk leaves a function while none
-- is open.
def strictStep (source : Source) (threshold : Int) (progress : Progress) : Event → Option Progress
  | .enter n => some (step source threshold progress (.enter n))
  | .leave n =>
    if isFunction n && progress.frames.isEmpty then none
    else some (step source threshold progress (.leave n))

-- The events that are due leave no more functions than `depth`, the number of those that are
-- open. A node that is still to be entered leaves what it enters, so it does not count.
def Covered : (depth : Nat) → List Event → Prop
  | _, [] => True
  | depth, .enter _ :: due => Covered depth due
  | depth, .leave n :: due =>
    if isFunction n then 0 < depth ∧ Covered (depth - 1) due else Covered depth due

theorem covered_enters (depth : Nat) (nodes : List Node) (due : List Event) :
    Covered depth (nodes.map Event.enter ++ due) ↔ Covered depth due := by
  induction nodes with
  | nil => rfl
  | cons n rest ih => simpa [Covered] using ih

@[simp] theorem payInnermost_length (frames : List Frame) :
    (payInnermost frames).length = frames.length := by
  cases frames <;> rfl

-- One step keeps the frames in line with what is due after it.
theorem strictStep_covered (source : Source) (threshold : Int) (progress : Progress)
    (event : Event) (due : List Event) (h : Covered progress.frames.length (event :: due)) :
    strictStep source threshold progress event = some (step source threshold progress event) ∧
      Covered (step source threshold progress event).frames.length (event.next ++ due) := by
  cases event with
  | enter n =>
      have hdue : Covered progress.frames.length due := h
      refine ⟨rfl, ?_⟩
      simp only [Event.next, List.append_assoc, List.singleton_append, covered_enters, Covered]
      by_cases hf : isFunction n
      · simpa [step, hf] using hdue
      · by_cases hd : isDecision n <;> simpa [step, hf, hd] using hdue
  | leave n =>
      by_cases hf : isFunction n
      · obtain ⟨hpos, hdue⟩ : 0 < progress.frames.length ∧
            Covered (progress.frames.length - 1) due := by simpa [Covered, hf] using h
        obtain ⟨frame, outer, hframes⟩ := List.exists_cons_of_length_pos hpos
        simp only [strictStep, step, hf, hframes, Event.next]
        exact ⟨rfl, by simpa [hframes] using hdue⟩
      · simp only [strictStep, step, hf, Event.next]
        exact ⟨rfl, by simpa [Covered, hf] using h⟩

theorem strictWalk_eq (source : Source) (threshold : Int) (fuel : Nat) (due : List Event)
    (progress : Progress) (h : Covered progress.frames.length due) :
    (Event.walk fuel due).foldlM (strictStep source threshold) progress =
      some ((Event.walk fuel due).foldl (step source threshold) progress) := by
  induction fuel generalizing due progress with
  | zero => rfl
  | succ fuel ih =>
      cases due with
      | nil => rfl
      | cons event due =>
          obtain ⟨hstep, hnext⟩ := strictStep_covered source threshold progress event due h
          simp only [Event.walk, List.foldlM_cons, List.foldl_cons, hstep]
          exact ih _ _ hnext

-- In the walk through a tree every function that is left has its frame on the stack.
theorem strictWalk_root (source : Source) (threshold : Int) :
    source.root.events.foldlM (strictStep source threshold) ⟨[], []⟩ =
      some (source.root.events.foldl (step source threshold) ⟨[], []⟩) :=
  strictWalk_eq source threshold _ _ _ trivial

end SwiftAudit.Rule.Complexity
