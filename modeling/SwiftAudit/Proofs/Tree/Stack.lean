import Mathlib.Logic.Function.Iterate
import SwiftAudit.Proofs.Tree.Ancestors

namespace SwiftAudit

-- A loop between two of its turns: the stack of what is due, with its top at the end, and what
-- the loop has given so far.
structure Loop (α : Type) where
  stack : List α
  given : List α

namespace Loop

variable {α : Type}

-- One turn gives the top of the stack and puts what it opens in its place, the last first, so
-- that the first is the next top. Without a top there are no more turns.
def turn (opens : α → List α) (loop : Loop α) : Loop α :=
  match loop.stack.getLast? with
  | none => loop
  | some top => ⟨loop.stack.dropLast ++ (opens top).reverse, loop.given ++ [top]⟩

def start (item : α) : Loop α := ⟨[item], []⟩

-- The loop is over, as its stack is empty.
def ended (given : List α) : Loop α := ⟨[], given⟩

section Turns

variable {opens unfold : α → List α}

theorem turn_cons (item : α) (due given : List α) :
    turn opens ⟨(item :: due).reverse, given⟩ =
      ⟨(opens item ++ due).reverse, given ++ [item]⟩ := by
  simp [turn]

-- The number of items that the due ones unfold to is what every turn lowers by one.
theorem iterate_turn (hunfold : ∀ item, unfold item = item :: (opens item).flatMap unfold)
    (due given : List α) :
    (turn opens)^[(due.flatMap unfold).length] ⟨due.reverse, given⟩ =
      ended (given ++ due.flatMap unfold) := by
  induction hturns : (due.flatMap unfold).length generalizing due given with
  | zero =>
      cases due with
      | nil => simp [ended]
      | cons item due =>
          rw [flatMap_unfold_cons hunfold] at hturns
          cases hturns
  | succ turns ih =>
      cases due with
      | nil => cases hturns
      | cons item due =>
          rw [flatMap_unfold_cons hunfold, List.length_cons, Nat.add_right_cancel_iff] at hturns
          rw [Function.iterate_succ_apply, turn_cons, ih _ _ hturns, flatMap_unfold_cons hunfold,
            List.append_assoc]
          rfl

theorem iterate_turn_start (hunfold : ∀ item, unfold item = item :: (opens item).flatMap unfold)
    (item : α) : (turn opens)^[(unfold item).length] (start item) = ended (unfold item) := by
  have hrun := iterate_turn hunfold [item] []
  rwa [List.flatMap_singleton, List.nil_append] at hrun

end Turns

end Loop

namespace Node

-- The children are due in a stack, and each node is met in a turn of its own.
theorem iterate_children (n : Node) :
    (Loop.turn children)^[n.tree.size] (Loop.start n) = Loop.ended n.preorder := by
  rw [← length_preorder]
  exact Loop.iterate_turn_start preorder_eq n

end Node

end SwiftAudit
