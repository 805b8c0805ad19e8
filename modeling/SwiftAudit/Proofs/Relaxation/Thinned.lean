import Mathlib.Data.List.Basic
import SwiftAudit.Finding
import SwiftAudit.Proofs.Except

namespace SwiftAudit

-- All of a finding but its words, which may name a limit.
def Finding.mark (finding : Finding) : Int × Int × Severity × String :=
  (finding.line, finding.column, finding.severity, finding.category)

-- Of the findings some are left out and none is added. Those that stay keep their order and
-- may be put in other words.
def Thinned (fewer more : List Finding) : Prop :=
  (fewer.map Finding.mark).Sublist (more.map Finding.mark)

namespace Thinned

variable {α : Type}

theorem of_sublist {fewer more : List Finding} (h : fewer.Sublist more) : Thinned fewer more :=
  h.map Finding.mark

theorem refl (findings : List Finding) : Thinned findings findings := of_sublist (.refl findings)

theorem nil (findings : List Finding) : Thinned [] findings := of_sublist findings.nil_sublist

theorem singleton {a b : Finding} (h : a.mark = b.mark) : Thinned [a] [b] := by
  simp [Thinned, h]

theorem append {fewer more fewer' more' : List Finding} (h : Thinned fewer more)
    (h' : Thinned fewer' more') : Thinned (fewer ++ fewer') (more ++ more') := by
  unfold Thinned
  rw [List.map_append, List.map_append]
  exact List.Sublist.append h h'

theorem append_left {fewer more : List Finding} (others : List Finding) (h : Thinned fewer more) :
    Thinned fewer (others ++ more) :=
  (nil others).append h

theorem flatMap {f g : α → List Finding} (items : List α)
    (h : ∀ item ∈ items, Thinned (g item) (f item)) :
    Thinned (items.flatMap g) (items.flatMap f) := by
  induction items with
  | nil => exact .nil _
  | cons item rest ih =>
      rw [List.flatMap_cons, List.flatMap_cons]
      exact (h item List.mem_cons_self).append
        (ih fun other hm => h other (List.mem_cons_of_mem _ hm))

theorem filterMap {f g : α → Option Finding} (items : List α)
    (h : ∀ item ∈ items, Thinned (g item).toList (f item).toList) :
    Thinned (items.filterMap g) (items.filterMap f) := by
  rw [List.filterMap_eq_flatMap_toList, List.filterMap_eq_flatMap_toList]
  exact flatMap items h

-- A finding that is made under a condition, and the same one under a weaker condition.
theorem ite {p q : Prop} [Decidable p] [Decidable q] (h : p → q) {fewer more : List Finding}
    (hthinned : Thinned fewer more) :
    Thinned (if p then fewer else []) (if q then more else []) := by
  by_cases hp : p
  · rwa [if_pos hp, if_pos (h hp)]
  · rw [if_neg hp]
    exact .nil _

end Thinned

-- A computation that succeeds wherever another does, with some findings less.
def Eased {ε : Type} (eased strict : Except ε (List Finding)) : Prop :=
  ∀ more, strict = .ok more → ∃ fewer, eased = .ok fewer ∧ Thinned fewer more

namespace Eased

variable {ε α : Type}

theorem ok {fewer more : List Finding} (h : Thinned fewer more) :
    Eased (.ok fewer : Except ε (List Finding)) (.ok more) := by
  intro found hfound
  cases hfound
  exact ⟨fewer, rfl, h⟩

theorem refl (found : Except ε (List Finding)) : Eased found found :=
  fun more h => ⟨more, h, .refl more⟩

theorem map {eased strict : Except ε (List Finding)} (h : Eased eased strict)
    {f g : List Finding → List Finding}
    (hfg : ∀ fewer more, Thinned fewer more → Thinned (g fewer) (f more)) :
    Eased (eased >>= fun fewer => .ok (g fewer)) (strict >>= fun more => .ok (f more)) := by
  intro found hfound
  obtain ⟨more, hmore, hf⟩ := exists_of_bind_eq_ok hfound
  cases hf
  obtain ⟨fewer, hfewer, hthinned⟩ := h more hmore
  rw [hfewer]
  exact ⟨g fewer, rfl, hfg _ _ hthinned⟩

theorem flatMapM {f g : α → Except ε (List Finding)} (items : List α)
    (h : ∀ item ∈ items, Eased (g item) (f item)) :
    Eased (items.flatMapM g) (items.flatMapM f) := by
  induction items with
  | nil => exact .refl _
  | cons item rest ih =>
      intro found hfound
      rw [List.flatMapM_cons] at hfound
      obtain ⟨part, hpart, hfound⟩ := exists_of_bind_eq_ok hfound
      obtain ⟨parts, hparts, hfound⟩ := exists_of_bind_eq_ok hfound
      cases hfound
      obtain ⟨fewer, hfewer, hthinned⟩ := h item List.mem_cons_self part hpart
      obtain ⟨others, hothers, hthinned'⟩ :=
        ih (fun other hm => h other (List.mem_cons_of_mem _ hm)) parts hparts
      rw [List.flatMapM_cons, hfewer, ok_bind, hothers]
      exact ⟨fewer ++ others, rfl, hthinned.append hthinned'⟩

end Eased

end SwiftAudit
