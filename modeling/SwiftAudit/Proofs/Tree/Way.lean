import SwiftAudit.Proofs.Tree.Ancestors

namespace SwiftAudit.Node

section Way

variable (bars : Node → Bool)

-- No node that bars the way stands between a node and one below it. The two ends do not count.
def HasClearWay (n d : Node) : Prop :=
  d ∈ n.preorder ∧ ∀ e ∈ n.preorder, d ∈ e.preorder → e ≠ n → e ≠ d → ¬bars e

instance (n d : Node) : Decidable (HasClearWay bars n d) :=
  inferInstanceAs (Decidable (_ ∧ _))

variable {bars}

theorem preorder_antisymm {a b : Node} (ha : a ∈ b.preorder) (hb : b ∈ a.preorder) : a = b := by
  by_contra hne
  have hlt := depth_lt_of_mem_ancestors (mem_ancestors_of_below ha hne)
  have hle := depth_le hb
  omega

-- The way down from a node goes through the child that holds its end, and no other one.
theorem hasClearWay_child {n child d : Node} (hchild : child ∈ n.children)
    (h : d ∈ child.preorder) :
    HasClearWay bars n d ↔ d = child ∨ ¬bars child ∧ HasClearWay bars child d := by
  have hn := mem_preorder_of_child hchild h
  have hself := self_mem_preorder child
  constructor
  · rintro ⟨-, hway⟩
    by_cases hd : d = child
    · exact .inl hd
    · have hne := ne_of_mem_child hchild hself
      have hclear := hway child (mem_preorder_of_child hchild hself) h hne (Ne.symm hd)
      refine .inr ⟨hclear, h, fun e he hde _ hed => ?_⟩
      exact hway e (mem_preorder_of_child hchild he) hde (ne_of_mem_child hchild he) hed
  · intro hway
    refine ⟨hn, fun e he hde hne hed => ?_⟩
    obtain rfl | ⟨other, hother, he⟩ := mem_preorder_iff.mp he
    · exact absurd rfl hne
    · obtain rfl := eq_of_mem_siblings hchild hother h ((preorder_sublist he).subset hde)
      rcases hway with rfl | ⟨hclear, -, hway⟩
      · exact absurd (preorder_antisymm he hde) hed
      · by_cases hec : e = child
        · rwa [hec]
        · exact hway e he hde hec hed

-- Two clear ways make one, unless the node where they meet bars it.
theorem HasClearWay.trans {outer inner d : Node} (houter : HasClearWay bars outer inner)
    (hinner : HasClearWay bars inner d) (hclear : ¬bars inner) : HasClearWay bars outer d := by
  induction outer using childInduction with
  | node outer ih =>
      obtain rfl | ⟨child, hchild, hbelow⟩ := mem_preorder_iff.mp houter.1
      · exact hinner
      · have hd := (preorder_sublist hbelow).subset hinner.1
        refine (hasClearWay_child hchild hd).mpr (.inr ?_)
        rcases (hasClearWay_child hchild hbelow).mp houter with rfl | ⟨hchildClear, hway⟩
        · exact ⟨hclear, hinner⟩
        · exact ⟨hchildClear, ih child hchild hway⟩

end Way

end SwiftAudit.Node
