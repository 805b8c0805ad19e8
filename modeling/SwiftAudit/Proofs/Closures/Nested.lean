import SwiftAudit.Proofs.Closures.Captures

namespace SwiftAudit.Rule.RetainCycle

-- A list that belongs to a closure inside of another one.
def IsNested (closure list : Node) : Prop :=
  ∃ inner ∈ closure.preorder, inner ≠ closure ∧ inner.kind = "lambda_literal" ∧
    list ∈ inner.preorder

-- A closure without a capture list of its own: those below it belong to closures inside of it.
structure LacksList (closure : Node) : Prop where
  noRole : ∀ child ∈ closure.children, ¬child.label.has .captures
  allNested : ∀ list ∈ closure.preorder, isCaptureList list → IsNested closure list

instance (closure list : Node) : Decidable (IsNested closure list) :=
  inferInstanceAs (Decidable (∃ inner ∈ closure.preorder, _))

instance (closure : Node) : Decidable (LacksList closure) :=
  decidable_of_iff ((∀ child ∈ closure.children, ¬child.label.has .captures) ∧
      ∀ list ∈ closure.preorder, isCaptureList list → IsNested closure list)
    ⟨fun ⟨h, h'⟩ => ⟨h, h'⟩, fun ⟨h, h'⟩ => ⟨h, h'⟩⟩

-- Without a list of its own a closure is taken to have the first one that stands apart from its
-- body and from the closures among its children.
theorem LacksList.countsFor_iff {closure list : Node} (h : LacksList closure) :
    CountsFor closure list ↔ closure.preorder.find? (IsApart closure ·) = some list := by
  have hrole : closure.child? .captures = none := by
    apply List.find?_eq_none.mpr
    exact h.noRole
  constructor
  · rintro (hlist | ⟨-, hlist⟩)
    · rw [hrole] at hlist
      cases hlist
    · exact hlist
  · exact .first hrole

theorem LacksList.capturesWeakly_iff {source : Source} {closure : Node} (h : LacksList closure) :
    CapturesWeakly source closure ↔
      ∃ list, closure.preorder.find? (IsApart closure ·) = some list ∧
        HoldsWeakItem source list := by
  simp only [CapturesWeakly, h.countsFor_iff]

-- The list is one of a closure below the same child.
theorem LacksList.exists_wrapper {closure list : Node} (h : LacksList closure)
    (hlist : IsApart closure list) :
    ∃ wrapper ∈ closure.children, wrapper.kind ≠ "statements" ∧ wrapper.kind ≠ "lambda_literal" ∧
      ∃ inner ∈ wrapper.preorder, inner.kind = "lambda_literal" ∧ list ∈ inner.preorder := by
  obtain ⟨hkind, wrapper, hwrapper, hbody, hclosure, hm⟩ := hlist
  obtain ⟨inner, hinner, hne, hinnerKind, hlist⟩ :=
    h.allNested list (Node.mem_preorder_of_child hwrapper hm) hkind
  obtain rfl | ⟨other, hother, hinner⟩ := Node.mem_preorder_iff.mp hinner
  · exact absurd rfl hne
  · obtain rfl := Node.eq_of_mem_siblings hwrapper hother hm
      ((Node.preorder_sublist hinner).subset hlist)
    exact ⟨wrapper, hwrapper, hbody, hclosure, inner, hinner, hinnerKind, hlist⟩

-- A closure without a capture list of its own that mentions `self` is reported, unless the first
-- capture list that stands apart holds `self` weakly. Such a list belongs to another closure,
-- inside of a child that is neither the body nor a closure itself. Where there is none, what the
-- closures inside capture makes no difference.
theorem reported_iff_of_lacksList (source : Source) (closure : Node)
    (hm : closure ∈ source.root.preorder) (hclosure : closure.kind = "lambda_literal")
    (hlacks : LacksList closure) :
    let reported := source.root.preorder.filter (isRetaining source)
    findings source = reported.map (report source) ∧
      (closure ∈ reported ↔ MentionsSelf closure ∧
        ∀ list, closure.preorder.find? (IsApart closure ·) = some list →
          ¬HoldsWeakItem source list) ∧
      (∀ list, IsApart closure list →
        ∃ wrapper ∈ closure.children, wrapper.kind ≠ "statements" ∧
          wrapper.kind ≠ "lambda_literal" ∧ ∃ inner ∈ wrapper.preorder,
            inner.kind = "lambda_literal" ∧ list ∈ inner.preorder) ∧
      ((∀ list ∈ closure.preorder, ¬IsApart closure list) →
        ¬CapturesWeakly source closure ∧ (closure ∈ reported ↔ MentionsSelf closure)) := by
  intro reported
  have hreported : closure ∈ reported ↔ MentionsSelf closure ∧ ¬CapturesWeakly source closure := by
    rw [mem_retaining_iff]
    exact ⟨fun ⟨_, h⟩ => ⟨h.mentions, h.strongly⟩, fun ⟨h, h'⟩ => ⟨hm, hclosure, h, h'⟩⟩
  refine ⟨findings_eq source, ?_, fun list => hlacks.exists_wrapper, fun hnone => ?_⟩
  · rw [hreported, hlacks.capturesWeakly_iff]
    simp only [not_exists, not_and]
  · have hstrongly : ¬CapturesWeakly source closure := by
      rw [hlacks.capturesWeakly_iff]
      rintro ⟨list, hlist, -⟩
      exact hnone list (List.mem_of_find?_eq_some hlist) (by simpa using List.find?_some hlist)
    exact ⟨hstrongly, by rw [hreported, and_iff_left hstrongly]⟩

-- A closure that mentions `self`, with a part before its body that nobody can read. There stands
-- another closure, which captures `self` weakly.
def closureInFault : Source :=
  .ofText "f.swift" "f \x7b ) g \x7b [weak self] in \x7d self \x7d" <|
    .node ⟨0, "source_file", 0, 33, true, false, true, []⟩
      [.node ⟨1, "call_expression", 0, 33, true, false, true, []⟩
        [.node ⟨2, "simple_identifier", 0, 1, true, false, false, []⟩ [],
          .node ⟨3, "call_suffix", 2, 33, true, false, true, []⟩
            [.node ⟨4, "lambda_literal", 2, 33, true, false, true, []⟩
              [.node ⟨5, "\x7b", 2, 3, false, false, false, []⟩ [],
                .node ⟨6, "ERROR", 4, 26, true, false, true, []⟩
                  [.node ⟨7, ")", 4, 5, false, false, false, []⟩ [],
                    .node ⟨8, "call_expression", 6, 26, true, false, false, []⟩
                      [.node ⟨9, "simple_identifier", 6, 7, true, false, false, []⟩ [],
                        .node ⟨10, "call_suffix", 8, 26, true, false, false, []⟩
                          [.node ⟨11, "lambda_literal", 8, 26, true, false, false, []⟩
                            [.node ⟨12, "\x7b", 8, 9, false, false, false, []⟩ [],
                              weakListTree 13 10,
                              .node ⟨20, "in", 22, 24, false, false, false, []⟩ [],
                              .node ⟨21, "\x7d", 25, 26, false, false, false, []⟩ []]]]],
                .node ⟨22, "statements", 27, 31, true, false, false, []⟩
                  [.node ⟨23, "self_expression", 27, 31, true, false, false, []⟩
                    [.node ⟨24, "self", 27, 31, false, false, false, []⟩ []]],
                .node ⟨25, "\x7d", 32, 33, false, false, false, []⟩ []]]]]

theorem reported_iff_of_lacksList_closureInFault :
    ∃ closure ∈ closureInFault.root.preorder, closure.kind = "lambda_literal" ∧
      LacksList closure ∧ MentionsSelf closure ∧
      ∃ list, closure.preorder.find? (IsApart closure ·) = some list ∧
        HoldsWeakItem closureInFault list := by
  obtain ⟨closure, hm, hclosure, hlacks, hmentions, hsilent⟩ :
      ∃ closure ∈ closureInFault.root.preorder, closure.kind = "lambda_literal" ∧
        LacksList closure ∧ anyMentionsSelf closure.tree.children ∧
        closure ∉ closureInFault.root.preorder.filter (isRetaining closureInFault) := by
    decide +kernel
  rw [anyMentionsSelf_iff_mentionsSelf] at hmentions
  obtain ⟨-, hreported, -⟩ := reported_iff_of_lacksList closureInFault closure hm hclosure hlacks
  refine ⟨closure, hm, hclosure, hlacks, hmentions, ?_⟩
  by_contra hnone
  exact hsilent (hreported.mpr ⟨hmentions, fun list h h' => hnone ⟨list, h, h'⟩⟩)

-- The capture list of the closure inside excuses the one around it.
theorem closureInFault_excused :
    ∃ closure ∈ closureInFault.root.preorder, closure.kind = "lambda_literal" ∧
      LacksList closure ∧ MentionsSelf closure ∧ CapturesWeakly closureInFault closure ∧
      findings closureInFault = [] := by
  obtain ⟨closure, hm, hclosure, hlacks, hmentions, hweakly⟩ :
      ∃ closure ∈ closureInFault.root.preorder, closure.kind = "lambda_literal" ∧
        LacksList closure ∧ anyMentionsSelf closure.tree.children ∧
        capturesWeakly closureInFault closure := by
    decide +kernel
  exact ⟨closure, hm, hclosure, hlacks, (anyMentionsSelf_iff_mentionsSelf closure).mp hmentions,
    capturesWeakly_iff.mp hweakly, by decide +kernel⟩

end SwiftAudit.Rule.RetainCycle
