import Mathlib.Data.List.Find
import SwiftAudit.Proofs.Tree.Way
import SwiftAudit.Rule.RetainCycle

namespace SwiftAudit.Rule.RetainCycle

def isCaptureList (n : Node) : Bool := n.kind == "capture_list"

-- A closure mentions `self` if the way down to some `self` passes through no capture list.
def MentionsSelf (closure : Node) : Prop :=
  ∃ d, d ≠ closure ∧ d.kind = "self_expression" ∧ Node.HasClearWay isCaptureList closure d

-- A capture list below a child that is neither the body nor another closure.
def IsApart (closure list : Node) : Prop :=
  isCaptureList list ∧ ∃ child ∈ closure.children,
    child.kind ≠ "statements" ∧ child.kind ≠ "lambda_literal" ∧ list ∈ child.preorder

instance (closure list : Node) : Decidable (IsApart closure list) :=
  inferInstanceAs (Decidable (_ ∧ _))

-- The capture list that counts for a closure.
inductive CountsFor (closure list : Node) : Prop where
  | byRole (h : closure.child? .captures = some list)
  | first (hrole : closure.child? .captures = none)
      (h : closure.preorder.find? (IsApart closure ·) = some list)

-- A blank that may be there or not.
def IsGap (text : String) : Prop := text = "" ∨ text = " "

-- The ways to write a capture of `self` that does not keep it, in a text without needless blanks.
inductive IsWeakSpelling : String → Prop where
  | weak : IsWeakSpelling "weak self"
  | unowned : IsWeakSpelling "unowned self"
  | unownedAs {safety a b c : String} (hsafety : safety = "safe" ∨ safety = "unsafe")
      (ha : IsGap a) (hb : IsGap b) (hc : IsGap c) :
      IsWeakSpelling ("unowned" ++ a ++ "(" ++ b ++ safety ++ c ++ ") self")

def HoldsWeakItem (source : Source) (list : Node) : Prop :=
  ∃ item ∈ list.namedChildren, item.kind = "capture_list_item" ∧
    IsWeakSpelling (String.ofList ([' '].intercalate (Text.words (source.chars item.label))))

def CapturesWeakly (source : Source) (closure : Node) : Prop :=
  ∃ list, CountsFor closure list ∧ HoldsWeakItem source list

-- What is reported: a closure that mentions `self` and does not capture it weakly.
structure Retains (source : Source) (n : Node) : Prop where
  isClosure : n.kind = "lambda_literal"
  mentions : MentionsSelf n
  strongly : ¬CapturesWeakly source n

def report (source : Source) (n : Node) : Finding :=
  .onNode source n Category.memoryLeaks
    ("Potential retain cycle: closure uses 'self' strongly. " ++
      "Consider using [weak self] or [unowned self]")

theorem anyMentionsSelf_iff (n : Node) :
    anyMentionsSelf n.tree.children ↔ ∃ child ∈ n.children, mentionsSelf child.tree := by
  have hany (trees : List Tree) : anyMentionsSelf trees = trees.any mentionsSelf := by
    induction trees with
    | nil => rfl
    | cons tree rest ih => rw [anyMentionsSelf, ih, List.any_cons]
  rw [hany, ← Node.map_tree_children, List.any_map, List.any_eq_true]
  rfl

theorem mentionsSelf_iff (n : Node) :
    mentionsSelf n.tree ↔
      ¬isCaptureList n ∧ (n.kind = "self_expression" ∨ anyMentionsSelf n.tree.children) := by
  obtain ⟨⟨label, children⟩, places⟩ := n
  have hkind : (⟨.node label children, places⟩ : Node).kind = label.kind := rfl
  rw [mentionsSelf, isCaptureList, hkind, Tree.children]
  by_cases hlist : label.kind = "capture_list" <;> simp [hlist]

-- By induction on the tree: a `self` is a child itself, or below a child that is no capture list.
theorem anyMentionsSelf_iff_mentionsSelf (n : Node) :
    anyMentionsSelf n.tree.children ↔ MentionsSelf n := by
  induction n using Node.childInduction with
  | node n ih =>
      rw [anyMentionsSelf_iff]
      constructor
      · rintro ⟨child, hchild, hmentions⟩
        have hself := Node.self_mem_preorder child
        obtain ⟨hclear, hkind | hbelow⟩ := (mentionsSelf_iff child).mp hmentions
        · exact ⟨child, Node.ne_of_mem_child hchild hself, hkind,
            (Node.hasClearWay_child hchild hself).mpr (.inl rfl)⟩
        · obtain ⟨d, -, hkind, hway⟩ := (ih child hchild).mp hbelow
          exact ⟨d, Node.ne_of_mem_child hchild hway.1, hkind,
            (Node.hasClearWay_child hchild hway.1).mpr (.inr ⟨hclear, hway⟩)⟩
      · rintro ⟨d, hne, hkind, hway⟩
        obtain rfl | ⟨child, hchild, hd⟩ := Node.mem_preorder_iff.mp hway.1
        · exact absurd rfl hne
        · refine ⟨child, hchild, (mentionsSelf_iff child).mpr ?_⟩
          by_cases hsame : d = child
          · subst hsame
            exact ⟨by simp [isCaptureList, hkind], .inl hkind⟩
          · obtain ⟨hclear, hway⟩ :=
              ((Node.hasClearWay_child hchild hd).mp hway).resolve_left hsame
            exact ⟨hclear, .inr ((ih child hchild).mpr ⟨d, hsame, hkind, hway⟩)⟩

-- Among the nodes below one child, either all capture lists stand apart or none does.
theorem find?_isApart_child {closure child : Node} (hchild : child ∈ closure.children) :
    child.preorder.find? (IsApart closure ·) =
      if child.kind != "statements" && child.kind != "lambda_literal" then
        child.preorder.find? isCaptureList
      else none := by
  have hapart {d : Node} (hd : d ∈ child.preorder) :
      IsApart closure d ↔ isCaptureList d ∧ child.kind ≠ "statements" ∧
        child.kind ≠ "lambda_literal" := by
    refine and_congr_right fun _ => ⟨?_, fun ⟨h, h'⟩ => ⟨child, hchild, h, h', hd⟩⟩
    rintro ⟨other, hother, h, h', hdo⟩
    obtain rfl := Node.eq_of_mem_siblings hchild hother hd hdo
    exact ⟨h, h'⟩
  split
  · rename_i hkind
    apply List.find?_congr
    intro d hd
    rw [Bool.and_eq_true, bne_iff_ne, bne_iff_ne] at hkind
    simp [hapart hd, hkind.1, hkind.2]
  · rename_i hkind
    rw [Bool.and_eq_true, bne_iff_ne, bne_iff_ne] at hkind
    apply List.find?_eq_none.mpr
    intro d hd h
    exact hkind ((hapart hd).mp (of_decide_eq_true h)).2

theorem findSome?_apart (closure : Node) :
    ((closure.children.filter fun child =>
      child.kind != "statements" && child.kind != "lambda_literal").findSome? fun child =>
        child.all.find? (·.kind == "capture_list")) =
      closure.preorder.find? (IsApart closure ·) := by
  have hself : ¬IsApart closure closure := by
    rintro ⟨-, child, hchild, -, -, h⟩
    exact Node.ne_of_mem_child hchild h rfl
  rw [Node.preorder_eq, List.find?_cons_of_neg (by simpa using hself), List.find?_flatMap,
    ← List.head?_filterMap, ← List.head?_filterMap, List.filterMap_filter]
  congr 1
  apply List.filterMap_congr
  intro child hchild
  rw [find?_isApart_child hchild, Node.all_eq_preorder]
  rfl

theorem captureList?_eq_some_iff {closure list : Node} :
    captureList? closure = some list ↔ CountsFor closure list := by
  rw [captureList?, findSome?_apart]
  constructor
  · intro h
    cases hrole : closure.child? .captures with
    | some captures =>
        rw [hrole] at h
        exact .byRole (hrole.trans h)
    | none =>
        rw [hrole] at h
        exact .first hrole h
  · rintro (h | ⟨hrole, h⟩)
    · rw [h]
      rfl
    · rw [hrole, h]
      rfl

theorem mem_weakCaptures_iff {spelling : String} :
    spelling ∈ weakCaptures ↔ IsWeakSpelling spelling := by
  have hgap {gap : String} : gap ∈ ["", " "] ↔ IsGap gap := by simp [IsGap]
  have hsafety {safety : String} :
      safety ∈ ["safe", "unsafe"] ↔ safety = "safe" ∨ safety = "unsafe" := by simp
  rw [weakCaptures, List.mem_cons, List.mem_cons]
  simp only [List.mem_flatMap, List.mem_map, hgap, hsafety]
  constructor
  · rintro (rfl | rfl | ⟨a, ha, b, hb, c, hc, safety, hsafety, rfl⟩)
    · exact .weak
    · exact .unowned
    · exact .unownedAs hsafety ha hb hc
  · rintro (_ | _ | ⟨hsafety, ha, hb, hc⟩)
    · exact .inl rfl
    · exact .inr (.inl rfl)
    · exact .inr (.inr ⟨_, ha, _, hb, _, hc, _, hsafety, rfl⟩)

theorem any_isWeakCapture_iff {source : Source} {list : Node} :
    list.namedChildren.any (isWeakCapture source) ↔ HoldsWeakItem source list := by
  simp only [List.any_eq_true, isWeakCapture, Bool.and_eq_true, beq_iff_eq, List.contains_iff_mem,
    mem_weakCaptures_iff, HoldsWeakItem]

theorem capturesWeakly_iff {source : Source} {closure : Node} :
    capturesWeakly source closure ↔ CapturesWeakly source closure := by
  simp only [capturesWeakly, Option.any_eq_true, captureList?_eq_some_iff, any_isWeakCapture_iff,
    CapturesWeakly]

theorem isRetaining_iff {source : Source} {n : Node} : isRetaining source n ↔ Retains source n := by
  rw [isRetaining, Bool.and_eq_true, Bool.and_eq_true, beq_iff_eq, Bool.not_eq_true',
    ← Bool.not_eq_true, capturesWeakly_iff, anyMentionsSelf_iff_mentionsSelf]
  exact ⟨fun ⟨⟨h, h'⟩, h''⟩ => ⟨h, h'', h'⟩, fun ⟨h, h'', h'⟩ => ⟨⟨h, h'⟩, h''⟩⟩

theorem findings_eq (source : Source) :
    findings source = (source.root.preorder.filter (isRetaining source)).map (report source) := by
  rw [findings, Source.nodes, Node.all_eq_preorder]
  rfl

theorem mem_retaining_iff {source : Source} {n : Node} :
    n ∈ source.root.preorder.filter (isRetaining source) ↔
      n ∈ source.root.preorder ∧ Retains source n := by
  rw [List.mem_filter, isRetaining_iff]

-- What a closure mentions is mentioned by each one around it, as far out as no capture list stands
-- between.
theorem MentionsSelf.outer {outer inner : Node} (h : MentionsSelf inner)
    (hway : Node.HasClearWay isCaptureList outer inner) (hclosure : inner.kind = "lambda_literal") :
    MentionsSelf outer := by
  obtain ⟨d, hne, hkind, hd⟩ := h
  refine ⟨d, ?_, hkind, hway.trans hd (by simp [isCaptureList, hclosure])⟩
  rintro rfl
  exact hne (Node.preorder_antisymm hd.1 hway.1)

-- Each closure is reported that mentions `self` and does not capture it weakly, once and in the
-- order of the text. A closure around a reported one is reported too, at any depth, unless it
-- captures `self` weakly itself, or a capture list stands between the two.
theorem findings_eq_retaining (source : Source) :
    let reported := source.root.preorder.filter (isRetaining source)
    findings source = reported.map (report source) ∧ reported.Nodup ∧
      (∀ n, n ∈ reported ↔ n ∈ source.root.preorder ∧ Retains source n) ∧
      ∀ outer ∈ source.root.preorder, ∀ inner ∈ reported, outer.kind = "lambda_literal" →
        Node.HasClearWay isCaptureList outer inner →
          (outer ∈ reported ↔ ¬CapturesWeakly source outer) := by
  intro reported
  refine ⟨findings_eq source, (Node.nodup_preorder _).sublist List.filter_sublist,
    fun n => mem_retaining_iff, ?_⟩
  intro outer houter inner hinner hclosure hway
  obtain ⟨-, hretains⟩ := mem_retaining_iff.mp hinner
  constructor
  · intro hm
    exact (mem_retaining_iff.mp hm).2.strongly
  · intro hstrongly
    have hmentions := hretains.mentions.outer hway hretains.isClosure
    exact mem_retaining_iff.mpr ⟨houter, hclosure, hmentions, hstrongly⟩

-- The capture list `[weak self]` at an offset.
def weakListTree (number start : Nat) : Tree :=
  .node ⟨number, "capture_list", start, start + 11, true, false, false, [.captures]⟩
    [.node ⟨number + 1, "[", start, start + 1, false, false, false, []⟩ [],
      .node ⟨number + 2, "capture_list_item", start + 1, start + 10, true, false, false, []⟩
        [.node ⟨number + 3, "ownership_modifier", start + 1, start + 5, true, false, false, []⟩
          [.node ⟨number + 4, "weak", start + 1, start + 5, false, false, false, []⟩ []],
          .node ⟨number + 5, "simple_identifier", start + 6, start + 10, true, false, false, [.name]⟩
            []],
      .node ⟨number + 6, "]", start + 10, start + 11, false, false, false, []⟩ []]

-- A closure in one that captures `self` weakly, in one that does not.
def nestedClosures : Source :=
  .ofText "f.swift" "f \x7b g \x7b [weak self] in h \x7b self \x7d \x7d \x7d" <|
    .node ⟨0, "source_file", 0, 37, true, false, false, []⟩
      [.node ⟨1, "lambda_literal", 2, 37, true, false, false, []⟩
        [.node ⟨2, "statements", 4, 35, true, false, false, []⟩
          [.node ⟨3, "lambda_literal", 6, 35, true, false, false, []⟩
            [weakListTree 4 8,
              .node ⟨11, "statements", 23, 33, true, false, false, []⟩
                [.node ⟨12, "lambda_literal", 25, 33, true, false, false, []⟩
                  [.node ⟨13, "statements", 27, 31, true, false, false, []⟩
                    [.node ⟨14, "self_expression", 27, 31, true, false, false, []⟩ []]]]]]]]

theorem findings_eq_retaining_nestedClosures :
    ∃ outer ∈ nestedClosures.root.preorder,
      ∃ inner ∈ nestedClosures.root.preorder.filter (isRetaining nestedClosures),
        outer.kind = "lambda_literal" ∧ Node.HasClearWay isCaptureList outer inner ∧
          ¬CapturesWeakly nestedClosures outer ∧ outer ≠ inner ∧
          outer ∈ nestedClosures.root.preorder.filter (isRetaining nestedClosures) ∧
          (findings nestedClosures).length = 2 := by
  obtain ⟨outer, houter, inner, hinner, hclosure, hway, hstrongly, hne⟩ :
      ∃ outer ∈ nestedClosures.root.preorder,
        ∃ inner ∈ nestedClosures.root.preorder.filter (isRetaining nestedClosures),
          outer.kind = "lambda_literal" ∧ Node.HasClearWay isCaptureList outer inner ∧
            ¬capturesWeakly nestedClosures outer ∧ outer ≠ inner := by
    decide +kernel
  rw [capturesWeakly_iff] at hstrongly
  have hreported := (findings_eq_retaining nestedClosures).2.2.2 outer houter inner hinner
    hclosure hway
  exact ⟨outer, houter, inner, hinner, hclosure, hway, hstrongly, hne, hreported.mpr hstrongly,
    by decide +kernel⟩

end SwiftAudit.Rule.RetainCycle
